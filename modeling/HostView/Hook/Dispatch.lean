import HostView.Hook.Basic
import HostView.Work

/-!
# Dispatching to the hook chain

While a dispatch runs, it has taken the whole chain out of its slot.  What hooks register
meanwhile gathers in the slot, and a dispatch that is entered from a hook takes what it finds
there.  A dispatch that ends puts its chain back in front of what has gathered.

`Dispatcher.step` makes one step of the innermost dispatch, and `Dispatcher.run` makes them all;
it ends because every step uses up a piece of some script, or else brings a dispatch nearer to
its end.
-/

namespace HostView

/-- A dispatch under way: the hooks that have been called, the one being called with what it has
yet to do and whether it will keep the call, and the hooks still to be called. -/
structure DispatchFrame where
  callback : Callback
  visited : List Hook := []
  running : Option (Hook × List Action) := none
  keeps : Bool := false
  waiting : List Hook

/-- The slot of the chain and the dispatches under way, the innermost first. -/
structure Dispatcher where
  slot : List Hook
  frames : List DispatchFrame

/-- What is seen of a dispatch from outside. -/
inductive Signal
  /-- The slot was locked for a moment. -/
  | touched
  /-- A hook was called. -/
  | called (manner : Manner) (callback : Callback)
  /-- A hook moved the pointer. -/
  | pointed (input : PointerInput)
  /-- A dispatch that was entered from a hook has ended. -/
  | returned (callback : Callback) (consumed : Bool)

/-- What one step of a dispatcher comes to. -/
inductive Progress
  | onward (next : Dispatcher) (signals : List Signal)
  | ended (slot : List Hook) (consumed : Bool) (signals : List Signal)
  | panicked (slot : List Hook) (message : String)

/-- All the hooks of a dispatch, in the order of the chain. -/
def DispatchFrame.chain (f : DispatchFrame) : List Hook :=
  f.visited ++ (f.running.map (·.1)).toList ++ f.waiting

namespace Dispatcher

/-- A new dispatch takes the chain out of its slot. -/
def enter (slot : List Hook) (frames : List DispatchFrame) (callback : Callback) : Dispatcher :=
  ⟨[], { callback, waiting := slot } :: frames⟩

/-- The innermost dispatch ends. -/
def leave (slot : List Hook) (f : DispatchFrame) (outer : List DispatchFrame) (consumed : Bool) :
    Progress :=
  let slot := f.chain ++ slot
  match outer with
  | [] => .ended slot consumed [.touched]
  | _ :: _ => .onward ⟨slot, outer⟩ [.touched, .returned f.callback consumed]

/-- One step of the innermost dispatch `f`. -/
def step (slot : List Hook) (f : DispatchFrame) (outer : List DispatchFrame) : Progress :=
  match f.running with
  | some (h, a :: as) =>
    let f := { f with running := some (h, as) }
    match a with
    | .register g => .onward ⟨slot ++ [g], f :: outer⟩ [.touched]
    | .enter callback => .onward (enter slot (f :: outer) callback) [.touched]
    | .point input => .onward ⟨slot, f :: outer⟩ [.pointed input]
    | .panic message => .panicked slot message
  | some (h, []) =>
    if f.keeps then leave slot f outer true
    else .onward ⟨slot, { f with visited := f.visited ++ [h], running := none } :: outer⟩ []
  | none =>
    match f.waiting with
    | [] => leave slot f outer false
    | h :: hs =>
      let r := h.react f.callback
      let keeps := h.consumes f.callback
      .onward ⟨slot, { f with running := some (r.2, r.1), keeps, waiting := hs } :: outer⟩
        [.called h.manner f.callback]

/-! ### Every dispatch ends -/

/-- How much a list of hooks has left to do. -/
noncomputable def weight (hs : List Hook) : Nat := hs.foldr (fun h n => sizeOf h.script + n) 0

/-- How much a dispatch has left to do. -/
noncomputable def frameWeight (f : DispatchFrame) : Nat :=
  weight f.visited + weight f.waiting +
    match f.running with
    | none => 1
    | some (h, actions) => sizeOf h.script + sizeOf actions

/-- How far a dispatch is from its end if no script has anything left. -/
def frameSpan (f : DispatchFrame) : Nat :=
  2 * f.waiting.length + (if f.running.isSome then 1 else 0)

/-- How much the slot and all dispatches have left to do. -/
noncomputable def totalWeight (d : Dispatcher) : Nat :=
  weight d.slot + d.frames.foldr (frameWeight · + ·) 0

def totalSpan (d : Dispatcher) : Nat := d.frames.foldr (frameSpan · + ·) 0

@[simp] theorem weight_nil : weight [] = 0 := rfl

@[simp] theorem weight_cons (h : Hook) (hs : List Hook) :
    weight (h :: hs) = sizeOf h.script + weight hs := rfl

@[simp] theorem weight_append (as bs : List Hook) : weight (as ++ bs) = weight as + weight bs := by
  induction as with
  | nil => simp
  | cons a as ih => rw [List.cons_append, weight_cons, weight_cons, ih, Nat.add_assoc]

theorem sizeOf_script_lt (h : Hook) : sizeOf h.script < sizeOf h := by
  cases h
  simp only [Hook.script, Hook.mk.sizeOf_spec]
  omega

theorem sizeOf_takeReaction (kind : CallbackKind) (rs : List Reaction) :
    takeReaction kind rs = ([], rs) ∨
      sizeOf (takeReaction kind rs).1 + sizeOf (takeReaction kind rs).2 < sizeOf rs + 1 := by
  induction rs with
  | nil => exact .inl rfl
  | cons r rs ih =>
    unfold takeReaction
    split
    · right
      cases r
      simp only [Reaction.actions, List.cons.sizeOf_spec, Reaction.mk.sizeOf_spec]
      omega
    · rcases ih with h | h
      · left; simp only [h]
      · right
        simp only [List.cons.sizeOf_spec]
        omega

theorem weight_react (h : Hook) (c : Callback) :
    (h.react c).1 = [] ∧ sizeOf (h.react c).2.script = sizeOf h.script ∨
      sizeOf (h.react c).1 + sizeOf (h.react c).2.script < sizeOf h.script + 1 := by
  unfold Hook.react
  split
  · rcases sizeOf_takeReaction c.kind h.script with e | e
    · left; rw [e]; exact ⟨rfl, rfl⟩
    · right; exact e
  · left; simp

theorem sizeOf_pos (actions : List Action) : 0 < sizeOf actions := by
  cases actions
  · simp only [List.nil.sizeOf_spec]; omega
  · simp only [List.cons.sizeOf_spec]; omega

theorem weight_chain (f : DispatchFrame) : weight f.chain < frameWeight f := by
  cases f with
  | mk c vs r ks ws =>
    cases r with
    | none => simp [DispatchFrame.chain, frameWeight]
    | some p =>
      have := sizeOf_pos p.2
      simp [DispatchFrame.chain, frameWeight]; omega

theorem leave_decreases {slot : List Hook} {f : DispatchFrame} {outer : List DispatchFrame}
    {consumed : Bool} {d : Dispatcher} {signals : List Signal}
    (h : leave slot f outer consumed = .onward d signals) :
    d.totalWeight < (Dispatcher.mk slot (f :: outer)).totalWeight := by
  unfold leave at h
  split at h
  · cases h
  · cases h
    have := weight_chain f
    simp [totalWeight]; omega

theorem step_decreases {slot : List Hook} {f : DispatchFrame} {outer : List DispatchFrame}
    {d : Dispatcher} {signals : List Signal} (h : step slot f outer = .onward d signals) :
    Prod.Lex (· < ·) (· < ·) (d.totalWeight, d.totalSpan)
      ((Dispatcher.mk slot (f :: outer)).totalWeight,
        (Dispatcher.mk slot (f :: outer)).totalSpan) := by
  rw [Prod.lex_def]
  unfold step at h
  split at h
  · rename_i g a as hr
    split at h
    · rename_i k
      cases h
      have := sizeOf_script_lt k
      left; simp [totalWeight, frameWeight, hr]; omega
    · cases h
      left; simp [totalWeight, frameWeight, enter, hr]; omega
    · cases h
      left
      simp only [totalWeight, frameWeight, hr, List.foldr_cons, List.cons.sizeOf_spec]
      omega
    · cases h
  · rename_i g hr
    split at h
    · exact .inl (leave_decreases h)
    · cases h
      right; simp [totalWeight, totalSpan, frameWeight, frameSpan, hr]; omega
  · rename_i hr
    split at h
    · exact .inl (leave_decreases h)
    · rename_i g gs hw
      cases h
      rcases weight_react g f.callback with ⟨e, e'⟩ | e
      · right
        simp only [totalWeight, totalSpan, frameWeight, frameSpan, hr, hw, e, e', List.foldr_cons,
          weight_cons, List.length_cons, Option.isSome_some, Option.isSome_none,
          List.nil.sizeOf_spec, reduceIte, Bool.false_eq_true]
        omega
      · left
        simp only [totalWeight, frameWeight, hr, hw, List.foldr_cons, weight_cons]
        omega

/-! ### Whole dispatches -/

/-- How a dispatch ended, and the chain that it left in the slot. -/
structure Ended where
  outcome : Outcome Bool
  slot : List Hook
  signals : List Signal

/-- Makes steps until the outermost dispatch has ended. -/
def run (slot : List Hook) (f : DispatchFrame) (outer : List DispatchFrame) : Ended :=
  match _hs : step slot f outer with
  | .onward ⟨slot', []⟩ signals => ⟨.returned false, slot', signals⟩
  | .onward ⟨slot', f' :: outer'⟩ signals =>
    let rest := run slot' f' outer'
    { rest with signals := signals ++ rest.signals }
  | .ended slot consumed signals => ⟨.returned consumed, slot, signals⟩
  | .panicked slot message => ⟨.panicked message, slot, []⟩
termination_by
  ((Dispatcher.mk slot (f :: outer)).totalWeight, (Dispatcher.mk slot (f :: outer)).totalSpan)
decreasing_by exact step_decreases _hs

/-- Calls the hooks of a chain; a key stops at the first hook that keeps it. -/
def dispatch (chain : List Hook) (callback : Callback) : Ended :=
  let ended := run [] { callback, waiting := chain } []
  { ended with signals := .touched :: ended.signals }

end Dispatcher

end HostView
