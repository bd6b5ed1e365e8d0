import HostView.Proofs.Render.Course

/-!
# While the platform thread waits

A platform thread that waits inside a resize can only fall asleep or return
(`Session.driven_of_waiting`).  A turn of the render loop that begins then draws at the size that
is waited for, and stays on its track until it has presented the episode, provided that the device
goes along (`Session.onTrack_course`).
-/

namespace HostView

/-- The device has neither panicked nor refused to resize the surface. -/
def DeviceEvent.wentWell : DeviceEvent → Bool
  | ⟨.resize _ _, .returned (.error _)⟩ => false
  | ⟨_, .panicked _⟩ => false
  | _ => true

@[simp] theorem DeviceEvent.wentWell_panicked (call : DeviceCall) (m : String) :
    (DeviceEvent.mk call (.panicked m)).wentWell = false := by
  cases call <;> rfl

namespace Session

variable {σ : Type}

/-- The platform thread waits inside a resize for an episode. -/
def WaitsFor (s : Session σ) (p : ThreadId) (episode : Nat) : Prop :=
  ∃ size, Waiting size episode (s.stack p)

/-- Nothing keeps a thread that waited for the episode from going on. -/
structure Released (s : Session σ) (p : ThreadId) (episode : Nat) : Prop where
  past : episode ≤ s.coordinator.presented
  awake : s.stack p ≠ [.asleep episode]

/-- A step in which the device goes along. -/
def WentWell (x : DriveStep σ) : Prop :=
  ∀ d : DeviceEvent, .device d ∈ x.result.events → d.wentWell = true

/-- The render loop ends a turn. -/
structure EndsTurn (x : DriveStep σ) : Prop where
  move : x.move = .render
  begun : x.before.loop.stage ≠ .starting
  ended : x.result.next.loop.stage = .testing

/-- The turn that the render loop is in, or is about to begin, draws at the last size. -/
def OnTrack (s : Session σ) : Prop :=
  s.loop.stage = .testing ∨ s.loop.stage = .receiving ∨ s.loop.stage = .draining ∨
    s.loop.stage = .acquiring ∧ s.bus.sizes = [] ∨
    s.loop.stage = .swapping ∧ s.coordinator.phase = .frameReady

variable [SurfaceDevice σ] {p : ThreadId} {start s : Session σ} {b : Size}
  {steps : List (DriveStep σ)} {zs rs : List Size} {m : DriveMove} {moved : SessionMoved σ}
  {e : Nat}

/-! ### Moves while the platform thread waits -/

omit [SurfaceDevice σ] in
theorem WaitsFor.cases (waits : s.WaitsFor p e) :
    ∃ a, s.stack p = [a] ∧
      ((∃ size, a = .told size (some e)) ∨ a = .asleep e ∨ a = .woken e) := by
  obtain ⟨size, waiting⟩ := waits
  obtain top | top | top := waiting_iff.1 waiting
  · exact ⟨_, top, .inl ⟨size, rfl⟩⟩
  · exact ⟨_, top, .inr (.inl rfl)⟩
  · exact ⟨_, top, .inr (.inr rfl)⟩

/-- While the platform thread waits it can only return or fall asleep. -/
theorem driven_of_waiting (waits : s.WaitsFor p e) (made : Driven p s m moved) :
    (m = .render ∧ Rendered s moved) ∨
      (m = .proceed ∧ moved.next = s.withStack p [] ∧ e ≤ s.coordinator.presented ∧
        moved.reply = some (.returned .done)) ∨
      m = .proceed ∧ moved.next = s.withStack p [.asleep e] ∧ s.coordinator.presented < e := by
  obtain ⟨a, only, kind⟩ := waits.cases
  have same {a' : Activity} (top : s.stack p = [a']) : a' = a := by
    rw [only] at top
    exact (List.cons.inj top).1.symm
  have episode {a' : Activity} {e' : Nat} (top : s.stack p = [a'])
      (waiting : (∃ size, a' = .told size (some e')) ∨ a' = .woken e') : e' = e := by
    obtain rfl := same top
    obtain ⟨_, rfl⟩ | rfl := waiting <;> simpa using kind
  cases made with
  | asked free => simp [free] at only
  | used free => simp [free] at only
  | registered top =>
    obtain rfl := same top
    simp at kind
  | told top =>
    obtain rfl := same top
    simp at kind
  | done top =>
    obtain rfl := same top
    simp at kind
  | released top waiting past =>
    obtain rfl := episode top waiting
    exact .inr (.inl ⟨rfl, rfl, past, rfl⟩)
  | slept top waiting outstanding =>
    obtain rfl := episode top waiting
    exact .inr (.inr ⟨rfl, rfl, outstanding⟩)
  | stopped free => simp [free] at only
  | rendered made => exact .inl ⟨rfl, made⟩

/-- A thread waits on until it returns, and it returns only when its episode has been presented. -/
theorem waiting_step (other : p ≠ renderThread) (waits : s.WaitsFor p e)
    (made : Driven p s m moved) :
    moved.next.WaitsFor p e ∨ moved.next.stack p = [] ∧ e ≤ s.coordinator.presented := by
  obtain ⟨-, rendered⟩ | ⟨-, next, past, -⟩ | ⟨-, next, -⟩ := driven_of_waiting waits made
  · obtain ⟨size, waiting⟩ := waits
    obtain ⟨-, same | woken⟩ := apart_of_rendered other rendered
    · exact .inl ⟨size, by rwa [same]⟩
    · exact .inl ⟨size, by rw [woken]; exact waiting.wake⟩
  · exact .inr ⟨by simp [next], past⟩
  · refine .inl ⟨.zero, ?_⟩
    rw [next, withStack_same]
    exact .asleep

/-- Unless the render thread crashes, no step takes back a presented episode. -/
theorem presented_step (standing : Standing b zs rs (s.scene p)) (made : Driven p s m moved)
    (alive : moved.next.loop.stage ≠ .crashed) :
    s.coordinator.presented ≤ moved.next.coordinator.presented := by
  cases made with
  | used _ _ handshake =>
    exact Nat.le_of_eq (congrArg Coordinator.presented (coordinator_of_handshake handshake)).symm
  | registered top entry => cases entry <;> exact Nat.le_refl _
  | rendered made =>
    cases made with
    | presented => exact standing.presented_le
    | crashed => exact absurd rfl alive
    | _ => exact Nat.le_refl _
  | _ => exact Nat.le_refl _

/-! ### A turn on its track -/

omit [SurfaceDevice σ] in
/-- When nothing more is on the bus, the render loop has the size that is waited for. -/
theorem size_of_waiting (standing : Standing b zs rs (s.scene p)) (waits : s.WaitsFor p e)
    (empty : s.bus.sizes = []) (outstanding : s.coordinator.presented < e) :
    s.loop.size.isEmpty = false ∧
      (s.coordinator.phase = .requested s.loop.size ∨ s.coordinator.phase = .frameReady) := by
  obtain ⟨size, waiting⟩ := waits
  obtain ⟨-, last, -, full, pipe, outlook⟩ := standing.of_waiting waiting
  have drawn : s.loop.size = last := by
    change (s.loop.size :: s.bus.sizes).getLast? = some last at pipe
    rw [empty] at pipe
    exact Option.some.inj pipe
  refine ⟨by rw [drawn, full], ?_⟩
  rw [drawn]
  cases outlook with
  | asked phase => exact .inl phase
  | ready phase => exact .inr phase
  | past _ past => exact absurd past (Nat.not_le.2 outstanding)

/-- A turn that is on its track stays there until it presents the episode that is waited for. -/
theorem onTrack_render (wired : s.Wired p) (standing : Standing b zs rs (s.scene p))
    (aligned : s.Aligned p) (waits : s.WaitsFor p e)
    (outstanding : s.coordinator.presented < e) (onTrack : s.OnTrack)
    (made : Rendered s moved) (well : WentWell ⟨s, .render, moved⟩) :
    e ≤ moved.next.coordinator.presented ∨
      moved.next.OnTrack ∧ moved.next.loop.stage ≠ .testing := by
  have newest : e = s.coordinator.started := by
    obtain ⟨size, waiting⟩ := waits
    exact (standing.of_waiting waiting).1
  cases made with
  | started stage => simp [OnTrack, stage] at onTrack
  | tested stage =>
    obtain ⟨a, top, -⟩ := waits.cases
    right
    simp [OnTrack, wired.running top]
  | idled => exact .inr ⟨.inr (.inr (.inl rfl)), by simp⟩
  | received => exact .inr ⟨.inr (.inr (.inl rfl)), by simp⟩
  | drained stage empty =>
    have none_left : s.bus.sizes = [] := by rw [Bus.sizes, empty]; rfl
    obtain ⟨full, -⟩ := size_of_waiting standing waits none_left outstanding
    right
    simp [OnTrack, full, Bus.sizes]
  | @took event queue stage =>
    have still : (s.loop.consume event).stage = .draining := by cases event <;> exact stage
    right
    simp [OnTrack, still]
  | passed stage other =>
    have none_left : s.bus.sizes = [] := by simpa [OnTrack, stage] using onTrack
    obtain ⟨-, asked | ready⟩ := size_of_waiting standing waits none_left outstanding
    · exact absurd asked other
    · rw [aligned.swapping ready] at stage
      cases stage
  | @failed d error =>
    cases well
      ⟨.resize s.coordinator.surface.target s.loop.size, .returned (.error error)⟩ (by simp)
  | readied => exact .inr ⟨.inr (.inr (.inr (.inr ⟨rfl, rfl⟩))), by simp⟩
  | refused stage asked => simp [OnTrack, stage, asked] at onTrack
  | plain stage idle => simp [OnTrack, stage, idle] at onTrack
  | presented => exact .inl (Nat.le_of_eq newest)
  | woke stage => simp [OnTrack, stage] at onTrack
  | announced stage => simp [OnTrack, stage] at onTrack
  | cleared stage => simp [OnTrack, stage] at onTrack
  | crashed _ _ _ seen => simpa using well _ seen

/-! ### Runs in which the device goes along -/

section Runs

variable {l : List (DriveStep σ)} {s' : Session σ}

/-- What every move of a live session keeps holds after a run in which the device goes along. -/
theorem Live.keeps {P : List (DriveStep σ) → Session σ → Prop} (live : Live b p steps s)
    (other : p ≠ renderThread) (drives : Drives p s l s') (well : ∀ x ∈ l, WentWell x)
    (nil : P [] s)
    (snoc : ∀ {l t m moved}, Live b p (steps ++ l) t → Driven p t m moved →
      WentWell ⟨t, m, moved⟩ → moved.next.loop.stage ≠ .crashed → P l t →
        P (l ++ [⟨t, m, moved⟩]) moved.next) :
    Live b p (steps ++ l) s' ∧ P l s' := by
  induction drives with
  | nil => exact ⟨by rwa [List.append_nil], nil⟩
  | @snoc l t m moved path taken ih =>
    obtain ⟨live', kept⟩ := ih fun x mem => well x (by simp [mem])
    have well' := well ⟨t, m, moved⟩ (by simp)
    have made := driven other live'.wired taken
    have alive : moved.next.loop.stage ≠ .crashed := by
      intro crashed
      obtain ⟨call, message, -, -, mem⟩ := panicked_of_crash live'.alive made crashed
      simpa using well' _ mem
    refine ⟨?_, snoc live' made well' alive kept⟩
    rw [← List.append_assoc]
    exact live'.step other made alive

theorem Live.course (live : Live b p steps s) (other : p ≠ renderThread)
    (drives : Drives p s l s') (well : ∀ x ∈ l, WentWell x) : Live b p (steps ++ l) s' :=
  (live.keeps (P := fun _ _ => True) other drives well trivial fun _ _ _ _ _ => trivial).1

theorem presented_course (live : Live b p steps s) (other : p ≠ renderThread)
    (drives : Drives p s l s') (well : ∀ x ∈ l, WentWell x) :
    s.coordinator.presented ≤ s'.coordinator.presented := by
  refine (live.keeps (P := fun _ t => s.coordinator.presented ≤ t.coordinator.presented) other
    drives well (Nat.le_refl _) ?_).2
  intro l t m moved live' made well' alive before
  exact Nat.le_trans before (presented_step live'.standing made alive)

/-- A thread waits until its episode has been presented. -/
theorem waiting_course (live : Live b p steps s) (other : p ≠ renderThread)
    (waits : s.WaitsFor p e) (drives : Drives p s l s') (well : ∀ x ∈ l, WentWell x) :
    s'.WaitsFor p e ∨ e ≤ s'.coordinator.presented := by
  refine (live.keeps (P := fun _ t => t.WaitsFor p e ∨ e ≤ t.coordinator.presented) other
    drives well (.inl waits) ?_).2
  intro l t m moved live' made well' alive before
  have grown := presented_step live'.standing made alive
  obtain waits' | past := before
  · obtain still | ⟨-, past⟩ := waiting_step other waits' made
    · exact .inl still
    · exact .inr (Nat.le_trans past grown)
  · exact .inr (Nat.le_trans past grown)

/-- No turn that begins while the thread waits ends before the episode has been presented. -/
theorem onTrack_course (live : Live b p steps s) (other : p ≠ renderThread)
    (waits : s.WaitsFor p e) (onTrack : s.OnTrack) (drives : Drives p s l s')
    (well : ∀ x ∈ l, WentWell x) :
    e ≤ s'.coordinator.presented ∨
      s'.WaitsFor p e ∧ s'.OnTrack ∧ ∀ x ∈ l, ¬ EndsTurn x := by
  refine (live.keeps (P := fun l t => e ≤ t.coordinator.presented ∨
    t.WaitsFor p e ∧ t.OnTrack ∧ ∀ x ∈ l, ¬ EndsTurn x) other drives well
    (.inr ⟨waits, onTrack, by simp⟩) ?_).2
  intro l t m moved live' made well' alive before
  have grown := presented_step live'.standing made alive
  obtain past | ⟨waits', onTrack', going⟩ := before
  · exact .inl (Nat.le_trans past grown)
  by_cases outstanding : t.coordinator.presented < e
  swap
  · exact .inl (Nat.le_trans (Nat.not_lt.1 outstanding) grown)
  have goes_on : moved.next.OnTrack → ¬ EndsTurn ⟨t, m, moved⟩ → moved.next.WaitsFor p e →
      moved.next.WaitsFor p e ∧ moved.next.OnTrack ∧
        ∀ x ∈ l ++ [⟨t, m, moved⟩], ¬ EndsTurn x := by
    intro onTrack'' unended still
    refine ⟨still, onTrack'', fun x mem => ?_⟩
    obtain old | rfl := List.mem_append.1 mem |>.imp_right List.mem_singleton.1
    · exact going x old
    · exact unended
  obtain still | ⟨-, past⟩ := waiting_step other waits' made
  swap
  · exact .inl (Nat.le_trans past grown)
  obtain ⟨rfl, rendered⟩ | ⟨rfl, next, -⟩ | ⟨rfl, next, -⟩ := driven_of_waiting waits' made
  · obtain past | ⟨onTrack'', unended⟩ := onTrack_render live'.wired live'.standing live'.aligned
      waits' outstanding onTrack' rendered well'
    · exact .inl past
    · exact .inr (goes_on onTrack'' (fun ends => unended ends.ended) still)
  · refine .inr (goes_on ?_ (fun ends => nomatch ends.move) still)
    rw [next]
    exact onTrack'
  · refine .inr (goes_on ?_ (fun ends => nomatch ends.move) still)
    rw [next]
    exact onTrack'

end Runs

end Session

end HostView
