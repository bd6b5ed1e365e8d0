import HostView.Pointer.Event

/-!
# Normalising the pointer

The engine expects every pointer to be added, to hover, go down, move and go up, and to be
removed, in phases that agree with the buttons that it was last told.  `Normalizer.dispatch`
rewrites the reports of the window system into such a stream: it adds a pointer that was never
announced, drops what makes no sense, and derives the phase from the buttons held before and
after the report.
-/

namespace HostView

/-- What the engine has been told about the pointer. -/
structure PointerState where
  buttons : Buttons := .none
  added : Bool := false
  down : Bool := false
deriving DecidableEq

namespace PointerState

/-- The phase of the next event, `buttons` being the mask that it will carry. -/
def phase (s : PointerState) : Phase :=
  match s.down, s.buttons.isEmpty with
  | true, true => .up
  | true, false => .move
  | false, true => .hover
  | false, false => .down

/-- The pointer is down from the event that brings the first button until the one that takes the
last away. -/
def settle (s : PointerState) : Phase → PointerState
  | .up => { s with down := false }
  | .down | .move => if s.buttons.isEmpty then s else { s with down := true }
  | _ => s

end PointerState

/-- The state of the pointer and the position of the last event. -/
structure Normalizer where
  state : PointerState := {}
  last : Point := .origin

/-- Why a report leads to no event. -/
inductive Dropped
  | duplicateAdd
  | removeWithoutAdd
  | noButton
deriving DecidableEq

/-- What a report led to. -/
structure Dispatch where
  next : Normalizer
  events : List PointerEvent := []
  dropped : Option Dropped := none

namespace Normalizer

/-- The event that announces the pointer, unless the engine knows it already. -/
def announcement (n : Normalizer) (position : Point) : List PointerEvent :=
  if n.state.added then [] else [⟨.add, position, .none, .none⟩]

/-- Tells the engine about the pointer at a position with some buttons held, after announcing it
if need be. -/
def report (n : Normalizer) (position : Point) (buttons : Buttons) (signal : PointerSignal) :
    Dispatch :=
  let state : PointerState := { n.state with buttons, added := true }
  { next := ⟨state.settle state.phase, position⟩
    events := n.announcement position ++ [⟨state.phase, position, buttons, signal⟩] }

/-- A report that leads to no event leaves everything as it was. -/
def drop (n : Normalizer) (why : Dropped) : Dispatch := { next := n, dropped := some why }

/-- What one report of the window system leads to. -/
def dispatch (n : Normalizer) : PointerInput → Dispatch
  | .add position =>
    if n.state.added then n.drop .duplicateAdd
    else
      { next := ⟨{ n.state with added := true }, position⟩
        events := n.announcement position }
  | .leave =>
    if n.state.added then
      { next := ⟨{}, n.last⟩, events := [⟨.remove, n.last, n.state.buttons, .none⟩] }
    else n.drop .removeWithoutAdd
  | .move position => n.report position n.state.buttons .none
  | .down position buttons =>
    if buttons.isEmpty then n.drop .noButton
    else n.report position (n.state.buttons.union buttons) .none
  | .up position buttons =>
    if buttons.isEmpty then n.drop .noButton
    else n.report position (n.state.buttons.diff buttons) .none
  | .scroll position delta multiplier =>
    let factor := Float.ofInt multiplier.toInt
    n.report position n.state.buttons (.scroll ⟨delta.x * factor, delta.y * factor⟩)

/-- The dispatches of a list of reports, one after the other. -/
def dispatches (n : Normalizer) : List PointerInput → List Dispatch
  | [] => []
  | i :: is => n.dispatch i :: (n.dispatch i).next.dispatches is

end Normalizer

/-- The log of a dropped report; a press or release of no button is not worth a word. -/
def Dropped.records : Dropped → List Log.Record
  | .duplicateAdd => [Log.Area.pointer.record .trace "pointer: duplicate add dropped"]
  | .removeWithoutAdd => [Log.Area.pointer.record .trace "pointer: remove without add dropped"]
  | .noButton => []

/-- The log of a dispatch: every event, or why there is none. -/
def Dispatch.records (d : Dispatch) : List Log.Record :=
  d.events.map (fun e => Log.Area.pointer.record .trace s!"pointer: {e.summary}") ++
    (d.dropped.map Dropped.records).getD []

end HostView
