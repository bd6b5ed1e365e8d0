import HostView.Proofs.Pointer.History

/-!
# A pointer that leaves is forgotten

When the pointer leaves, the normalizer forgets its state but not the position of its last event.
That position is read only to remove a pointer that is there, and a pointer that is there has been
announced, somewhere, since.  So two normalizers that differ in the last position of a pointer that
is not there (`Normalizer.Alike`) cannot be told apart by anything that follows, and from the first
event on they are the same (`Normalizer.departure_erases_past`).
-/

namespace HostView

/-- Nothing was reported, or the pointer left with the last report. -/
def PointerInput.Departed (inputs : List PointerInput) : Prop := ∀ i ∈ inputs.getLast?, i = leave

/-- What can be seen of a dispatch: its events, why there are none, and the state after it. -/
def Dispatch.shown (d : Dispatch) : List PointerEvent × Option Dropped × PointerState :=
  (d.events, d.dropped, d.next.state)

namespace Normalizer

open PointerInput

/-- Two normalizers that differ at most in the last position of a pointer that is not there. -/
structure Alike (n n' : Normalizer) : Prop where
  state : n.state = n'.state
  last : n.state.added = true → n.last = n'.last

namespace Alike

variable {n n' : Normalizer}

theorem refl (n : Normalizer) : Alike n n := ⟨rfl, fun _ => rfl⟩

/-- Nothing is hidden while the pointer is there. -/
theorem eq_of_added (alike : Alike n n') (added : n.state.added = true) : n = n' := by
  obtain ⟨state, last⟩ := n
  obtain ⟨state', last'⟩ := n'
  obtain rfl : state = state' := alike.state
  obtain rfl : last = last' := alike.last added
  rfl

/-- A report says itself where the pointer is. -/
theorem report (alike : Alike n n') (position : Point) (buttons : Buttons)
    (signal : PointerSignal) :
    n.report position buttons signal = n'.report position buttons signal := by
  simp only [Normalizer.report, announcement, alike.state]

/-- Both normalizers answer a report in the same way, or both drop it for the same reason. -/
theorem dispatch (alike : Alike n n') (i : PointerInput) :
    n.dispatch i = n'.dispatch i ∨
      ∃ why, n.dispatch i = n.drop why ∧ n'.dispatch i = n'.drop why := by
  cases i with
  | add position =>
    simp only [Normalizer.dispatch, announcement, ← alike.state]
    cases n.state.added with
    | true => exact .inr ⟨.duplicateAdd, rfl, rfl⟩
    | false => exact .inl rfl
  | leave =>
    cases added : n.state.added with
    | true => exact .inl (by rw [alike.eq_of_added added])
    | false =>
      have absent : n'.state.added = false := alike.state ▸ added
      exact .inr ⟨.removeWithoutAdd, by simp [Normalizer.dispatch, added],
        by simp [Normalizer.dispatch, absent]⟩
  | move position =>
    refine .inl ?_
    rw [Normalizer.dispatch, alike.report, alike.state, Normalizer.dispatch]
  | down position buttons =>
    simp only [Normalizer.dispatch, ← alike.state, alike.report]
    cases buttons.isEmpty with
    | true => exact .inr ⟨.noButton, rfl, rfl⟩
    | false => exact .inl rfl
  | up position buttons =>
    simp only [Normalizer.dispatch, ← alike.state, alike.report]
    cases buttons.isEmpty with
    | true => exact .inr ⟨.noButton, rfl, rfl⟩
    | false => exact .inl rfl
  | scroll position delta multiplier =>
    refine .inl ?_
    rw [Normalizer.dispatch, alike.report, alike.state, Normalizer.dispatch]

/-- After one more report nobody can tell the two apart, and if it led to an event they are the
same. -/
theorem step (alike : Alike n n') (i : PointerInput) :
    (n.dispatch i).shown = (n'.dispatch i).shown ∧
      Alike (n.dispatch i).next (n'.dispatch i).next ∧
      ((n.dispatch i).events ≠ [] → (n.dispatch i).next = (n'.dispatch i).next) := by
  obtain same | ⟨why, drops, drops'⟩ := alike.dispatch i
  · rw [same]
    exact ⟨rfl, refl _, fun _ => rfl⟩
  · rw [drops, drops']
    exact ⟨by simp [Dispatch.shown, drop, alike.state], alike, fun some => absurd rfl some⟩

/-- The same holds after any number of reports. -/
theorem run (alike : Alike n n') (later : List PointerInput) :
    (n.dispatches later).map Dispatch.shown = (n'.dispatches later).map Dispatch.shown ∧
      Alike (n.after later) (n'.after later) ∧
      (n.stream later ≠ [] → n.after later = n'.after later) := by
  induction later generalizing n n' with
  | nil => exact ⟨rfl, alike, fun some => absurd rfl some⟩
  | cons i later ih =>
    obtain ⟨shown, alike', same⟩ := alike.step i
    obtain ⟨shown', alike'', same'⟩ := ih alike'
    refine ⟨?_, alike'', fun some => ?_⟩
    · simp only [dispatches, List.map_cons, shown, shown']
    · by_cases silent : (n.dispatch i).events = []
      · refine same' fun none => some ?_
        rw [stream, dispatches, List.flatMap_cons, silent]
        exact none
      · exact congrArg (fun m : Normalizer => m.after later) (same silent)

end Alike

/-- A pointer that has left is not there, and no button of it is held. -/
theorem state_of_departed {past : List PointerInput} (departed : Departed past) :
    (after {} past).state = {} := by
  rcases List.eq_nil_or_concat past with rfl | ⟨past, i, rfl⟩
  · rfl
  rw [List.concat_eq_append] at departed ⊢
  obtain rfl : i = leave := departed i (by simp)
  rw [after_snoc]
  cases added : (after {} past).state.added with
  | true => simp [dispatch, added]
  | false =>
    have absent := (settled_fresh.after past).state_of_absent added
    simp [dispatch, drop, absent]

/-- Once the pointer has left, nothing that was reported before has any influence: whatever is
reported later, it leads to the same events and to the same states as after any other past from
which the pointer has left, the empty one among them.  With the first event the
last position is the same as well. -/
theorem departure_erases_past {past past' : List PointerInput} (departed : Departed past)
    (departed' : Departed past') (later : List PointerInput) :
    (after {} past).state = (after {} past').state ∧
      ((after {} past).dispatches later).map Dispatch.shown =
        ((after {} past').dispatches later).map Dispatch.shown ∧
      (stream (after {} past) later ≠ [] →
        after (after {} past) later = after (after {} past') later) := by
  have state := state_of_departed departed
  have state' := state_of_departed departed'
  have alike : Alike (after {} past) (after {} past') :=
    ⟨state.trans state'.symm, fun added => by rw [state] at added; cases added⟩
  obtain ⟨shown, -, same⟩ := alike.run later
  exact ⟨alike.state, shown, same⟩

/-- A button is pressed at some place, and the pointer leaves with the button held. -/
def pressedAway : List PointerInput := [.down ⟨3, 4⟩ .primary, .leave]

/-- It leaves once more, comes back elsewhere, and leaves from there. -/
def backElsewhere : List PointerInput := [.leave, .move ⟨1, 1⟩, .leave]

/-- The position of the press is still remembered when the pointer has left, but the pointer that
comes back elsewhere is removed from there, as one is of which nothing was known. -/
theorem press_forgotten_on_return :
    (after {} pressedAway).last ≠ (after {} []).last ∧
      ((after {} pressedAway).dispatches backElsewhere).map Dispatch.shown =
        ((after {} []).dispatches backElsewhere).map Dispatch.shown ∧
      ((after {} []).dispatches backElsewhere).map Dispatch.shown =
        [([], some .removeWithoutAdd, {}),
          ([⟨.add, ⟨1, 1⟩, .none, .none⟩, ⟨.hover, ⟨1, 1⟩, .none, .none⟩], none,
            { added := true }),
          ([⟨.remove, ⟨1, 1⟩, .none, .none⟩], none, {})] := by
  refine ⟨fun same => ?_, ?_, rfl⟩
  · have bits : (3 : Float).toBits = (0 : Float).toBits := congrArg (·.x.toBits) same
    revert bits
    decide +kernel
  · have left : Departed pressedAway := fun i last => (Option.some.inj last).symm
    have silent : Departed [] := by simp [Departed]
    exact (departure_erases_past left silent backElsewhere).2.1

end Normalizer

end HostView
