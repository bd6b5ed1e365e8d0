import HostView.Resize.Handshake

/-!
# Where a drag stands

A `Scene` is all that matters of a session to the resizes of one platform thread.  `Standing`
says where such a thread stands in a list of requests: each case fixes what it is in the middle
of, the phase of the episode, and the sizes that are still on their way to the render loop.  The
lemmas below move a scene on by one move of either thread.
-/

namespace HostView

/-! ### Sizes one after the other -/

namespace Size

/-- Drawing at this size changes nothing: it has no pixels, or the surface has the size. -/
def Fits (size dims : Size) : Prop := size.isEmpty = true ∨ size = dims

instance (size dims : Size) : Decidable (size.Fits dims) :=
  inferInstanceAs (Decidable (_ ∨ _))

/-- The size of the surface after a list of requests. -/
def after (start : Size) (asked : List Size) : Size :=
  asked.foldl (fun dims size => if size.isEmpty then dims else size) start

/-- The resizes that a list of requests leads to. -/
def resizes (start : Size) : List Size → List Size
  | [] => []
  | size :: asked =>
    if size.Fits start then resizes start asked else size :: resizes size asked

theorem after_of_fits {start size : Size} {asked : List Size}
    (fits : size.Fits (after start asked)) : after start (asked ++ [size]) = after start asked := by
  rw [after, List.foldl_append]
  change (if size.isEmpty then after start asked else size) = after start asked
  obtain empty | same := fits
  · rw [if_pos empty]
  · rw [← same, ite_self]

theorem after_of_full {start size : Size} (asked : List Size) (full : size.isEmpty = false) :
    after start (asked ++ [size]) = size := by
  simp [after, full]

theorem resizes_append (start : Size) (asked : List Size) (size : Size) :
    resizes start (asked ++ [size]) =
      resizes start asked ++ if size.Fits (after start asked) then [] else [size] := by
  induction asked generalizing start with
  | nil => rfl
  | cons first asked ih =>
    rw [List.cons_append, resizes, resizes]
    by_cases fits : first.Fits start
    · have same : after start ([] ++ [first]) = after start [] := after_of_fits fits
      have next : after start (first :: asked) = after start asked := congrArg (after · asked) same
      rw [if_pos fits, if_pos fits, ih, next]
    · have full : first.isEmpty = false := by
        rw [← Bool.not_eq_true]
        exact fun empty => fits (.inl empty)
      have same : after start ([] ++ [first]) = first := after_of_full [] full
      have next : after start (first :: asked) = after first asked := congrArg (after · asked) same
      rw [if_neg fits, if_neg fits, ih, next, List.cons_append]

theorem resizes_of_fits {start size : Size} {asked : List Size}
    (fits : size.Fits (after start asked)) :
    resizes start (asked ++ [size]) = resizes start asked := by
  rw [resizes_append, if_pos fits, List.append_nil]

theorem resizes_of_other {start size : Size} {asked : List Size} (full : size.isEmpty = false)
    (other : size ≠ after start asked) :
    resizes start (asked ++ [size]) = resizes start asked ++ [size] := by
  rw [resizes_append, if_neg]
  rintro (empty | same)
  · rw [full] at empty
    cases empty
  · exact other same

end Size

/-! ### Scenes -/

/-- What a platform thread is in the middle of, how far the episode has come, and the sizes that
are still to be drawn at, that of the render loop first. -/
structure Scene where
  stack : List Activity
  phase : ResizePhase
  dims : Size
  started : Nat
  presented : Nat
  pipe : List Size

/-- A thread that has told the engine its size and waits for an episode. -/
inductive Waiting (size : Size) (episode : Nat) : List Activity → Prop
  | told : Waiting size episode [.told size (some episode)]
  | asleep : Waiting size episode [.asleep episode]
  | woken : Waiting size episode [.woken episode]

theorem waiting_iff {size : Size} {episode : Nat} {stack : List Activity} :
    Waiting size episode stack ↔ stack = [.told size (some episode)] ∨
      stack = [.asleep episode] ∨ stack = [.woken episode] := by
  refine ⟨fun waiting => by cases waiting <;> simp, ?_⟩
  rintro (rfl | rfl | rfl)
  · exact .told
  · exact .asleep
  · exact .woken

theorem Waiting.episode_eq {size size' : Size} {episode episode' : Nat} {stack : List Activity}
    (waiting : Waiting size episode stack) (waiting' : Waiting size' episode' stack) :
    episode = episode' := by
  cases waiting <;> cases waiting' <;> rfl

/-- Who is woken still waits. -/
theorem Waiting.wake {size : Size} {episode : Nat} {stack : List Activity}
    (waiting : Waiting size episode stack) :
    Waiting size episode (stack.map Activity.wake) := by
  cases waiting with
  | told => exact .told
  | asleep => exact .woken
  | woken => exact .woken

namespace Scene

/-- No episode is under way, and nothing is on its way that would begin one. -/
structure Calm (a : Scene) : Prop where
  idle : a.phase = .idle
  even : a.presented = a.started
  settled : ∀ size ∈ a.pipe, size.Fits a.dims

/-- An episode is under way, and the surface does not have its size yet. -/
structure Outstanding (a : Scene) (size : Size) : Prop where
  phase : a.phase = .requested size
  ahead : a.started = a.presented + 1
  full : size.isEmpty = false
  other : size ≠ a.dims

/-- The surface has followed these requests. -/
structure Reached (start : Size) (asked resized : List Size) (a : Scene) : Prop where
  dims : a.dims = Size.after start asked
  resized : resized = Size.resizes start asked

/-- The last request has the surface, and the render loop draws at its size. -/
structure Met (start : Size) (asked resized : List Size) (a : Scene) (size : Size) : Prop where
  last : asked.getLast? = some size
  full : size.isEmpty = false
  dims : a.dims = size
  pipe : a.pipe = [size]
  reached : Reached start asked resized a

/-- How far the episode of a thread has come that waits for a frame of this size. -/
inductive Outlook (a : Scene) (size : Size) (episode : Nat) : Prop
  | asked (phase : a.phase = .requested size) (outstanding : a.presented < episode)
  | ready (phase : a.phase = .frameReady) (outstanding : a.presented < episode)
  | past (phase : a.phase = .idle) (past : episode ≤ a.presented)

end Scene

open Scene in
/-- Where a platform thread stands that has asked for these sizes, when these resizes of the
surface have been made. -/
inductive Standing (start : Size) (asked resized : List Size) (a : Scene) : Prop
  | free (stack : a.stack = []) (calm : Calm a) (reached : Reached start asked resized a)
  | entering {before : List Size} {size : Size} (all : asked = before ++ [size])
      (stack : a.stack = [.entering size]) (calm : Calm a)
      (reached : Reached start before resized a)
  /-- The request has nothing to wait for. -/
  | passing {size : Size} (stack : a.stack = [.telling size none]) (calm : Calm a)
      (fits : size.Fits a.dims) (reached : Reached start asked resized a)
  | passed {size : Size} (stack : a.stack = [.told size none]) (calm : Calm a)
      (reached : Reached start asked resized a)
  /-- The episode has begun, and the engine does not know of it yet. -/
  | asking {before : List Size} {size : Size} (all : asked = before ++ [size])
      (stack : a.stack = [.telling size (some a.started)]) (outstanding : Outstanding a size)
      (settled : ∀ earlier ∈ a.pipe, earlier.Fits a.dims)
      (reached : Reached start before resized a)
  /-- The size is on its way to the render loop. -/
  | awaiting {before earlier : List Size} {size : Size} (all : asked = before ++ [size])
      (waiting : Waiting size a.started a.stack) (outstanding : Outstanding a size)
      (pipe : a.pipe = earlier ++ [size]) (settled : ∀ size ∈ earlier, size.Fits a.dims)
      (reached : Reached start before resized a)
  | ready {size : Size} (waiting : Waiting size a.started a.stack) (phase : a.phase = .frameReady)
      (ahead : a.started = a.presented + 1) (met : Met start asked resized a size)
  /-- The frame is there, and the thread only has to go on. -/
  | presented {size : Size} (waiting : Waiting size a.started a.stack) (phase : a.phase = .idle)
      (even : a.presented = a.started) (met : Met start asked resized a size)

namespace Standing

open Scene

variable {start : Size} {asked resized : List Size} {a : Scene} {size : Size}

/-! ### Read off what the platform thread is in the middle of -/

theorem of_free (standing : Standing start asked resized a) (stack : a.stack = []) :
    Calm a ∧ Reached start asked resized a := by
  cases standing with
  | free _ calm reached => exact ⟨calm, reached⟩
  | _ => simp_all [waiting_iff]

theorem of_entering (standing : Standing start asked resized a)
    (stack : a.stack = [.entering size]) :
    ∃ before, asked = before ++ [size] ∧ Calm a ∧ Reached start before resized a := by
  cases standing with
  | entering all _ calm reached =>
    simp_all
  | _ => simp_all [waiting_iff]

theorem of_passing (standing : Standing start asked resized a)
    (stack : a.stack = [.telling size none]) :
    Calm a ∧ size.Fits a.dims ∧ Reached start asked resized a := by
  cases standing with
  | passing stack' calm fits reached =>
    obtain rfl : size = _ := by simpa [stack] using stack'
    exact ⟨calm, fits, reached⟩
  | _ => simp_all [waiting_iff]

theorem of_asking {episode : Nat} (standing : Standing start asked resized a)
    (stack : a.stack = [.telling size (some episode)]) :
    episode = a.started ∧ ∃ before, asked = before ++ [size] ∧ Outstanding a size ∧
      (∀ earlier ∈ a.pipe, earlier.Fits a.dims) ∧ Reached start before resized a := by
  cases standing with
  | asking all _ outstanding settled reached => simp_all
  | _ => simp_all [waiting_iff]

theorem of_passed (standing : Standing start asked resized a)
    (stack : a.stack = [.told size none]) : Calm a ∧ Reached start asked resized a := by
  cases standing with
  | passed _ calm reached => exact ⟨calm, reached⟩
  | _ => simp_all [waiting_iff]

/-- A thread that waits is in the middle of the last request, and the size of that is the last
one on its way to the render loop. -/
theorem of_waiting {episode : Nat} (standing : Standing start asked resized a)
    (waiting : Waiting size episode a.stack) :
    episode = a.started ∧ ∃ last, asked.getLast? = some last ∧ last.isEmpty = false ∧
      a.pipe.getLast? = some last ∧ Outlook a last episode := by
  cases standing with
  | @awaiting before earlier last all waiting' outstanding pipe =>
    have ahead := outstanding.ahead
    have same := waiting.episode_eq waiting'
    exact ⟨same, last, by simp [all], outstanding.full, by simp [pipe],
      .asked outstanding.phase (by omega)⟩
  | @ready last waiting' phase ahead met =>
    have same := waiting.episode_eq waiting'
    exact ⟨same, last, met.last, met.full, by simp [met.pipe], .ready phase (by omega)⟩
  | @presented last waiting' phase even met =>
    have same := waiting.episode_eq waiting'
    exact ⟨same, last, met.last, met.full, by simp [met.pipe], .past phase (by omega)⟩
  | _ => simp_all [waiting_iff]

theorem presented_le (standing : Standing start asked resized a) : a.presented ≤ a.started := by
  cases standing with
  | free _ calm => exact Nat.le_of_eq calm.even
  | entering _ _ calm => exact Nat.le_of_eq calm.even
  | passing _ calm => exact Nat.le_of_eq calm.even
  | passed _ calm => exact Nat.le_of_eq calm.even
  | asking _ _ outstanding => have ahead := outstanding.ahead; omega
  | awaiting _ _ outstanding => have ahead := outstanding.ahead; omega
  | ready _ _ ahead => omega
  | presented _ _ even => exact Nat.le_of_eq even

/-- Once no size is asked for, the render loop draws nothing, or at the size of the surface. -/
theorem drawn (standing : Standing start asked resized a) {rest : List Size}
    (pipe : a.pipe = size :: rest) (unasked : ∀ target, a.phase ≠ .requested target) :
    size.Fits a.dims := by
  have head : size ∈ a.pipe := by
    rw [pipe]
    exact List.mem_cons_self ..
  cases standing with
  | free _ calm => exact calm.settled size head
  | entering _ _ calm => exact calm.settled size head
  | passing _ calm => exact calm.settled size head
  | passed _ calm => exact calm.settled size head
  | asking _ _ outstanding => exact absurd outstanding.phase (unasked _)
  | awaiting _ _ outstanding => exact absurd outstanding.phase (unasked _)
  | ready _ _ _ met =>
    rw [met.pipe, List.mem_singleton] at head
    exact .inr (head.trans met.dims.symm)
  | presented _ _ _ met =>
    rw [met.pipe, List.mem_singleton] at head
    exact .inr (head.trans met.dims.symm)

/-! ### Moves of the platform thread -/

theorem ask (standing : Standing start asked resized a) (stack : a.stack = []) (size : Size) :
    Standing start (asked ++ [size]) resized { a with stack := [.entering size] } := by
  obtain ⟨calm, reached⟩ := standing.of_free stack
  exact .entering rfl rfl ⟨calm.idle, calm.even, calm.settled⟩ ⟨reached.dims, reached.resized⟩

/-- A request that has nothing to wait for. -/
theorem pass (standing : Standing start asked resized a) (stack : a.stack = [.entering size])
    (fits : size.Fits a.dims) :
    Standing start asked resized { a with stack := [.telling size none] } := by
  obtain ⟨before, rfl, calm, reached⟩ := standing.of_entering stack
  refine .passing rfl ⟨calm.idle, calm.even, calm.settled⟩ fits ⟨?_, ?_⟩
  · rw [reached.dims] at fits ⊢
    exact (Size.after_of_fits fits).symm
  · rw [reached.dims] at fits
    rw [reached.resized, Size.resizes_of_fits fits]

/-- A request that begins an episode. -/
theorem begin (standing : Standing start asked resized a) (stack : a.stack = [.entering size])
    (full : size.isEmpty = false) (other : size ≠ a.dims) :
    Standing start asked resized
      { a with
        stack := [.telling size (some (a.started + 1))]
        phase := .requested size
        started := a.started + 1 } := by
  obtain ⟨before, rfl, calm, reached⟩ := standing.of_entering stack
  exact .asking rfl rfl ⟨rfl, congrArg (· + 1) calm.even.symm, full, other⟩ calm.settled
    ⟨reached.dims, reached.resized⟩

theorem tell (standing : Standing start asked resized a) {episode : Option Nat}
    (stack : a.stack = [.telling size episode]) :
    Standing start asked resized
      { a with stack := [.told size episode], pipe := a.pipe ++ [size] } := by
  cases episode with
  | none =>
    obtain ⟨calm, fits, reached⟩ := standing.of_passing stack
    refine .passed rfl ⟨calm.idle, calm.even, fun size' mem => ?_⟩ ⟨reached.dims, reached.resized⟩
    obtain old | rfl := List.mem_append.1 mem |>.imp_right List.mem_singleton.1
    · exact calm.settled size' old
    · exact fits
  | some episode =>
    obtain ⟨rfl, before, rfl, outstanding, settled, reached⟩ := standing.of_asking stack
    exact .awaiting rfl .told ⟨outstanding.phase, outstanding.ahead, outstanding.full,
      outstanding.other⟩ rfl settled ⟨reached.dims, reached.resized⟩

theorem finish (standing : Standing start asked resized a) (stack : a.stack = [.told size none]) :
    Standing start asked resized { a with stack := [] } := by
  obtain ⟨calm, reached⟩ := standing.of_passed stack
  exact .free rfl ⟨calm.idle, calm.even, calm.settled⟩ ⟨reached.dims, reached.resized⟩

/-- A thread whose episode has been presented returns. -/
theorem release (standing : Standing start asked resized a) {episode : Nat}
    (waiting : Waiting size episode a.stack) (past : episode ≤ a.presented) :
    Standing start asked resized { a with stack := [] } := by
  cases standing with
  | awaiting all waiting' outstanding =>
    have ahead := outstanding.ahead
    have same := waiting.episode_eq waiting'
    omega
  | ready waiting' phase ahead =>
    have same := waiting.episode_eq waiting'
    omega
  | presented waiting' phase even met =>
    refine .free rfl ⟨phase, even, fun earlier mem => ?_⟩ ⟨met.reached.dims, met.reached.resized⟩
    rw [met.pipe, List.mem_singleton] at mem
    exact .inr (mem.trans met.dims.symm)
  | _ => simp_all [waiting_iff]

/-- A thread whose episode is outstanding falls asleep. -/
theorem sleep (standing : Standing start asked resized a) {episode : Nat}
    (waiting : Waiting size episode a.stack) (outstanding : a.presented < episode) :
    Standing start asked resized { a with stack := [.asleep episode] } := by
  cases standing with
  | awaiting all waiting' outstanding' pipe settled reached =>
    obtain rfl := waiting.episode_eq waiting'
    exact .awaiting all .asleep ⟨outstanding'.phase, outstanding'.ahead, outstanding'.full,
      outstanding'.other⟩ pipe settled ⟨reached.dims, reached.resized⟩
  | ready waiting' phase ahead met =>
    obtain rfl := waiting.episode_eq waiting'
    exact .ready .asleep phase ahead
      ⟨met.last, met.full, met.dims, met.pipe, met.reached.dims, met.reached.resized⟩
  | presented waiting' phase even =>
    have same := waiting.episode_eq waiting'
    omega
  | _ => simp_all [waiting_iff]

/-! ### Moves of the render thread -/

/-- The render loop takes the next size. -/
theorem take (standing : Standing start asked resized a) {first second : Size} {rest : List Size}
    (pipe : a.pipe = first :: second :: rest) :
    Standing start asked resized { a with pipe := second :: rest } := by
  have shrunk : Calm a → Calm { a with pipe := second :: rest } := fun calm =>
    ⟨calm.idle, calm.even, fun earlier mem => calm.settled earlier (by simp [pipe, mem])⟩
  cases standing with
  | free stack calm reached =>
    exact .free stack (shrunk calm) ⟨reached.dims, reached.resized⟩
  | entering all stack calm reached =>
    exact .entering all stack (shrunk calm) ⟨reached.dims, reached.resized⟩
  | passing stack calm fits reached =>
    exact .passing stack (shrunk calm) fits ⟨reached.dims, reached.resized⟩
  | passed stack calm reached =>
    exact .passed stack (shrunk calm) ⟨reached.dims, reached.resized⟩
  | asking all stack outstanding settled reached =>
    exact .asking all stack ⟨outstanding.phase, outstanding.ahead, outstanding.full,
      outstanding.other⟩ (fun earlier mem => settled earlier (by simp [pipe, mem]))
      ⟨reached.dims, reached.resized⟩
  | @awaiting before earlier size all waiting outstanding pipe' settled reached =>
    rw [pipe] at pipe'
    cases earlier with
    | nil => cases pipe'
    | cons gone earlier =>
      obtain ⟨-, left⟩ := List.cons.inj pipe'
      exact .awaiting all waiting ⟨outstanding.phase, outstanding.ahead, outstanding.full,
        outstanding.other⟩ left (fun size mem => settled size (List.mem_cons_of_mem _ mem))
        ⟨reached.dims, reached.resized⟩
  | ready waiting phase ahead met => simp [met.pipe] at pipe
  | presented waiting phase even met => simp [met.pipe] at pipe

/-- The surface takes on the size that the render loop draws at. -/
theorem resize (standing : Standing start asked resized a) {rest : List Size}
    (pipe : a.pipe = size :: rest) (phase : a.phase = .requested size) :
    Standing start asked (resized ++ [size]) { a with phase := .frameReady, dims := size } := by
  -- a size that fits already is not the size that is asked for
  have unfit : ∀ size', Outstanding a size' → ¬ size.Fits a.dims := by
    intro size' outstanding fits
    obtain rfl : size = size' := ResizePhase.requested.inj (phase.symm.trans outstanding.phase)
    obtain empty | same := fits
    · simp [outstanding.full] at empty
    · exact outstanding.other same
  cases standing with
  | asking _ _ outstanding settled =>
    exact absurd (settled size (by simp [pipe])) (unfit _ outstanding)
  | @awaiting before earlier size' all waiting outstanding pipe' settled reached =>
    obtain rfl : size = size' := ResizePhase.requested.inj (phase.symm.trans outstanding.phase)
    rw [pipe] at pipe'
    cases earlier with
    | nil =>
      obtain ⟨-, rfl⟩ := List.cons.inj pipe'
      subst all
      have other := outstanding.other
      rw [reached.dims] at other
      refine .ready waiting rfl outstanding.ahead
        ⟨by simp, outstanding.full, rfl, pipe, ?_, ?_⟩
      · exact (Size.after_of_full _ outstanding.full).symm
      · rw [reached.resized, Size.resizes_of_other outstanding.full other]
    | cons gone earlier =>
      obtain ⟨rfl, -⟩ := List.cons.inj pipe'
      exact absurd (settled size (List.mem_cons_self ..)) (unfit _ outstanding)
  | ready _ ready => simp [ready] at phase
  | presented _ idle => simp [idle] at phase
  | free _ calm => simp [calm.idle] at phase
  | entering _ _ calm => simp [calm.idle] at phase
  | passing _ calm => simp [calm.idle] at phase
  | passed _ calm => simp [calm.idle] at phase

/-- The frame of the episode is presented. -/
theorem present (standing : Standing start asked resized a) (phase : a.phase = .frameReady) :
    Standing start asked resized { a with phase := .idle, presented := a.started } := by
  cases standing with
  | ready waiting _ ahead met =>
    exact .presented waiting rfl rfl
      ⟨met.last, met.full, met.dims, met.pipe, met.reached.dims, met.reached.resized⟩
  | asking _ _ outstanding => simp [outstanding.phase] at phase
  | awaiting _ _ outstanding => simp [outstanding.phase] at phase
  | presented _ idle => simp [idle] at phase
  | free _ calm => simp [calm.idle] at phase
  | entering _ _ calm => simp [calm.idle] at phase
  | passing _ calm => simp [calm.idle] at phase
  | passed _ calm => simp [calm.idle] at phase

/-- Whoever sleeps is woken. -/
theorem wake (standing : Standing start asked resized a) :
    Standing start asked resized { a with stack := a.stack.map Activity.wake } := by
  have still : ∀ {b : Activity}, a.stack = [b] → b.wake = b →
      { a with stack := a.stack.map Activity.wake } = a := by
    intro b stack same
    simp only [stack, List.map_cons, same, List.map_nil]
    rw [← stack]
  cases id standing with
  | free stack calm reached =>
    exact .free (by simp [stack]) ⟨calm.idle, calm.even, calm.settled⟩
      ⟨reached.dims, reached.resized⟩
  | entering _ stack => rwa [still stack rfl]
  | passing stack => rwa [still stack rfl]
  | passed stack => rwa [still stack rfl]
  | asking _ stack => rwa [still stack rfl]
  | awaiting all waiting outstanding pipe settled reached =>
    exact .awaiting all waiting.wake ⟨outstanding.phase, outstanding.ahead, outstanding.full,
      outstanding.other⟩ pipe settled ⟨reached.dims, reached.resized⟩
  | ready waiting phase ahead met =>
    exact .ready waiting.wake phase ahead
      ⟨met.last, met.full, met.dims, met.pipe, met.reached.dims, met.reached.resized⟩
  | presented waiting phase even met =>
    exact .presented waiting.wake phase even
      ⟨met.last, met.full, met.dims, met.pipe, met.reached.dims, met.reached.resized⟩

/-- The bus is closed. -/
theorem close (standing : Standing start asked resized a) {first : Size} {rest : List Size}
    (stack : a.stack = []) (pipe : a.pipe = first :: rest) :
    Standing start asked resized { a with pipe := [first] } := by
  obtain ⟨calm, reached⟩ := standing.of_free stack
  refine .free stack ⟨calm.idle, calm.even, fun size mem => ?_⟩ ⟨reached.dims, reached.resized⟩
  exact calm.settled size (by rw [List.mem_singleton.1 mem, pipe]; exact List.mem_cons_self ..)

end Standing

end HostView
