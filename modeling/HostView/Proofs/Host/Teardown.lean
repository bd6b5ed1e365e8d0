import HostView.Proofs.Host.Course
import HostView.Proofs.Pointer.Stream
import HostView.Proofs.Render.Release

/-!
# The life of the surface of a window

From the opening of a window to its end, what is done to its surface is a word of `Deed.life`: the
main thread creates it, the render thread makes it current, draws and resizes, and clears it, and
then it is destroyed, once, by the main thread that closes the window or at the end of the render
thread that was the last to hold it (`Host.orderly_teardown`).  What the render loop is about to do
tells how far the word has come (`LoopStage.deeds`).
-/

namespace HostView

/-! ### The words -/

namespace Deed

def byRender (d : Deed) : RegularExpression (ThreadId × Deed) := .char (Session.renderThread, d)

def byMain (d : Deed) : RegularExpression (ThreadId × Deed) := .char (Host.mainThread, d)

/-- The surface takes on another size, or a frame is swapped. -/
def draw : RegularExpression (ThreadId × Deed) :=
  .plus (.comp (byRender .resized) (byRender .madeCurrent)) (byRender .swapped)

/-- What has been done to a surface in which the render thread draws. -/
def drawing : RegularExpression (ThreadId × Deed) :=
  .comp (.comp (byMain (.created true)) (byRender .madeCurrent)) (.star draw)

/-- What has been done to a surface that the render thread has done with. -/
def drawn : RegularExpression (ThreadId × Deed) := .comp drawing (byRender .cleared)

/-- What is done to a surface from its creation to its end. -/
def life : RegularExpression (ThreadId × Deed) :=
  .comp drawn (.plus (byMain .destroyed) (byRender .destroyed))

variable {w v : List (ThreadId × Deed)}

theorem drawing_start (created : w ∈ (byMain (.created true)).matches') :
    w ++ [(Session.renderThread, .madeCurrent)] ∈ drawing.matches' := by
  rw [← List.append_nil (w ++ _)]
  exact Language.append_mem_mul (Language.append_mem_mul created rfl) (Language.nil_mem_kstar _)

theorem resize_mem_draw :
    [(Session.renderThread, .resized)] ++ [(Session.renderThread, .madeCurrent)] ∈
      draw.matches' := .inl (Language.append_mem_mul rfl rfl)

theorem drawing_draw (so : w ∈ drawing.matches') (drew : v ∈ draw.matches') :
    w ++ v ∈ drawing.matches' := by
  obtain ⟨first, begun, draws, drawn, rfl⟩ := Language.mem_mul.1 so
  rw [List.append_assoc]
  exact Language.append_mem_mul begun (mem_star_append drawn drew)

theorem drawn_of_drawing (so : w ∈ drawing.matches') :
    w ++ [(Session.renderThread, .cleared)] ∈ drawn.matches' := Language.append_mem_mul so rfl

theorem life_of_drawn {t : ThreadId} (so : w ∈ drawn.matches')
    (ends : t = Host.mainThread ∨ t = Session.renderThread) :
    w ++ [(t, .destroyed)] ∈ life.matches' := by
  refine Language.append_mem_mul so ?_
  obtain rfl | rfl := ends
  · exact .inl rfl
  · exact .inr rfl

end Deed

/-- What has been done to the surface by the time the render loop is at a stage. -/
def LoopStage.deeds : LoopStage → RegularExpression (ThreadId × Deed)
  | .starting => Deed.byMain (.created true)
  | .finished => Deed.drawn
  | _ => Deed.drawing

/-- What has been done begins a word of the life of a surface. -/
theorem LoopStage.prefix_life {stage : LoopStage} {w : List (ThreadId × Deed)}
    (so : w ∈ stage.deeds.matches') : ∃ w' ∈ Deed.life.matches', w <+: w' := by
  have ofDrawn {v : List (ThreadId × Deed)} (so : v ∈ Deed.drawn.matches') :
      ∃ w' ∈ Deed.life.matches', v <+: w' :=
    ⟨_, Deed.life_of_drawn so (.inl rfl), List.prefix_append _ _⟩
  have ofDrawing {v : List (ThreadId × Deed)} (so : v ∈ Deed.drawing.matches') :
      ∃ w' ∈ Deed.life.matches', v <+: w' := by
    obtain ⟨w', whole, part⟩ := ofDrawn (Deed.drawn_of_drawing so)
    exact ⟨w', whole, (List.prefix_append _ _).trans part⟩
  cases stage with
  | starting =>
    obtain ⟨w', whole, part⟩ := ofDrawing (Deed.drawing_start so)
    exact ⟨w', whole, (List.prefix_append _ _).trans part⟩
  | finished => exact ofDrawn so
  | _ => exact ofDrawing so

namespace Session

variable {s : Session Headless} {moved : SessionMoved Headless} {w : List (ThreadId × Deed)}

/-- What the render thread does to the surface is in its place. -/
theorem deeds_render (owned : s.Owned) (wired : s.Wired Host.mainThread) (made : Rendered s moved)
    (so : w ∈ s.loop.stage.deeds.matches') :
    w ++ (moved.events.filterMap Event.deed).map ((renderThread, ·)) ∈
      moved.next.loop.stage.deeds.matches' := by
  have looks := Event.observer_deed
  have drawing {stage : LoopStage} (here : s.loop.stage = stage)
      (inside : stage.deeds = Deed.drawing) : w ∈ Deed.drawing.matches' := by
    rwa [here, inside] at so
  have idle {es : List Event} (still : es.filterMap Event.deed = [])
      (so : w ∈ Deed.drawing.matches') :
      w ++ (es.filterMap Event.deed).map ((renderThread, ·)) ∈ Deed.drawing.matches' := by
    rwa [still, List.map_nil, List.append_nil]
  cases made with
  | started stage =>
    rw [List.filterMap_append, looks.guarded, looks.answered, looks.logs]
    rw [stage] at so
    exact Deed.drawing_start so
  | tested stage =>
    cases stop : s.stopRequested <;> exact idle rfl (drawing stage rfl)
  | idled stage => exact idle rfl (drawing stage rfl)
  | received stage => exact idle rfl (drawing stage rfl)
  | drained stage =>
    cases empty : s.loop.size.isEmpty <;> exact idle rfl (drawing stage rfl)
  | @took e q stage =>
    have still : (s.loop.consume e).stage = .draining := by cases e <;> exact stage
    rw [withLoop_loop, still]
    exact idle rfl (drawing stage rfl)
  | passed stage => exact idle (by rw [looks.guarded, looks.logs]) (drawing stage rfl)
  | failed stage asked answer =>
    rw [Headless.resize_of_target owned (wired.drawing (.inl stage))] at answer
    cases answer
  | readied stage =>
    rw [looks.guarded, List.filterMap_append, looks.answered, List.filterMap_append,
      looks.answered]
    exact Deed.drawing_draw (drawing stage rfl) Deed.resize_mem_draw
  | refused stage => exact idle rfl (drawing stage rfl)
  | plain stage =>
    rw [looks.guarded, looks.answered]
    exact Deed.drawing_draw (drawing stage rfl) (.inr rfl)
  | presented stage =>
    rw [looks.guarded, looks.answered]
    exact Deed.drawing_draw (drawing stage rfl) (.inr rfl)
  | woke stage => exact idle rfl (drawing stage rfl)
  | announced stage =>
    exact idle (by rw [List.filterMap_cons_none rfl, looks.logs]) (drawing stage rfl)
  | cleared stage =>
    rw [List.filterMap_append, looks.guarded, looks.answered]
    exact Deed.drawn_of_drawing (drawing stage rfl)
  | crashed _ _ answer => exact absurd answer Headless.not_panicked

/-- The main thread does nothing to the surface, and leaves the render loop where it is. -/
theorem apart_of_driven {p : ThreadId} {m : DriveMove} (made : Driven p s m moved)
    (other : m ≠ .render) :
    moved.next.loop = s.loop ∧ moved.events.filterMap Event.deed = [] := by
  refine ⟨?_, List.filterMap_eq_nil_iff.2 fun e mem => ?_⟩
  · cases made with
    | used _ _ _ loop => exact loop
    | rendered => exact absurd rfl other
    | _ => rfl
  · cases e with
    | device d => exact absurd (rendered_of_device made mem).1 other
    | _ => rfl

theorem deeds_drive {m : DriveMove} (underway : s.Underway)
    (taken : s.drive Host.mainThread m = some moved) (so : w ∈ s.loop.stage.deeds.matches') :
    w ++ (moved.events.filterMap Event.deed).map ((m.thread, ·)) ∈
      moved.next.loop.stage.deeds.matches' := by
  have made := driven Host.main_ne_render underway.wired taken
  -- of the two threads only the render thread touches the surface of an open window
  by_cases render : m = .render
  · subst render
    cases made with
    | rendered made => exact deeds_render underway.owned underway.wired made so
  · obtain ⟨loop, still⟩ := apart_of_driven made render
    rwa [loop, still, List.map_nil, List.append_nil]

/-! ### The end of the render thread -/

/-- How many moves the render thread still makes, at most, when it has been asked to stop. -/
def toStop (s : Session Headless) : Nat :=
  match s.loop.stage with
  | .starting => 3
  | .testing => 2
  | .receiving => s.bus.queue.length + 8
  | .draining => s.bus.queue.length + 7
  | .acquiring => 6
  | .swapping => 5
  | .presenting =>
    match s.stack renderThread with
    | [.waking _] => 4
    | _ => 3
  | .clearing => 1
  | .finished | .crashed => 0

theorem toStop_le (s : Session Headless) : s.toStop ≤ s.bus.queue.length + 8 := by
  unfold toStop
  split
  all_goals try split
  all_goals omega

/-- Every move of a render thread that has been asked to stop brings its end nearer. -/
theorem toStop_render (stop : s.stopRequested = true) (made : Rendered s moved) :
    moved.next.toStop < s.toStop := by
  cases made with
  | started stage => simp [toStop, stage]
  | tested stage => simp [toStop, stage, stop]
  | idled stage empty => simp [toStop, stage, empty]
  | received stage queue => simp [toStop, stage, queue]
  | drained stage empty => cases full : s.loop.size.isEmpty <;> simp [toStop, stage, empty]
  | @took e q stage queue =>
    have still : (s.loop.consume e).stage = .draining := by cases e <;> exact stage
    simp [toStop, stage, still, queue]
  | passed stage => simp [toStop, stage]
  | failed stage => simp [toStop, stage]
  | readied stage => simp [toStop, stage]
  | refused stage => simp [toStop, stage, RenderLoop.turned]
  | plain stage => simp [toStop, stage, RenderLoop.turned]
  | presented stage => simp [toStop, stage]
  | woke stage top => simp [toStop, stage, top, Activity.wake]
  | announced stage top => simp [toStop, stage, top, RenderLoop.turned]
  | cleared stage => simp [toStop, stage]
  | crashed stage => obtain stage | stage | stage | stage := stage <;> simp [toStop, stage]

end Session

/-- The window is being taken down. -/
def HostStage.TakesDown (stage : HostStage) : Prop := stage = .closing ∨ stage = .abandoning

theorem HostStage.TakesDown.stopRequested {stage : HostStage} {s : Session Headless}
    (down : stage.TakesDown) (fits : stage.Fits s) : s.stopRequested = true := by
  obtain rfl | rfl := down <;> exact fits

/-- Whether the render thread moves. -/
def HostMove.isRender : HostMove → Bool
  | .render => true
  | _ => false

namespace Host

variable {start h : Host} {m : HostMove} {moved : HostMoved} {steps : List HostStep}

/-- What is done to surfaces in some steps. -/
def done (steps : List HostStep) : List (ThreadId × Deed) :=
  deeds (steps.flatMap (·.result.seen))

theorem done_append (l l' : List HostStep) : done (l ++ l') = done l ++ done l' := by
  rw [done, List.flatMap_append, deeds_append, done, done]

theorem done_singleton (x : HostStep) : done [x] = deeds x.result.seen := by
  rw [done, List.flatMap_singleton]

/-! ### A window from its opening to its end -/

/-- The first of some steps opens a window, and the others leave it open. -/
structure Open (first : HostStep) (during : List HostStep) : Prop where
  closed : first.before.session = none
  opens : first.result.next.session ≠ none
  stays : ∀ x ∈ during, x.result.next.session ≠ none

/-- While a window is open, what has been done to its surface is told by the render loop. -/
theorem done_of_open {first : HostStep} {during : List HostStep} (life : Open first during)
    (sound : first.before.Sound) (course : Course first.before (first :: during) h) :
    ∃ s, h.session = some s ∧ done (first :: during) ∈ s.loop.stage.deeds.matches' := by
  induction during using List.reverseRecOn generalizing h with
  | nil =>
    obtain ⟨-, taken, rfl⟩ := Path.of_snoc (l := []) course
    rw [done_singleton]
    cases stepped sound taken with
    | kept session => exact absurd (session.trans life.closed) life.opens
    | refused _ closed' => exact absurd closed' life.opens
    | @opened s size _ session _ fresh _ deeds =>
      refine ⟨s, session, ?_⟩
      rw [deeds, fresh.fresh.loop]
      rfl
    | driven session => cases life.closed.symm.trans session
    | ended session => cases life.closed.symm.trans session
  | append_singleton during x ih =>
    have stays : x.result.next.session ≠ none := life.stays x (by simp)
    rw [← List.cons_append] at course ⊢
    obtain ⟨path, taken, rfl⟩ := Path.of_snoc course
    obtain ⟨s, session, so⟩ :=
      ih ⟨life.closed, life.opens, fun y mem => life.stays y (by simp [mem])⟩ path
    rw [done_append, done_singleton]
    cases stepped (Course.sound path sound) taken with
    | kept same _ still => exact ⟨s, same.trans session, by rwa [still, List.append_nil]⟩
    | refused closed => cases closed.symm.trans session
    | opened closed => cases closed.symm.trans session
    | @driven s' d r session' taken next _ deeds =>
      obtain rfl : s = s' := Option.some.inj (session.symm.trans session')
      obtain ⟨-, underway⟩ := (Course.sound path sound).underway s session
      refine ⟨r.next, next, ?_⟩
      rw [deeds]
      exact Session.deeds_drive underway taken so
    | ended _ _ _ closed => exact absurd closed stays

/-- The step with which a window is gone destroys its surface, after the render loop has ended. -/
structure Ends (s : Session Headless) (x : HostStep) : Prop where
  session : x.before.session = some s
  finished : s.loop.stage = .finished
  destroys : x.before.stage = .closing ∧ done [x] = [(mainThread, .destroyed)] ∨
    x.before.stage = .abandoning ∧ done [x] = [(Session.renderThread, .destroyed)]

theorem ends_of_closed {s : Session Headless} {x : HostStep} (sound : x.before.Sound)
    (taken : x.before.step x.move = some x.result) (session : x.before.session = some s)
    (closed : x.result.next.session = none) : Ends s x := by
  have alive : s.loop.stage ≠ .crashed := by
    obtain ⟨size, steps, live⟩ := (sound.underway s session).2.live
    exact live.alive
  cases stepped sound taken with
  | kept same => cases (same.trans session).symm.trans closed
  | refused closed => cases closed.symm.trans session
  | opened closed => cases closed.symm.trans session
  | driven _ _ next => cases next.symm.trans closed
  | @ended s' t session' stage ended _ _ deeds =>
    obtain rfl : s = s' := Option.some.inj (session.symm.trans session')
    refine ⟨session, ?_, ?_⟩
    · simpa [RenderLoop.isOver, alive] using ended
    · rw [done_singleton]
      obtain ⟨closing, rfl⟩ | ⟨abandoning, rfl⟩ := stage
      · exact .inl ⟨closing, deeds⟩
      · exact .inr ⟨abandoning, deeds⟩

theorem Ends.thread {s : Session Headless} {x : HostStep} (ends : Ends s x) :
    ∃ t, (t = mainThread ∨ t = Session.renderThread) ∧ done [x] = [(t, .destroyed)] := by
  obtain ⟨-, destroyed⟩ | ⟨-, destroyed⟩ := ends.destroys
  · exact ⟨_, .inl rfl, destroyed⟩
  · exact ⟨_, .inr rfl, destroyed⟩

/-- A start that opens no window although one has been made: what there is of its surface is
destroyed. -/
theorem deeds_resumed {made : NativeWindow} {thread : Except String Unit} (closed : h.session = none)
    (taken : h.step (.resumed (.ok made) thread) = some moved)
    (closed' : moved.next.session = none) :
    (refusal (.ok made) thread).isSome = true ∧ deeds moved.seen =
      [(mainThread, .created !made.innerSize.isEmpty), (mainThread, .destroyed)] := by
  have none : h.window = none := Option.map_eq_none_iff.1 closed
  simp only [step] at taken
  split at taken
  next =>
    obtain rfl := Option.some.inj taken
    simp only [resume, none] at closed' ⊢
    cases refused : refusal (.ok made) thread with
    | some error =>
      obtain ⟨es, start, done⟩ := start_refused (h := h) refused
      rw [start]
      exact ⟨rfl, (deeds_between [_, _] [.exit] es).trans (congrArg (List.map _) done)⟩
    | none =>
      obtain ⟨w, es, start, -⟩ := start_accepted (h := h) refused
      rw [start] at closed'
      cases closed'
  next => cases taken

/-! ### Nothing holds up the end -/

/-- A window that is being taken down goes on to be, and the render thread nears its end. -/
theorem toStop_step {s s' : Session Headless} (sound : h.Sound) (session : h.session = some s)
    (down : h.stage.TakesDown) (taken : h.step m = some moved)
    (session' : moved.next.session = some s') :
    moved.next.stage.TakesDown ∧ s'.toStop + m.isRender.toNat ≤ s.toStop := by
  obtain ⟨fits, underway⟩ := sound.underway s session
  have busy : h.stage ≠ .free := by obtain down | down := down <;> simp [down]
  have lasting : h.stage.canEnd ≠ true := by
    obtain down | down := down <;> simp [down, HostStage.canEnd]
  cases m with
  | abandoned => cases (if_neg lasting).symm.trans taken
  | shutdown =>
    obtain rfl := Option.some.inj taken
    obtain rfl : s = s' := Option.some.inj (session.symm.trans session')
    exact ⟨down, Nat.le_refl _⟩
  | proceed =>
    -- The main thread does nothing before the render thread has ended, and then the window is gone.
    obtain ⟨w, window, rfl⟩ := Option.map_eq_some_iff.1 session
    simp only [step, proceed, window] at taken
    obtain down | down := down
    all_goals
      simp only [down] at taken
      split at taken
      next =>
        obtain rfl := Option.some.inj taken
        cases session'
      next => cases taken
  | render =>
    obtain ⟨w, window, rfl⟩ := Option.map_eq_some_iff.1 session
    simp only [step, window] at taken
    obtain ⟨r, made, ⟨w', window', same⟩, stage, -⟩ := sessionStep_spec taken
    obtain rfl : r.next = s' :=
      same.symm.trans (Option.some.inj ((session_of_window window').symm.trans session'))
    refine ⟨stage ▸ down, ?_⟩
    have rendered := Session.rendered underway.wired made
    exact Session.toStop_render (down.stopRequested fits) rendered
  | _ => cases (if_neg busy).symm.trans taken

/-- While a window is being taken down, the render thread can move, or has ended; and then the
main thread is done with the next move. -/
theorem taking_down {s : Session Headless} (sound : h.Sound) (session : h.session = some s)
    (down : h.stage.TakesDown) :
    (h.step .render).isSome = true ∨
      ∃ moved, h.step .proceed = some moved ∧ moved.next.session = none := by
  obtain ⟨-, underway⟩ := sound.underway s session
  obtain ⟨w, window, rfl⟩ := Option.map_eq_some_iff.1 session
  cases ended : w.session.loop.isOver with
  | false =>
    left
    have moves : w.session.render.isSome = true := Session.render_isSome underway.wired ended
    simp only [step, window, sessionStep, Session.step, Option.isSome_map, moves]
  | true =>
    right
    obtain down | down := down
    · exact ⟨h.close w, by simp only [step, proceed, down, window, ended, if_true], rfl⟩
    · exact ⟨h.giveUp w, by simp only [step, proceed, down, window, ended, if_true], rfl⟩

/-- As long as a window is being taken down, the render thread makes only so many moves. -/
theorem renders_le {h' : Host} {s : Session Headless} (sound : h.Sound)
    (session : h.session = some s) (down : h.stage.TakesDown) (course : Course h steps h')
    (stays : ∀ x ∈ steps, x.result.next.session ≠ none) :
    ∃ s', h'.session = some s' ∧ h'.stage.TakesDown ∧
      s'.toStop + steps.countP (·.move.isRender) ≤ s.toStop := by
  induction course with
  | nil => exact ⟨s, session, down, Nat.le_refl _⟩
  | @snoc steps h' m r path taken ih =>
    obtain ⟨s', session', down', bound⟩ := ih fun x mem => stays x (by simp [mem])
    obtain ⟨s'', session''⟩ := Option.ne_none_iff_exists'.1 (stays ⟨h', m, r⟩ (by simp))
    obtain ⟨down'', nearer⟩ := toStop_step (Course.sound path sound) session' down' taken session''
    refine ⟨s'', session'', down'', ?_⟩
    rw [List.countP_append, List.countP_singleton]
    cases render : m.isRender <;> simp [render] at nearer ⊢ <;> omega

/-- A host that has done nothing yet. -/
def idle : Host := { settings := {} }

/-- What the window system makes. -/
def desk : NativeWindow := ⟨7, ⟨800, 600⟩, 1.0, 0⟩

/-- A window is opened, drawn once, resized and drawn again, and closed. -/
def closingMoves : List HostMove :=
  .resumed (.ok desk) (.ok ()) :: List.replicate 6 .render ++
    [.windowEvent 7 (.resized ⟨1024, 768⟩), .proceed, .proceed, .proceed] ++
    List.replicate 7 .render ++ [.proceed, .exiting, .render, .render, .proceed]

/-- The steps of these moves. -/
def closingSteps : List HostStep := Path.record step HostMoved.next idle closingMoves

end Host

end HostView
