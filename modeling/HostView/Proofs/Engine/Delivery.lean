import HostView.Proofs.Engine.Traffic

/-!
# Nothing is lost on a bus

What came out of a bus, followed by what waits on it, is what the bus took, in this order, after
every step of any threads (`Traffic.Course.conserved`).

A drain is a loop whose callback may add to what the loop is to hand out.  While nobody else
receives, it has handed out what waited at its start and what was taken since, as far as that does
not wait (`Traffic.DrainedBy.split`), so that it ends after as many turns as there were such events,
and leaves nothing.  `Bus.drain` is such a loop (`Traffic.course_of_drain`), and `Bus.receive` a
receive of one event (`Traffic.course_of_receive`).
-/

namespace HostView

namespace BusNews

variable {α : Type}

/-- The event that a callback is called with. -/
def callback : BusNews α → Option α
  | handed _ event => some event
  | _ => none

/-- What became of the event that was sent. -/
def fate : BusNews α → Option Sent
  | sent _ fate => some fate
  | _ => none

/-- What happens beside a drain of a thread in which nobody else receives, or in its loop. -/
def Beside (t : ThreadId) : BusNews α → Prop
  | connected | sent _ _ | violation _ => True
  | handed thread _ => thread = t
  | _ => False

end BusNews

/-! ### A single send -/

namespace Bus

variable {α : Type}

/-- A bus takes an event if it is open and fewer events wait than may. -/
theorem send_accepts {b : Bus α} {event : α} :
    (b.send event).2 = .accepted ↔
      b.isOpen = true ∧ ∀ limit, b.capacity = some limit → b.queue.length < limit := by
  rw [send]
  cases isOpen : b.isOpen with
  | false => simp
  | true =>
    cases capacity : b.capacity with
    | none => simp [hasRoom, capacity]
    | some limit => by_cases room : b.queue.length < limit <;> simp [hasRoom, capacity, room]

/-- What it takes waits behind all others. -/
theorem send_eq (b : Bus α) (event : α) :
    (b.send event).1 =
      { b with queue := b.queue ++ (BusNews.sent event (b.send event).2).accepted.toList } := by
  obtain ⟨capacity, queue, owner, isOpen⟩ := b
  cases isOpen with
  | false => simp [send, BusNews.accepted]
  | true =>
    cases room : hasRoom ⟨capacity, queue, owner, true⟩ <;> simp [send, room, BusNews.accepted]

theorem deliver_of_empty {b : Bus α} (empty : b.queue = []) (replies : List (α → List α)) :
    b.deliver replies = ([], b) := by
  obtain ⟨capacity, queue, owner, isOpen⟩ := b
  obtain rfl : queue = [] := empty
  cases replies <;> rfl

/-- The first turn of a drain; a consumer that has no more to say sends nothing. -/
theorem deliver_of_waiting {b : Bus α} {event : α} {queue : List α}
    (waits : b.queue = event :: queue) (replies : List (α → List α)) :
    b.deliver replies =
      let answered := ({ b with queue } : Bus α).sendAll (replies.head?.elim [] (· event))
      let rest := answered.1.deliver replies.tail
      (⟨event, answered.2⟩ :: rest.1, rest.2) := by
  obtain ⟨capacity, _, owner, isOpen⟩ := b
  obtain rfl : _ = event :: queue := waits
  cases replies <;> rfl

/-- No more events wait than may. -/
def Bounded (b : Bus α) : Prop := ∀ limit, b.capacity = some limit → b.queue.length ≤ limit

theorem Bounded.send {b : Bus α} (bounded : b.Bounded) (event : α) : (b.send event).1.Bounded := by
  intro limit capacity
  rw [send_eq] at capacity ⊢
  cases fate : (b.send event).2 with
  | accepted =>
    have room := (send_accepts.1 fate).2 limit capacity
    simpa [BusNews.accepted] using Nat.succ_le_of_lt room
  | _ => simpa [BusNews.accepted] using bounded limit capacity

end Bus

namespace Traffic

variable {α : Type} {capacity : Option Nat} {s s' : Traffic α} {steps during : List (Step α)}
  {m : BusMove α} {r : BusMoved α} {t : ThreadId}

/-! ### All events -/

/-- With each step but the last, what comes out and what waits then is what waited and what goes
in. -/
theorem Stepped.conserves (made : Stepped s m r) (bounded : s.bus.Bounded)
    (remains : m ≠ .close) :
    r.news.delivery.toList.map (·.2) ++ r.next.bus.queue =
        s.bus.queue ++ r.news.accepted.toList ∧
      r.next.bus.isOpen = s.bus.isOpen ∧ r.next.bus.capacity = s.bus.capacity := by
  cases made with
  | @sent _ event =>
    rw [Bus.send_eq]
    exact ⟨rfl, rfl, rfl⟩
  | met top none =>
    have empty : s.bus.queue = [] := List.length_eq_zero_iff.1 (Nat.le_zero.1 (bounded 0 none))
    simp [BusNews.delivery, BusNews.accepted, empty]
  | admitted isOpen claimed =>
    obtain ⟨-, rfl⟩ := Bus.claim_eq_some.1 claimed
    simp [BusNews.delivery, BusNews.accepted]
  | received top => cases s.bus.queue <;> simp [BusNews.delivery, BusNews.accepted]
  | handed top waits => simp [BusNews.delivery, BusNews.accepted, waits]
  | closed => exact absurd rfl remains
  | _ => simp [BusNews.delivery, BusNews.accepted]

/-- A sender learns what the bus does about the event. -/
theorem Stepped.sent_news {sender : Nat} {event : α} (made : Stepped s (.send sender event) r) :
    r.news = .sent event (s.bus.send event).2 := by
  cases made with
  | connected how => obtain same | ⟨_, same⟩ := how <;> cases same
  | sent => rfl

/-- A bus that is gone takes nothing. -/
theorem Stepped.refuses (made : Stepped s m r) (gone : s.bus.isOpen = false) :
    r.news.accepted = none := by
  cases made with
  | sent => rw [Bus.send_of_closed _ gone]; rfl
  | met top none isOpen => cases isOpen.symm.trans gone
  | _ => rfl

theorem Stepped.bounded (made : Stepped s m r) (bounded : s.bus.Bounded) :
    r.next.bus.Bounded := by
  have shorter {queue : List α} (le : queue.length ≤ s.bus.queue.length) :
      ({ s.bus with queue } : Bus α).Bounded :=
    fun limit capacity => Nat.le_trans le (bounded limit capacity)
  cases made with
  | sent => exact bounded.send _
  | admitted isOpen claimed =>
    obtain ⟨-, rfl⟩ := Bus.claim_eq_some.1 claimed
    exact bounded
  | received => exact shorter (by simp)
  | handed top waits => exact shorter (by simp [waits])
  | closed => exact shorter (Nat.zero_le _ : ([] : List α).length ≤ s.bus.queue.length)
  | _ => exact bounded

theorem Course.bounded (course : Course (fresh capacity) steps s) : s.bus.Bounded :=
  Path.invariant (P := fun s => s.bus.Bounded) course (fun _ _ => Nat.zero_le _)
    fun bounded taken => (stepped taken).bounded bounded

/-- What came out, and then what waits, is what was taken; after the end of the bus it is the first
part of it. -/
theorem Course.conserved (course : Course (fresh capacity) steps s) :
    (s.bus.isOpen = true → delivered steps ++ s.bus.queue = accepted steps) ∧
      delivered steps ++ s.bus.queue <+: accepted steps ∧ s.bus.capacity = capacity := by
  induction course with
  | nil => exact ⟨fun _ => rfl, List.prefix_rfl, rfl⟩
  | @snoc steps s m r path taken ih =>
    obtain ⟨whole, part, limit⟩ := ih
    rw [delivered_snoc, accepted_snoc]
    by_cases ends : m = .close
    · subst ends
      cases stepped taken with
      | connected how => obtain same | ⟨_, same⟩ := how <;> cases same
      | closed =>
        refine ⟨nofun, ?_, limit⟩
        simpa [BusNews.delivery, BusNews.accepted, Bus.close] using
          (List.prefix_append _ _).trans part
    · obtain ⟨same, isOpen, limit'⟩ := (stepped taken).conserves (Course.bounded path) ends
      rw [List.append_assoc, same, ← List.append_assoc]
      refine ⟨fun stays => ?_, ?_, limit'.trans limit⟩
      · rw [whole (isOpen ▸ stays)]
      cases before : s.bus.isOpen with
      | true => exact ⟨[], by rw [whole before, List.append_nil]⟩
      | false =>
        rw [(stepped taken).refuses before]
        simpa using part

/-! ### Draining -/

/-- The events that callbacks were called with, the oldest first. -/
def callbacks (steps : List (Step α)) : List α := steps.filterMap (·.result.news.callback)

theorem callbacks_snoc (steps : List (Step α)) (x : Step α) :
    callbacks (steps ++ [x]) = callbacks steps ++ x.result.news.callback.toList := by
  cases called : x.result.news.callback <;> simp [callbacks, called]

theorem callbacks_append (first second : List (Step α)) :
    callbacks (first ++ second) = callbacks first ++ callbacks second := List.filterMap_append

/-- What became of the events that were sent. -/
def fates (steps : List (Step α)) : List Sent := steps.filterMap (·.result.news.fate)

theorem fates_append (first second : List (Step α)) :
    fates (first ++ second) = fates first ++ fates second := List.filterMap_append

/-- A drain of thread `t` begins with `x` and goes on during some steps, in which nobody else
receives an event. -/
structure DrainedBy (t : ThreadId) (x : Step α) (during : List (Step α)) : Prop where
  begins : x.move = .receive t .drain
  admitted : x.result.news = .admitted t
  apart : ∀ z ∈ during, z.result.news.Beside t

/-- A step beside a drain, or of the drain itself. -/
theorem Stepped.beside (made : Stepped s m r) (beside : r.news.Beside t) {handed : Nat}
    {outer : List Receiving} (top : s.receives t = ⟨.drain, handed⟩ :: outer) :
    r.next.receives t = ⟨.drain, handed + r.news.callback.toList.length⟩ :: outer ∧
      r.news.callback.toList ++ r.next.bus.queue = s.bus.queue ++ r.news.accepted.toList := by
  cases made with
  | connected | refused => exact ⟨top, (List.append_nil _).symm⟩
  | sent =>
    rw [Bus.send_eq]
    exact ⟨top, rfl⟩
  | @handed u handed' outer' event queue top' waits =>
    obtain rfl : u = t := beside
    obtain ⟨⟨-, rfl⟩, rfl⟩ : (True ∧ handed' = handed) ∧ outer' = outer := by
      simpa using top'.symm.trans top
    simp [BusNews.callback, BusNews.accepted, waits]
  | _ => exact beside.elim

theorem Course.beside (course : Course s during s') (apart : ∀ z ∈ during, z.result.news.Beside t)
    {outer : List Receiving} (top : s.receives t = ⟨.drain, 0⟩ :: outer) :
    s'.receives t = ⟨.drain, (callbacks during).length⟩ :: outer ∧
      callbacks during ++ s'.bus.queue = s.bus.queue ++ accepted during := by
  induction course with
  | nil => exact ⟨top, (List.append_nil _).symm⟩
  | @snoc during s₁ m r path taken ih =>
    obtain ⟨inside, same⟩ := ih fun z mem => apart z (by simp [mem])
    obtain ⟨inside', same'⟩ := (stepped taken).beside (apart ⟨s₁, m, r⟩ (by simp)) inside
    rw [callbacks_snoc, accepted_snoc, List.length_append]
    refine ⟨inside', ?_⟩
    rw [List.append_assoc, same', ← List.append_assoc, same, List.append_assoc]

/-- So far a drain has called its callback with what waited at its start and what was taken since,
except for what waits still. -/
theorem DrainedBy.split {x : Step α} (drain : DrainedBy t x during)
    (taken : x.before.step x.move = some x.result) (course : Course x.result.next during s) :
    ∃ outer, s.receives t = ⟨.drain, (callbacks during).length⟩ :: outer ∧
      callbacks during ++ s.bus.queue = x.before.bus.queue ++ accepted during := by
  rw [drain.begins] at taken
  obtain ⟨-, refused⟩ | ⟨bus, claimed, granted⟩ := (stepped taken).checked
  · cases drain.admitted.symm.trans (congrArg BusMoved.news refused)
  · obtain ⟨-, rfl⟩ := Bus.claim_eq_some.1 claimed
    rw [granted] at course
    exact ⟨_, Course.beside course drain.apart (setReceives_same ..)⟩

/-- The loop calls its callback as long as something waits. -/
theorem proceed_of_waiting {handed : Nat} {outer : List Receiving} {event : α} {queue : List α}
    (top : s.receives t = ⟨.drain, handed⟩ :: outer) (waits : s.bus.queue = event :: queue) :
    s.step (.proceed t) =
      some ⟨(s.setQueue queue).setReceives t (⟨.drain, handed + 1⟩ :: outer), .handed t event⟩ := by
  rw [step, proceed, top]
  simp only [Bus.pop, waits]
  rfl

/-- It ends when nothing waits. -/
theorem proceed_of_empty {handed : Nat} {outer : List Receiving}
    (top : s.receives t = ⟨.drain, handed⟩ :: outer) (empty : s.bus.queue = []) :
    s.step (.proceed t) = some ⟨s.setReceives t outer, .drained t handed⟩ := by
  rw [step, proceed, top]
  simp only [Bus.pop, empty]

/-- A drain that has ended has left nothing, and returns how often its callback was called. -/
theorem Stepped.ended {count : Nat} (made : Stepped s m r) (ended : r.news = .drained t count) :
    (∃ outer, s.receives t = ⟨.drain, count⟩ :: outer) ∧ s.bus.queue = [] ∧
      r.next.bus.queue = [] := by
  cases made with
  | drained top empty =>
    obtain ⟨rfl, rfl⟩ : _ = t ∧ _ = count := by simpa using ended
    exact ⟨⟨_, top⟩, empty, empty⟩
  | _ => cases ended

/-! ### The loop of the bus -/

/-- Sends of one event after the other. -/
theorem course_of_sendAll (known : 0 < s.senders) (events : List α) :
    ∃ steps, Course s steps { s with bus := (s.bus.sendAll events).1 } ∧
      (∀ z ∈ steps, z.result.news.Beside t) ∧ callbacks steps = [] ∧
      fates steps = (s.bus.sendAll events).2 := by
  induction events generalizing s with
  | nil => exact ⟨[], .nil, by simp, rfl, rfl⟩
  | cons event events ih =>
    let x : Step α := ⟨s, .send 0 event,
      ⟨{ s with bus := (s.bus.send event).1 }, .sent event (s.bus.send event).2⟩⟩
    have taken : x.before.step x.move = some x.result := if_pos known
    obtain ⟨steps, course, beside, silent, same⟩ := @ih x.result.next known
    exact ⟨x :: steps, course.cons taken, List.forall_mem_cons.2 ⟨trivial, beside⟩, silent,
      congrArg (_ :: ·) same⟩

/-- The loop of a drain whose callback was called `handed` times can go on to its end, with these
deliveries, and leave the bus like this. -/
def HandsOut (s : Traffic α) (t : ThreadId) (handed : Nat) (deliveries : List (Bus.Delivery α))
    (bus : Bus α) : Prop :=
  ∃ during y s', Course s (during ++ [y]) s' ∧ s'.bus = bus ∧
    (∀ z ∈ during, z.result.news.Beside t) ∧
    y.result.news = .drained t (handed + deliveries.length) ∧
    callbacks during = deliveries.map (·.event) ∧ fates during = deliveries.flatMap (·.sent)

theorem handsOut_nil {handed : Nat} {outer : List Receiving}
    (top : s.receives t = ⟨.drain, handed⟩ :: outer) (empty : s.bus.queue = []) :
    s.HandsOut t handed [] s.bus :=
  ⟨[], ⟨s, .proceed t, ⟨s.setReceives t outer, .drained t handed⟩⟩, _,
    Path.nil.snoc (proceed_of_empty top empty), rfl, by simp, rfl, rfl, rfl⟩

/-- One turn of the loop, in which the callback sends some events, before the others. -/
theorem HandsOut.cons {handed : Nat} {outer : List Receiving} {event : α} {queue : List α}
    {events : List α} {deliveries : List (Bus.Delivery α)} {bus : Bus α}
    (known : 0 < s.senders) (top : s.receives t = ⟨.drain, handed⟩ :: outer)
    (waits : s.bus.queue = event :: queue)
    (rest : ∀ s' : Traffic α, 0 < s'.senders →
      s'.receives t = ⟨.drain, handed + 1⟩ :: outer →
      s'.bus = (({ s.bus with queue } : Bus α).sendAll events).1 →
      s'.HandsOut t (handed + 1) deliveries bus) :
    s.HandsOut t handed
      (⟨event, (({ s.bus with queue } : Bus α).sendAll events).2⟩ :: deliveries) bus := by
  let x : Step α := ⟨s, .proceed t,
    ⟨(s.setQueue queue).setReceives t (⟨.drain, handed + 1⟩ :: outer), .handed t event⟩⟩
  have taken : x.before.step x.move = some x.result := proceed_of_waiting top waits
  obtain ⟨sends, sending, beside, silent, told⟩ :=
    course_of_sendAll (t := t) (s := x.result.next) known events
  obtain ⟨during, y, s', course, left, beside', ended, called, told'⟩ :=
    rest { x.result.next with bus := (x.result.next.bus.sendAll events).1 } known
      (setReceives_same ..) rfl
  refine ⟨x :: (sends ++ during), y, s', ?_, left, ?_, ?_, ?_, ?_⟩
  · rw [List.cons_append, List.append_assoc]
    exact Path.cons taken (sending.append course)
  · exact List.forall_mem_cons.2 ⟨rfl, List.forall_mem_append.2 ⟨beside, beside'⟩⟩
  · rw [ended, List.length_cons, Nat.add_right_comm, Nat.add_assoc]
  · rw [List.map_cons, ← called]
    change event :: callbacks (sends ++ during) = _
    rw [callbacks_append, silent, List.nil_append]
  · rw [List.flatMap_cons, ← told']
    change fates (sends ++ during) = _
    rw [fates_append, told]
    rfl

/-- The loop of a drain hands out what `Bus.deliver` does. -/
theorem handsOut_deliver (known : 0 < s.senders) {handed : Nat} {outer : List Receiving}
    (top : s.receives t = ⟨.drain, handed⟩ :: outer) (replies : List (α → List α)) :
    s.HandsOut t handed (Bus.deliver replies s.bus).1 (Bus.deliver replies s.bus).2 := by
  induction replies generalizing s handed with
  | nil =>
    induction waits : s.bus.queue generalizing s handed with
    | nil =>
      rw [Bus.deliver_of_empty waits]
      exact handsOut_nil top waits
    | cons event queue ih =>
      simp only [Bus.deliver_of_waiting waits]
      refine .cons known top waits fun s' known' top' bus => ?_
      rw [← bus]
      exact ih known' top' (by rw [bus]; rfl)
  | cons reply later ih =>
    cases waits : s.bus.queue with
    | nil =>
      rw [Bus.deliver_of_empty waits]
      exact handsOut_nil top waits
    | cons event queue =>
      simp only [Bus.deliver_of_waiting waits]
      refine .cons known top waits fun s' known' top' bus => ?_
      rw [← bus]
      exact ih known' top'

/-- The thread that owns an open bus, or that finds it without an owner, passes the check. -/
theorem receive_admitted (isOpen : s.bus.isOpen = true)
    (consumer : s.bus.owner = none ∨ s.bus.owner = some t) (how : Reception) :
    s.step (.receive t how) =
      some ⟨{ s with bus := { s.bus with owner := some t } }.setReceives t
        (⟨how, 0⟩ :: s.receives t), .admitted t⟩ := by
  simp only [step, isOpen, Bus.claim_of_owner consumer, if_true]

/-- What `Bus.receive` does is a receive of one event, in two steps. -/
theorem course_of_receive (isOpen : s.bus.isOpen = true)
    (consumer : s.bus.owner = none ∨ s.bus.owner = some t) (timed : Bool) :
    ∃ event bus, s.bus.receive t = some (event, bus) ∧
      ∃ x y s', Course s [x, y] s' ∧ s'.bus = bus ∧ x.move = .receive t (.single timed) ∧
        y.result.news = .received t event := by
  let x : Step α := ⟨s, .receive t (.single timed),
    ⟨{ s with bus := { s.bus with owner := some t } }.setReceives t
      (⟨.single timed, 0⟩ :: s.receives t), .admitted t⟩⟩
  let y : Step α := ⟨x.result.next, .proceed t,
    ⟨(x.result.next.setQueue s.bus.queue.tail).setReceives t (s.receives t),
      .received t s.bus.queue.head?⟩⟩
  have taken : x.before.step x.move = some x.result := receive_admitted isOpen consumer _
  have taken' : y.before.step y.move = some y.result := by
    have top : x.result.next.receives t = ⟨.single timed, 0⟩ :: s.receives t :=
      setReceives_same ..
    simp only [y, step, proceed, top, Bus.pop_eq]
    rfl
  exact ⟨_, _, Bus.receive_of_owner consumer, x, y, _, Path.cons taken (Path.cons taken' .nil),
    rfl, rfl, rfl⟩

/-- What `Bus.drain` does is a drain of this kind, which comes to its end. -/
theorem course_of_drain (isOpen : s.bus.isOpen = true) (known : 0 < s.senders)
    (consumer : s.bus.owner = none ∨ s.bus.owner = some t) (replies : List (α → List α)) :
    ∃ deliveries bus, s.bus.drain t replies = some (deliveries, bus) ∧
      ∃ x during y s', Course s (x :: (during ++ [y])) s' ∧ s'.bus = bus ∧ DrainedBy t x during ∧
        y.result.news = .drained t deliveries.length ∧
        callbacks during = deliveries.map (·.event) ∧
        fates during = deliveries.flatMap (·.sent) := by
  let bus : Bus α := { s.bus with owner := some t }
  let x : Step α := ⟨s, .receive t .drain,
    ⟨{ s with bus }.setReceives t (⟨.drain, 0⟩ :: s.receives t), .admitted t⟩⟩
  have taken : x.before.step x.move = some x.result := receive_admitted isOpen consumer .drain
  obtain ⟨during, y, s', course, left, beside, ended, called, told⟩ :=
    handsOut_deliver (s := x.result.next) known (setReceives_same ..) replies
  refine ⟨(bus.deliver replies).1, (bus.deliver replies).2, ?_, x, during, y, s',
    course.cons taken, left, ⟨rfl, rfl, beside⟩, ?_, called, told⟩
  · rw [Bus.drain, Bus.claim_of_owner consumer]
    rfl
  · rw [ended, Nat.zero_add]
    rfl

/-- A drain under way has called its callback for some of the events that waited at its start or
were taken since, and goes on with the next or, if that was all, ends. -/
theorem DrainedBy.goes_on {x : Step α} (drain : DrainedBy t x during)
    (taken : x.before.step x.move = some x.result) (course : Course x.result.next during s) :
    (callbacks during).length ≤ x.before.bus.queue.length + (accepted during).length ∧
      ∃ r, s.step (.proceed t) = some r ∧
        (s.bus.queue ≠ [] → ∃ event, r.news = .handed t event) ∧
        (s.bus.queue = [] →
          r.news = .drained t (x.before.bus.queue.length + (accepted during).length)) := by
  obtain ⟨outer, top, split⟩ := drain.split taken course
  have total : (callbacks during).length + s.bus.queue.length =
      x.before.bus.queue.length + (accepted during).length := by
    rw [← List.length_append, split, List.length_append]
  refine ⟨total ▸ Nat.le_add_right _ _, ?_⟩
  cases waits : s.bus.queue with
  | nil =>
    rw [waits, List.length_nil, Nat.add_zero] at total
    exact ⟨_, proceed_of_empty top waits, by simp, fun _ => congrArg (BusNews.drained t) total⟩
  | cons event queue => exact ⟨_, proceed_of_waiting top waits, fun _ => ⟨event, rfl⟩, nofun⟩

/-- A drain at its end: it has called its callback with all that waited at its start and all that
was taken since, once with each. -/
theorem DrainedBy.ended {x y : Step α} {count : Nat} (drain : DrainedBy t x during)
    (taken : x.before.step x.move = some x.result) (course : Course x.result.next during y.before)
    (taken' : y.before.step y.move = some y.result) (ended : y.result.news = .drained t count) :
    y.result.next.bus.queue = [] ∧ callbacks during = x.before.bus.queue ++ accepted during ∧
      count = x.before.bus.queue.length + (accepted during).length := by
  obtain ⟨outer, top, split⟩ := drain.split taken course
  obtain ⟨⟨outer', top'⟩, empty, left⟩ := (stepped taken').ended ended
  rw [empty, List.append_nil] at split
  refine ⟨left, split, ?_⟩
  obtain ⟨rfl, -⟩ : count = (callbacks during).length ∧ outer' = outer := by
    simpa using top'.symm.trans top
  rw [split, List.length_append]

/-- Whatever any threads do about a bus: while it is open, what came out and then what waits is what
was taken, so that nothing comes out that was never taken.  A send is taken exactly if the bus is
open and fewer events wait than may.  A drain, while nobody else receives, calls its callback no
more often than there were events at its start or were taken since, and can always go on; when it
ends it has called it with these events in order, returns their number and leaves nothing.  The
owner can receive, as `Bus.receive` does, and drain the bus to its end whatever finite number of
events the callback sends, as `Bus.drain` does. -/
theorem nothing_lost (course : Course (fresh capacity) steps s) :
    ((s.bus.isOpen = true → delivered steps ++ s.bus.queue = accepted steps) ∧
      delivered steps <+: accepted steps ∧
      ∀ event, (∀ x ∈ steps, x.result.news.accepted ≠ some event) → event ∉ delivered steps) ∧
    (∀ before x after sender event, steps = before ++ x :: after → x.move = .send sender event →
      ∃ fate, x.result.news = .sent event fate ∧
        (fate = .accepted ↔ x.before.bus.isOpen = true ∧
          ∀ limit, capacity = some limit → x.before.bus.queue.length < limit)) ∧
    (∀ before x during t, DrainedBy t x during →
      let total := x.before.bus.queue.length + (accepted during).length
      (steps = before ++ x :: during →
        (callbacks during).length ≤ total ∧ ∃ r, s.step (.proceed t) = some r ∧
          (s.bus.queue ≠ [] → ∃ event, r.news = .handed t event) ∧
          (s.bus.queue = [] → r.news = .drained t total)) ∧
      ∀ y after count, steps = before ++ x :: (during ++ y :: after) →
        y.result.news = .drained t count →
          y.result.next.bus.queue = [] ∧ count = total ∧
            callbacks during = x.before.bus.queue ++ accepted during) ∧
    ∀ t, s.bus.isOpen = true → (s.bus.owner = none ∨ s.bus.owner = some t) →
      (∀ timed, ∃ event bus, s.bus.receive t = some (event, bus) ∧
        ∃ x y s', Course s [x, y] s' ∧ s'.bus = bus ∧ x.move = .receive t (.single timed) ∧
          y.result.news = .received t event) ∧
      ∀ replies, 0 < s.senders →
        ∃ deliveries bus, s.bus.drain t replies = some (deliveries, bus) ∧ bus.queue = [] ∧
          ∃ x during y s', Course s (x :: (during ++ [y])) s' ∧ s'.bus = bus ∧
            DrainedBy t x during ∧ y.result.news = .drained t deliveries.length ∧
            deliveries.length = s.bus.queue.length + (accepted during).length ∧
            deliveries.map (·.event) = s.bus.queue ++ accepted during ∧
            deliveries.flatMap (·.sent) = fates during := by
  obtain ⟨whole, part, -⟩ := course.conserved
  have first : delivered steps <+: accepted steps := (List.prefix_append _ _).trans part
  refine ⟨⟨whole, first, fun event refused mem => ?_⟩, ?_, ?_, ?_⟩
  · obtain ⟨x, taken, took⟩ := List.mem_filterMap.1 (first.mem mem)
    exact refused x taken took
  · rintro before x after sender event rfl sends
    obtain ⟨path, taken, -⟩ := course.split
    obtain ⟨-, -, limit⟩ := Course.conserved path
    rw [sends] at taken
    rw [← limit]
    exact ⟨_, (stepped taken).sent_news, Bus.send_accepts⟩
  · intro before x during t drain total
    refine ⟨?_, ?_⟩
    · rintro rfl
      obtain ⟨-, taken, rest⟩ := course.split
      exact drain.goes_on taken rest
    · rintro y after count rfl ended
      obtain ⟨-, taken, rest⟩ := course.split
      obtain ⟨loop, taken', -⟩ := rest.split
      obtain ⟨left, called, count⟩ := drain.ended taken loop taken' ended
      exact ⟨left, count, called⟩
  · intro t isOpen consumer
    refine ⟨course_of_receive isOpen consumer, fun replies known => ?_⟩
    obtain ⟨deliveries, bus, drained, x, during, y, s', course', left, drain, ended, called,
      told⟩ := course_of_drain isOpen known consumer replies
    obtain ⟨rfl, taken, rest⟩ := course'.of_cons
    obtain ⟨loop, taken', rfl⟩ := rest.of_snoc
    obtain ⟨empty, called', count⟩ := drain.ended taken loop taken' ended
    exact ⟨deliveries, bus, drained, left ▸ empty, x, during, y, _, course', left, drain, ended,
      count, called.symm.trans called', told.symm⟩

/-- A bus that keeps one event refuses a second, and is then drained with a callback that sends a
third. -/
def tightDrain : List (BusMove String) :=
  [.connect, .send 0 "first", .send 0 "second", .receive 1 .drain, .proceed 1, .send 0 "third",
    .proceed 1, .proceed 1]

/-- The steps of this drain. -/
def tightSteps : List (Step String) := Path.record step BusMoved.next (fresh (some 1)) tightDrain

theorem news_tightSteps :
    tightSteps.map (·.result.news) =
      [.connected, .sent "first" .accepted, .sent "second" .full, .admitted 1, .handed 1 "first",
        .sent "third" .accepted, .handed 1 "third", .drained 1 2] := rfl

/-- The drain hands out the first and the third, and returns two. -/
theorem tight_drain_returns_two :
    tightSteps.map (·.result.news) =
        [.connected, .sent "first" .accepted, .sent "second" .full, .admitted 1,
          .handed 1 "first", .sent "third" .accepted, .handed 1 "third", .drained 1 2] ∧
      ∃ s, Course (fresh (some 1)) tightSteps s ∧
        delivered tightSteps ++ s.bus.queue = ["first", "third"] ∧
        "second" ∉ delivered tightSteps ∧
        callbacks [tightSteps[4], tightSteps[5], tightSteps[6]] = ["first"] ++ ["third"] := by
  obtain ⟨s, course⟩ : ∃ s, Course (fresh (some 1)) tightSteps s :=
    Path.recorded (fresh (some 1)) tightDrain
  have split : tightSteps = tightSteps.take 7 ++ [tightSteps[7]] := rfl
  obtain ⟨-, -, last⟩ := Path.of_snoc (split ▸ course)
  obtain ⟨⟨whole, -, refused⟩, -, drains, -⟩ := nothing_lost course
  have apart : ∀ z ∈ [tightSteps[4], tightSteps[5], tightSteps[6]], z.result.news.Beside 1 :=
    List.forall_mem_cons.2 ⟨rfl, List.forall_mem_cons.2 ⟨trivial,
      List.forall_mem_singleton.2 rfl⟩⟩
  obtain ⟨-, ended⟩ := drains (tightSteps.take 3) tightSteps[3] _ 1 ⟨rfl, rfl, apart⟩
  obtain ⟨-, -, called⟩ := ended tightSteps[7] [] 2 rfl rfl
  have untaken : some "second" ∉ tightSteps.map (·.result.news.accepted) := by decide
  refine ⟨news_tightSteps, s, course, whole (last ▸ rfl), refused "second" ?_, called⟩
  intro x mem took
  exact untaken (took ▸ List.mem_map_of_mem mem)

end Traffic

end HostView
