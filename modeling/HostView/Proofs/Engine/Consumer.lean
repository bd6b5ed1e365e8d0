import HostView.Proofs.Engine.Traffic

/-!
# The consumer of a bus

The consumer is the thread whose receive passed the check first (`Traffic.consumer`).  Whatever any
threads do, it stays the owner, and a thread is in a receive only if it is the owner
(`Traffic.Owned`), so that all events go to the consumer.  A receive by another thread is refused
without a trace: the steps that follow it are just as possible without it
(`Traffic.single_consumer`).

The owner is kept as a word, of which zero says that there is none, and is compared and exchanged in
one go.  If the threads that receive have different numbers, this check is that of `Bus.claim`
(`Bus.claim_word`).
-/

namespace HostView

/-- The number of a thread, by the hash of its identity; zero is nobody's. -/
def consumerId (hash : ThreadId → UInt64) (t : ThreadId) : UInt64 :=
  if hash t = 0 then 1 else hash t

/-- The check of a receive by thread `id`: what becomes of the word that is kept about the owner, or
`none` if it is somebody else. -/
def checkOwner (word id : UInt64) : Option UInt64 :=
  if word = 0 then some id
  else if word = id then some word
  else none

/-- The word that is kept about the owner. -/
def Bus.word {α : Type} (hash : ThreadId → UInt64) (b : Bus α) : UInt64 :=
  b.owner.elim 0 (consumerId hash)

theorem consumerId_ne_zero (hash : ThreadId → UInt64) (t : ThreadId) : consumerId hash t ≠ 0 := by
  rw [consumerId]
  split
  next => decide
  next other => exact other

/-- Threads with different numbers are told apart by the word. -/
theorem Bus.claim_word {α : Type} {hash : ThreadId → UInt64} {b : Bus α} {t : ThreadId}
    (distinct : ∀ owner, b.owner = some owner → consumerId hash owner = consumerId hash t →
      owner = t) :
    checkOwner (b.word hash) (consumerId hash t) = (b.claim t).map (·.word hash) := by
  cases owned : b.owner with
  | none =>
    rw [claim_of_owner (.inl owned), word, owned]
    rfl
  | some owner =>
    have taken : b.word hash ≠ 0 := by
      rw [word, owned]
      exact consumerId_ne_zero hash owner
    rw [checkOwner, if_neg taken, word, owned]
    by_cases same : owner = t
    · subst same
      rw [claim_of_owner (.inr owned)]
      exact if_pos rfl
    · rw [claim_of_other owned same]
      exact if_neg fun equal => same (distinct owner owned equal)

/-- The thread whose receive has passed the check. -/
def BusNews.admittee {α : Type} : BusNews α → Option ThreadId
  | admitted thread => some thread
  | _ => none

namespace Traffic

variable {α : Type} {capacity : Option Nat} {s : Traffic α} {steps : List (Step α)}
  {m : BusMove α} {r : BusMoved α}

/-! ### The owner -/

/-- The first thread whose receive passed the check. -/
def consumer (steps : List (Step α)) : Option ThreadId :=
  (steps.filterMap (·.result.news.admittee)).head?

theorem consumer_snoc (steps : List (Step α)) (x : Step α) :
    consumer (steps ++ [x]) = (consumer steps).or x.result.news.admittee := by
  cases passed : x.result.news.admittee <;> simp [consumer, passed]

/-- Only the first receive that passes the check changes the owner. -/
theorem Stepped.owner (made : Stepped s m r) :
    r.next.bus.owner = s.bus.owner.or r.news.admittee := by
  cases made with
  | @sent _ event =>
    simp only [BusNews.admittee, Option.or_none]
    rw [Bus.send]
    split
    · rfl
    · split <;> rfl
  | admitted isOpen claimed =>
    obtain ⟨free | own, rfl⟩ := Bus.claim_eq_some.1 claimed
    · rw [free]
      rfl
    · rw [own]
      rfl
  | _ => exact Option.or_none.symm

theorem Course.owner (course : Course (fresh capacity) steps s) : s.bus.owner = consumer steps := by
  induction course with
  | nil => rfl
  | snoc path taken ih => rw [(stepped taken).owner, ih, consumer_snoc]

/-- Only the owner is in a receive. -/
def Owned (s : Traffic α) : Prop := ∀ t, s.receives t ≠ [] → s.bus.owner = some t

theorem owned_fresh (capacity : Option Nat) : Owned (fresh (α := α) capacity) :=
  fun _ inside => absurd rfl inside

/-- The receives of the owner may change. -/
theorem Owned.setReceives {t : ThreadId} (owned : s.Owned) (owner : s.bus.owner = some t)
    (receives : List Receiving) : (s.setReceives t receives).Owned := by
  intro u inside
  by_cases same : u = t
  · exact same ▸ owner
  · rw [setReceives_of_ne s receives same] at inside
    exact owned u inside

/-- So may the bus, as long as it has the same owner. -/
theorem Owned.of_eq {s' : Traffic α} (owned : s.Owned) (owner : s'.bus.owner = s.bus.owner)
    (receives : s'.receives = s.receives) : s'.Owned := by
  intro t inside
  rw [receives] at inside
  exact owner.trans (owned t inside)

theorem Owned.step (owned : s.Owned) (made : Stepped s m r) : r.next.Owned := by
  have owner := made.owner
  have inside {t : ThreadId} {top : Receiving} {outer : List Receiving}
      (receives : s.receives t = top :: outer) : s.bus.owner = some t :=
    owned t (by simp [receives])
  cases made with
  | connected => exact owned
  | sent known => exact owned.of_eq (owner.trans Option.or_none) rfl
  | met top => exact owned.setReceives (inside top) _
  | refused => exact owned
  | @admitted t how bus isOpen claimed =>
    obtain ⟨consumer, rfl⟩ := Bus.claim_eq_some.1 claimed
    intro u receives
    by_cases same : u = t
    · exact congrArg some same.symm
    · rw [setReceives_of_ne _ _ same] at receives
      have other := owned u receives
      obtain free | own := consumer
      · cases free.symm.trans other
      · cases own.symm.trans other
        exact absurd rfl same
  | received top => exact (owned.of_eq rfl rfl : (s.setQueue _).Owned).setReceives (inside top) _
  | handed top => exact (owned.of_eq rfl rfl : (s.setQueue _).Owned).setReceives (inside top) _
  | drained top => exact owned.setReceives (inside top) _
  | unwound top => exact owned.setReceives (inside top) _
  | closed => exact owned.of_eq rfl rfl

theorem Course.owned (course : Course (fresh capacity) steps s) : s.Owned :=
  Path.invariant course (owned_fresh capacity) fun owned taken => owned.step (stepped taken)

/-! ### Where events go -/

/-- An event goes to a thread that is in a receive. -/
theorem Stepped.inside {t : ThreadId} {event : α} (made : Stepped s m r)
    (delivered : r.news.delivery = some (t, event)) : s.receives t ≠ [] := by
  cases made with
  | sent => cases delivered
  | met top =>
    obtain ⟨rfl, rfl⟩ : _ = t ∧ _ = event := by simpa [BusNews.delivery] using delivered
    simp [top]
  | received top =>
    cases waits : s.bus.queue with
    | nil => simp [BusNews.delivery, waits] at delivered
    | cons e es =>
      obtain ⟨rfl, rfl⟩ : _ = t ∧ _ = event := by simpa [BusNews.delivery, waits] using delivered
      simp [top]
  | handed top =>
    obtain ⟨rfl, rfl⟩ : _ = t ∧ _ = event := by simpa [BusNews.delivery] using delivered
    simp [top]
  | _ => cases delivered

theorem Course.deliveries_to_consumer (course : Course (fresh capacity) steps s) :
    ∀ d ∈ deliveries steps, consumer steps = some d.1 := by
  induction course with
  | nil => nofun
  | @snoc steps s m r path taken ih =>
    intro d mem
    rw [deliveries_snoc] at mem
    obtain early | now := List.mem_append.1 mem
    · rw [consumer_snoc, ih d early, Option.some_or]
    · obtain ⟨t, event⟩ := d
      have owner := Course.owned path t ((stepped taken).inside (Option.mem_toList.1 now))
      rw [consumer_snoc, ← Course.owner path, owner, Option.some_or]

/-! ### Receives by other threads -/

/-- The threads that began to receive, whether or not they may. -/
def receivers (steps : List (Step α)) : List ThreadId :=
  steps.filterMap fun x =>
    match x.move with
    | .receive t _ => some t
    | _ => none

theorem mem_receivers {t : ThreadId} :
    t ∈ receivers steps ↔ ∃ x ∈ steps, ∃ how, x.move = .receive t how := by
  rw [receivers, List.mem_filterMap]
  refine exists_congr fun x => and_congr_right fun _ => ?_
  cases x.move <;> simp

theorem Stepped.admittee {t : ThreadId} (made : Stepped s m r)
    (passed : r.news.admittee = some t) : ∃ how, m = .receive t how := by
  cases made with
  | @admitted u how =>
    obtain rfl : u = t := Option.some.inj passed
    exact ⟨how, rfl⟩
  | _ => cases passed

/-- The consumer is one of them. -/
theorem Course.consumer_mem_receivers {t : ThreadId} (course : Course (fresh capacity) steps s)
    (first : consumer steps = some t) : t ∈ receivers steps := by
  obtain ⟨x, mem, passed⟩ := List.mem_filterMap.1 (List.mem_of_head? first)
  exact mem_receivers.2 ⟨x, mem, (stepped (course.taken_of_mem mem)).admittee passed⟩

/-- Whatever any threads do about a bus, if those that begin to receive have different numbers: the
owner is the thread whose receive passed the check first, and it gets all events.  Every receive is
decided by comparing and exchanging the word about the owner; it is refused exactly if its thread
is not the consumer, and then it changes nothing, and all steps after it could be taken without
it. -/
theorem single_consumer {hash : ThreadId → UInt64} (course : Course (fresh capacity) steps s)
    (distinct : ∀ t ∈ receivers steps, ∀ u ∈ receivers steps,
      consumerId hash t = consumerId hash u → t = u) :
    s.bus.owner = consumer steps ∧
      (∀ d ∈ deliveries steps, consumer steps = some d.1) ∧
      ∀ before x after t how, steps = before ++ x :: after → x.move = .receive t how →
        let checked := checkOwner (x.before.bus.word hash) (consumerId hash t)
        (x.result.news = .violation t ↔ checked = none) ∧
        (∀ word, checked = some word →
          x.result.news = .admitted t ∧ x.result.next.bus.word hash = word) ∧
        (x.result.news = .violation t ↔ ∃ c, consumer before = some c ∧ c ≠ t) ∧
        (x.result.news = .violation t →
          x.result.next = x.before ∧ Course (fresh capacity) (before ++ after) s) := by
  refine ⟨course.owner, course.deliveries_to_consumer, ?_⟩
  rintro before x after t how rfl receives checked
  obtain ⟨path, taken, rest⟩ := course.split
  have owner := Course.owner path
  have here : t ∈ receivers (before ++ x :: after) :=
    mem_receivers.2 ⟨x, by simp, how, receives⟩
  have word : checked = (x.before.bus.claim t).map (·.word hash) := by
    refine Bus.claim_word fun c owned equal => distinct c ?_ t here equal
    obtain ⟨y, mem, how', receives'⟩ :=
      mem_receivers.1 (Course.consumer_mem_receivers path (owner.symm.trans owned))
    exact mem_receivers.2 ⟨y, by simp [mem], how', receives'⟩
  rw [receives] at taken
  rw [word, ← owner, ← Bus.claim_eq_none]
  obtain ⟨other, refused⟩ | ⟨bus, claimed, granted⟩ := (stepped taken).checked
  · have news : x.result.news = .violation t := congrArg BusMoved.news refused
    have same : x.result.next = x.before := congrArg BusMoved.next refused
    rw [same] at rest
    exact ⟨by simp [news, other], by simp [other], by simp [news, other],
      fun _ => ⟨same, path.append rest⟩⟩
  · have news : x.result.news = .admitted t := congrArg BusMoved.news granted
    have owned : x.result.next.bus = bus := congrArg (·.next.bus) granted
    refine ⟨by simp [news, claimed], fun word passed => ?_, by simp [news, claimed],
      by simp [news]⟩
    rw [claimed, ← owned] at passed
    exact ⟨news, Option.some.inj passed⟩

/-- A thread begins to receive while another drains the bus. -/
def intrusion : List (BusMove String) :=
  [.connect, .send 0 "first", .receive 1 .drain, .proceed 1, .receive 2 (.single false),
    .send 0 "second", .proceed 1, .proceed 1]

/-- The steps of this intrusion. -/
def intrusionSteps : List (Step String) := Path.record step BusMoved.next (fresh none) intrusion

theorem news_intrusion :
    intrusionSteps.map (·.result.news) =
      [.connected, .sent "first" .accepted, .admitted 1, .handed 1 "first", .violation 2,
        .sent "second" .accepted, .handed 1 "second", .drained 1 2] := rfl

/-- The intruder is turned away, and the drain goes on as if it had not been there. -/
theorem intruder_turned_away :
    intrusionSteps.map (·.result.news) =
        [.connected, .sent "first" .accepted, .admitted 1, .handed 1 "first", .violation 2,
          .sent "second" .accepted, .handed 1 "second", .drained 1 2] ∧
      ∃ s, Course (fresh none) intrusionSteps s ∧ s.bus.owner = some 1 ∧
        Course (fresh none) (intrusionSteps.take 4 ++ intrusionSteps.drop 5) s := by
  have distinct : ∀ t ∈ receivers intrusionSteps, ∀ u ∈ receivers intrusionSteps,
      consumerId Nat.toUInt64 t = consumerId Nat.toUInt64 u → t = u := by
    rw [show receivers intrusionSteps = [1, 2] from rfl]
    decide
  obtain ⟨s, course⟩ : ∃ s, Course (fresh none) intrusionSteps s :=
    Path.recorded (fresh none) intrusion
  obtain ⟨owner, -, receives⟩ := single_consumer course distinct
  have split : intrusionSteps =
      intrusionSteps.take 4 ++ intrusionSteps[4] :: intrusionSteps.drop 5 := rfl
  obtain ⟨-, -, -, traceless⟩ := receives _ _ _ 2 (.single false) split rfl
  exact ⟨news_intrusion, s, course, owner, (traceless rfl).2⟩

end Traffic

end HostView
