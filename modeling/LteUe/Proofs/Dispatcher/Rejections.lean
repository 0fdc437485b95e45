import LteUe.Proofs.Dispatcher.Queues
import LteUe.Proofs.Runs
import Mathlib.Logic.Function.Basic

/-!
# Rejections leave no trace

Any number of dispatchers are used together, and each may be offered an id that any of them has issued
(`Fleet.Step`). If the pushes that were rejected and the looks at queues of others are deleted from a run, what is
left is again a run, everybody else is told the same in it, and all dispatchers end as before
(`Fleet.rejections_traceless`). Which error a push gets is a matter of the state that it meets, in a fixed order: a
closed dispatcher, an id of another one, a full queue.
-/

namespace LteUe

open Function

variable {α : Type}

namespace Dispatcher

/-- What can be asked of a dispatcher. -/
inductive Op (α : Type) where
  | register (name : String) (capacity : Nat)
  | tryPush (q : QueueId) (a : α)
  /-- A push that may wait, or that has waited and looks again. -/
  | push (q : QueueId) (a : α)
  | tryPop
  /-- A pop that may wait, or that has waited and looks again. -/
  | pop
  | depth (q : QueueId)
  | capacity (q : QueueId)
  | size
  | isEmpty
  | queueCount
  | isClosed
  | snapshot
  | text
  | close

/-- What it answers. -/
inductive Answer (α : Type) where
  | issued (q : QueueId)
  | pushed
  | refused (e : PushError α)
  /-- There is no answer yet, and the caller waits. -/
  | parked
  | popped (a : Option α)
  | number (n : Nat)
  | flag (b : Bool)
  | depths (l : List QueueDepth)
  | text (s : String)
deriving DecidableEq

/-- Looks have these answers. -/
def Answer.IsLook : Answer α → Prop
  | number _ | flag _ | depths _ | text _ => True
  | _ => False

/-- What a push is told, if it is told `full` at a full queue. -/
def Offer.answer (full : Answer α) : Offer α → Answer α
  | accepted _ => .pushed
  | rejected e => .refused e
  | parked => full

namespace Op

/-- The queue that is named. -/
def queue? : Op α → Option QueueId
  | tryPush q _ | push q _ | depth q | capacity q => some q
  | _ => none

/-- It is a push of `a`. -/
def Pushes (op : Op α) (q : QueueId) (a : α) : Prop := op = .tryPush q a ∨ op = .push q a

def Pops (op : Op α) : Prop := op = .tryPop ∨ op = .pop

/-- One attempt: the answer, and what it makes of the dispatcher. -/
def perform : Op α → Dispatcher α → Answer α × Dispatcher α
  | register name n, d => (.issued (d.register name n).1, (d.register name n).2)
  | tryPush q a, d =>
    match d.tryPush q a with
    | .ok d' => (.pushed, d')
    | .error e => (.refused e, d)
  | push q a, d =>
    match d.offer q a with
    | .accepted d' => (.pushed, d')
    | .rejected e => (.refused e, d)
    | .parked => (.parked, d)
  | tryPop, d =>
    match d.tryPop with
    | some (a, d') => (.popped (some a), d')
    | none => (.popped none, d)
  | pop, d =>
    match d.next with
    | .task a d' => (.popped (some a), d')
    | .closed => (.popped none, d)
    | .parked => (.parked, d)
  | depth q, d => (.number (d.depth q), d)
  | capacity q, d => (.number (d.capacity q), d)
  | size, d => (.number d.size, d)
  | isEmpty, d => (.flag d.isEmpty, d)
  | queueCount, d => (.number d.queues.length, d)
  | isClosed, d => (.flag d.closed, d)
  | snapshot, d => (.depths d.snapshot, d)
  | text, d => (.text d.text, d)
  | close, d => (.number d.close.1.length, d.close.2)

end Op

end Dispatcher

open Dispatcher

/-- Where a call is. Calls are told apart by numbers. -/
inductive Fleet.Progress (ι α : Type) where
  | fresh
  /-- It waits at the dispatcher `k`, and is to be tried again. -/
  | waiting (k : ι) (op : Op α)
  | done

/-- Several dispatchers, the ids that each has issued, and the calls made of them. -/
structure Fleet (ι α : Type) where
  dispatchers : ι → Dispatcher α
  issued : List (ι × QueueId) := []
  calls : Nat → Fleet.Progress ι α := fun _ => .fresh

namespace Fleet

variable {ι : Type}

/-- New dispatchers. -/
def start (ids : ι → Nat) : Fleet ι α where
  dispatchers k := .empty (ids k)

/-- A call makes an attempt and is told something. -/
structure Event (ι α : Type) where
  call : Nat
  dispatcher : ι
  op : Op α
  answer : Answer α

/-- The event without what was told. -/
def Event.asked (e : Event ι α) : Nat × ι × Op α := (e.call, e.dispatcher, e.op)

/-- The id that is issued, with the dispatcher that issues it. -/
def Event.issued? (e : Event ι α) : Option (ι × QueueId) :=
  match e.answer with
  | .issued q => some (e.dispatcher, q)
  | _ => none

/-- Where a call is after an attempt. -/
def Event.progress (e : Event ι α) : Progress ι α :=
  match e.answer with
  | .parked => .waiting e.dispatcher e.op
  | _ => .done

section Steps

variable [DecidableEq ι]

/-- What an attempt makes of the fleet. -/
def after (x : Fleet ι α) (e : Event ι α) : Fleet ι α where
  dispatchers := update x.dispatchers e.dispatcher (e.op.perform (x.dispatchers e.dispatcher)).2
  issued := x.issued ++ e.issued?.toList
  calls := update x.calls e.call e.progress

/-- A call makes an attempt. -/
structure Step (x : Fleet ι α) (e : Event ι α) (y : Fleet ι α) : Prop where
  /-- The call is new or waits. -/
  ready : x.calls e.call = .fresh ∨ x.calls e.call = .waiting e.dispatcher e.op
  /-- Only ids that have been issued are named, but by whichever dispatcher. -/
  named : ∀ q, e.op.queue? = some q → ∃ j, (j, q) ∈ x.issued
  told : e.answer = (e.op.perform (x.dispatchers e.dispatcher)).1
  becomes : y = x.after e

end Steps

/-! ## What leaves no trace -/

/-- An id was issued by the dispatcher `k`. -/
def IssuedBy (t : List (Event ι α)) (k : ι) (q : QueueId) : Prop := (k, q) ∈ t.filterMap Event.issued?

/-- An id was issued by another dispatcher than `k`. -/
def Foreign (t : List (Event ι α)) (k : ι) (q : QueueId) : Prop := ∃ j, j ≠ k ∧ IssuedBy t j q

/-- A push was rejected, or a look was taken at the queue of another dispatcher. -/
def Event.IsVain (t : List (Event ι α)) (e : Event ι α) : Prop :=
  (∃ err, e.answer = .refused err) ∨
    ∃ q, (e.op = .depth q ∨ e.op = .capacity q) ∧ Foreign t e.dispatcher q

/-- A call was in vain. -/
def Vain (t : List (Event ι α)) (c : Nat) : Prop := ∃ e ∈ t, e.call = c ∧ e.IsVain t

open Classical in
/-- What is left of a run without the calls that were in vain. Whenever they had to wait goes with them. -/
noncomputable def residue (t : List (Event ι α)) : List (Event ι α) := t.filter fun e => ¬ Vain t e.call

open Classical in
/-- What a push of `a` is told at a dispatcher `d` in the place `k`, if it is told `full` at a full queue. -/
noncomputable def verdict (t : List (Event ι α)) (k : ι) (d : Dispatcher α) (q : QueueId) (a : α)
    (full : Answer α) : Answer α :=
  if d.closed then .refused (.closed a)
  else if Foreign t k q then .refused (.unknownQueue a)
  else if d.depth q = d.capacity q then full
  else .pushed

/-- What is told in an event of the run `t` that meets the dispatcher `d`. -/
structure Event.Told (t : List (Event ι α)) (d : Dispatcher α) (e : Event ι α) : Prop where
  tryPush : ∀ q a, e.op = .tryPush q a → e.answer = verdict t e.dispatcher d q a (.refused (.full a))
  /-- A push that may wait does so at a full queue. -/
  push : ∀ q a, e.op = .push q a → e.answer = verdict t e.dispatcher d q a .parked
  /-- Only a push can be rejected, and its task goes back. -/
  refused : ∀ err, e.answer = .refused err → ∃ q, e.op.Pushes q err.task
  /-- The queue of another dispatcher has no depth and no capacity. -/
  foreign : ∀ q, e.op = .depth q ∨ e.op = .capacity q → Foreign t e.dispatcher q → e.answer = .number 0

end Fleet

/-! ## Single attempts -/

namespace Dispatcher.Op

variable {op : Op α} {d d' : Dispatcher α} {q : QueueId} {a : α}

/-- All that an attempt can come to: what is asked, what is told, and what is made of the dispatcher. -/
inductive Did (d : Dispatcher α) : Op α → Answer α → Dispatcher α → Prop
  | registered (name : String) (capacity : Nat) :
      Did d (.register name capacity) (.issued (d.register name capacity).1) (d.register name capacity).2
  | pushed {op : Op α} {q : QueueId} {a : α} {d' : Dispatcher α} : op.Pushes q a → d.offer q a = .accepted d' →
      Did d op .pushed d'
  | refused {op : Op α} {q : QueueId} {e : PushError α} : op.Pushes q e.task → Did d op (.refused e) d
  | parked {op : Op α} : Did d op .parked d
  | popped {op : Op α} {a : α} {d' : Dispatcher α} : op.Pops → d.tryPop = some (a, d') →
      Did d op (.popped (some a)) d'
  | missed {op : Op α} : Did d op (.popped none) d
  | looked {op : Op α} {r : Answer α} : r.IsLook → Did d op r d
  | closed : Did d .close (.number d.close.1.length) d.close.2

theorem task_of_rejected {e : PushError α} (h : d.offer q a = .rejected e) : a = e.task := by
  obtain ⟨-, rfl⟩ | ⟨-, -, rfl⟩ := offer_eq_rejected_iff.1 h <;> rfl

theorem did_perform (op : Op α) (d : Dispatcher α) : Did d op (op.perform d).1 (op.perform d).2 := by
  cases op with
  | depth | capacity | size | isEmpty | queueCount | isClosed | snapshot | text => exact .looked trivial
  | register name n => exact .registered name n
  | close => exact .closed
  | tryPush q a =>
    simp only [perform]
    split
    · rename_i h
      exact .pushed (.inl rfl) (tryPush_eq_ok_iff.1 h)
    · rename_i h
      obtain h | ⟨-, rfl⟩ := tryPush_eq_error_iff.1 h
      · exact .refused (.inl (by rw [← task_of_rejected h]))
      · exact .refused (.inl rfl)
  | push q a =>
    simp only [perform]
    split
    · rename_i h
      exact .pushed (.inr rfl) h
    · rename_i h
      exact .refused (.inr (by rw [← task_of_rejected h]))
    · exact .parked
  | tryPop =>
    simp only [perform]
    split
    · rename_i h
      exact .popped (.inl rfl) h
    · exact .missed
  | pop =>
    simp only [perform]
    split
    · rename_i h
      exact .popped (.inr rfl) (next_eq_task_iff.1 h)
    · exact .missed
    · exact .parked

variable {r : Answer α}

theorem serve_of_tryPop (h : d.tryPop = some (a, d')) : ∃ i, d' = d.serve i := by
  obtain ⟨i, -, -, rfl⟩ := popInTurn_eq_some_iff.1 (tryPop_eq_some_iff.1 h).2
  exact ⟨i, rfl⟩

theorem Did.id (h : Did d op r d') : d'.id = d.id := by
  cases h with
  | pushed _ h => exact (frame_of_accepted h).2.2.2
  | popped _ h =>
    obtain ⟨i, rfl⟩ := serve_of_tryPop h
    rfl
  | _ => rfl

theorem Did.length_le (h : Did d op r d') : d.queues.length ≤ d'.queues.length := by
  cases h with
  | registered => simp [Dispatcher.register]
  | pushed _ h => exact Nat.le_of_eq (frame_of_accepted h).1.symm
  | popped _ h =>
    obtain ⟨i, rfl⟩ := serve_of_tryPop h
    exact Nat.le_of_eq (length_modifyQueue ..).symm
  | closed => simp [Dispatcher.close]
  | _ => exact Nat.le_refl _

theorem Did.bounded (h : Did d op r d') (hb : d.Bounded) : d'.Bounded := by
  cases h with
  | registered name n => exact hb.register name n
  | pushed _ h => exact hb.of_accepted h
  | popped _ h =>
    obtain ⟨i, rfl⟩ := serve_of_tryPop h
    exact hb.serve i
  | closed => exact bounded_close d
  | _ => exact hb

/-- An id that is issued carries the tag of its dispatcher and names a queue there. -/
theorem Did.issued (h : Did d op (.issued q) d') : q.dispatcher = d.id ∧ q.index < d'.queues.length := by
  cases h with
  | registered => simp [Dispatcher.register]
  | looked h => exact h.elim

theorem Did.pushes {e : PushError α} (h : Did d op (.refused e) d') : ∃ q, op.Pushes q e.task := by
  cases h with
  | refused h => exact ⟨_, h⟩
  | looked h => exact h.elim

/-- Nothing comes of an attempt that ends with an error or has to wait, nor of a look. -/
theorem Did.idle (h : Did d op r d')
    (hi : (∃ e, r = .refused e) ∨ r = .parked ∨ ∃ q, op = .depth q ∨ op = .capacity q) :
    d' = d ∧ ∀ q, r ≠ .issued q := by
  cases h with
  | registered | closed => simp at hi
  | pushed h => rcases h with rfl | rfl <;> simp at hi
  | popped h => rcases h with rfl | rfl <;> simp at hi
  | refused | parked | missed => exact ⟨rfl, nofun⟩
  | looked h =>
    refine ⟨rfl, ?_⟩
    rintro q rfl
    exact h

theorem perform_tryPush_fst (q : QueueId) (a : α) (d : Dispatcher α) :
    ((tryPush q a).perform d).1 = (d.offer q a).answer (.refused (.full a)) := by
  simp only [perform, Dispatcher.tryPush]
  cases d.offer q a <;> rfl

theorem perform_push_fst (q : QueueId) (a : α) (d : Dispatcher α) :
    ((push q a).perform d).1 = (d.offer q a).answer .parked := by
  simp only [perform]
  cases d.offer q a <;> rfl

end Dispatcher.Op

namespace Fleet

variable {ι : Type} {x x' y y' s : Fleet ι α} {e e' : Event ι α} {t l m : List (Event ι α)} {ids : ι → Nat}
  {q : QueueId} {j k : ι} {a : α}

/-! ## Tags -/

/-- Dispatchers keep their tags, their ids carry them, and no queue holds more than it can. -/
structure Sound (ids : ι → Nat) (x : Fleet ι α) : Prop where
  id : ∀ k, (x.dispatchers k).id = ids k
  bounded : ∀ k, (x.dispatchers k).Bounded
  issued : ∀ k q, (k, q) ∈ x.issued → q.dispatcher = ids k ∧ q.index < (x.dispatchers k).queues.length

theorem sound_start (ids : ι → Nat) : (start ids : Fleet ι α).Sound ids where
  id _ := rfl
  bounded _ := bounded_empty _
  issued := by simp [start]

theorem Sound.foreign_iff (h : s.Sound ids) (hi : Injective ids) (ht : s.issued = t.filterMap Event.issued?)
    (hq : (j, q) ∈ s.issued) : Foreign t k q ↔ q.dispatcher ≠ ids k := by
  unfold Foreign IssuedBy
  rw [← ht]
  constructor
  · rintro ⟨i, hik, hi'⟩ he
    exact hik (hi ((h.issued i q hi').1.symm.trans he))
  · intro hk
    refine ⟨j, ?_, hq⟩
    rintro rfl
    exact hk (h.issued j q hq).1

theorem Sound.exists_queue (h : x.Sound ids) (hi : Injective ids) (hq : (j, q) ∈ x.issued)
    (hk : q.dispatcher = ids k) : ∃ queue, (x.dispatchers k).queue? q = some queue := by
  obtain ⟨ht, hlt⟩ := h.issued j q hq
  obtain rfl : j = k := hi (ht.symm.trans hk)
  exact ⟨_, queue?_eq_some_iff.2 ⟨hk.trans (h.id j).symm, List.getElem?_eq_getElem hlt⟩⟩

theorem Sound.queue?_eq_none (h : x.Sound ids) (hk : q.dispatcher ≠ ids k) :
    (x.dispatchers k).queue? q = none := by
  unfold queue?
  rw [h.id, if_neg hk]

theorem Sound.answer_offer (h : x.Sound ids) (hi : Injective ids) (hq : (j, q) ∈ x.issued)
    (hf : Foreign t k q ↔ q.dispatcher ≠ ids k) (full : Answer α) :
    ((x.dispatchers k).offer q a).answer full = verdict t k (x.dispatchers k) q a full := by
  unfold offer verdict
  by_cases hc : (x.dispatchers k).closed
  · simp [hc, Offer.answer]
  by_cases hk : q.dispatcher = ids k
  · obtain ⟨queue, hqueue⟩ := h.exists_queue hi hq hk
    have hfull := (h.bounded k).isFull_iff hqueue
    by_cases hd : (x.dispatchers k).depth q = (x.dispatchers k).capacity q
    · simp [hc, hf, hk, hd, hqueue, hfull.2 hd, Offer.answer]
    · simp [hc, hf, hk, hd, hqueue, mt hfull.1 hd, Offer.answer]
  · simp [hc, hf, hk, h.queue?_eq_none hk, Offer.answer]

theorem Sound.told (h : x.Sound ids) (hi : Injective ids)
    (he : e.answer = (e.op.perform (x.dispatchers e.dispatcher)).1)
    (hq : ∀ q, e.op.queue? = some q → ∃ j, (j, q) ∈ x.issued)
    (hf : ∀ j q, (j, q) ∈ x.issued → (Foreign t e.dispatcher q ↔ q.dispatcher ≠ ids e.dispatcher)) :
    e.Told t (x.dispatchers e.dispatcher) where
  tryPush q a ho := by
    obtain ⟨j, hj⟩ := hq q (by rw [ho, Op.queue?])
    rw [he, ho, Op.perform_tryPush_fst]
    exact h.answer_offer hi hj (hf j q hj) _
  push q a ho := by
    obtain ⟨j, hj⟩ := hq q (by rw [ho, Op.queue?])
    rw [he, ho, Op.perform_push_fst]
    exact h.answer_offer hi hj (hf j q hj) _
  refused err hr := by
    have hd := e.op.did_perform (x.dispatchers e.dispatcher)
    rw [← he, hr] at hd
    exact hd.pushes
  foreign q ho hq' := by
    obtain ⟨j, hj⟩ := hq q (by rcases ho with ho | ho <;> rw [ho, Op.queue?])
    have hn := h.queue?_eq_none ((hf j q hj).1 hq')
    rw [he]
    rcases ho with ho | ho <;> simp [ho, Op.perform, depth, capacity, hn]

variable [DecidableEq ι]

/-! ## Steps -/

theorem Step.dispatchers_eq (hs : Step x e y) :
    y.dispatchers = update x.dispatchers e.dispatcher (e.op.perform (x.dispatchers e.dispatcher)).2 :=
  congrArg Fleet.dispatchers hs.becomes

theorem Step.issued_eq (hs : Step x e y) : y.issued = x.issued ++ e.issued?.toList :=
  congrArg Fleet.issued hs.becomes

theorem Step.calls_eq (hs : Step x e y) : y.calls = update x.calls e.call e.progress :=
  congrArg Fleet.calls hs.becomes

theorem Step.did (hs : Step x e y) :
    Op.Did (x.dispatchers e.dispatcher) e.op e.answer (y.dispatchers e.dispatcher) := by
  rw [hs.dispatchers_eq, update_self, hs.told]
  exact e.op.did_perform _

/-- The other dispatchers stay as they are, as after an attempt that has to wait. -/
theorem Step.exists_did (hs : Step x e y) (k : ι) : ∃ r, Op.Did (x.dispatchers k) e.op r (y.dispatchers k) := by
  by_cases hk : k = e.dispatcher
  · subst hk
    exact ⟨_, hs.did⟩
  · rw [hs.dispatchers_eq, update_of_ne hk]
    exact ⟨_, .parked⟩

theorem Sound.step (h : x.Sound ids) (hs : Step x e y) : y.Sound ids where
  id k := by
    obtain ⟨r, hd⟩ := hs.exists_did k
    rw [hd.id, h.id]
  bounded k := by
    obtain ⟨r, hd⟩ := hs.exists_did k
    exact hd.bounded (h.bounded k)
  issued k q hq := by
    rw [hs.issued_eq, List.mem_append] at hq
    obtain hq | hq := hq
    · obtain ⟨ht, hi⟩ := h.issued k q hq
      obtain ⟨r, hd⟩ := hs.exists_did k
      exact ⟨ht, Nat.lt_of_lt_of_le hi hd.length_le⟩
    · unfold Event.issued? at hq
      split at hq
      · rename_i q' he
        obtain ⟨rfl, rfl⟩ : k = e.dispatcher ∧ q = q' := by simpa using hq
        obtain ⟨ht, hi⟩ := Op.Did.issued (he ▸ hs.did)
        exact ⟨ht.trans (h.id _), hi⟩
      · simp at hq

theorem run_sound (hr : Run Step (start ids) t x) : x.Sound ids :=
  hr.invariant (sound_start ids) fun _ _ _ h hs => h.step hs

theorem run_issued (hr : Run Step (start ids) t x) : x.issued = t.filterMap Event.issued? := by
  induction hr with
  | nil => rfl
  | snoc _ hs ih => rw [hs.issued_eq, filterMap_snoc, ih]

/-! ## Runs that ask the same -/

theorem Step.unique (hs : Step x e y) (hs' : Step x e' y') (h : e.asked = e'.asked) : e = e' ∧ y = y' := by
  obtain ⟨c, k, op, r⟩ := e
  obtain ⟨c', k', op', r'⟩ := e'
  obtain ⟨rfl, rfl, rfl⟩ : c = c' ∧ k = k' ∧ op = op' := by simpa [Event.asked] using h
  obtain rfl : r = r' := hs.told.trans hs'.told.symm
  exact ⟨rfl, hs.becomes.trans hs'.becomes.symm⟩

theorem run_unique (hr : Run Step x t y) {u : List (Event ι α)} (hr' : Run Step x u y')
    (h : u.map Event.asked = t.map Event.asked) : u = t ∧ y' = y := by
  induction t generalizing x u with
  | nil =>
    obtain rfl : u = [] := by simpa using h
    exact ⟨rfl, (run_nil_iff.1 hr').trans (run_nil_iff.1 hr).symm⟩
  | cons e t ih =>
    obtain ⟨e', u, rfl, he, hu⟩ := List.map_eq_cons_iff.1 h
    obtain ⟨z, hs, hr⟩ := run_cons_iff.1 hr
    obtain ⟨z', hs', hr'⟩ := run_cons_iff.1 hr'
    obtain ⟨rfl, rfl⟩ := hs'.unique hs he
    obtain ⟨rfl, rfl⟩ := ih hr hr' hu
    exact ⟨rfl, rfl⟩

/-! ## Calls -/

omit [DecidableEq ι] in
theorem Event.progress_eq (e : Event ι α) :
    e.progress = .done ∨ e.answer = .parked ∧ e.progress = .waiting e.dispatcher e.op := by
  unfold progress
  cases e.answer <;> simp

/-- A call that was made has ended, or waits to be made again; all its attempts but the last are parked. -/
structure Followed (t : List (Event ι α)) (x : Fleet ι α) : Prop where
  place : ∀ e ∈ t, x.calls e.call = .done ∨ e.answer = .parked ∧ x.calls e.call = .waiting e.dispatcher e.op
  same : ∀ e ∈ t, ∀ e' ∈ t, e.call = e'.call →
    e.op = e'.op ∧ (e.answer = e'.answer ∨ e.answer = .parked ∨ e'.answer = .parked)

theorem Followed.parked (h : Followed t x) (hs : Step x e y) (he : e' ∈ t) (hc : e'.call = e.call) :
    e'.answer = .parked ∧ e'.dispatcher = e.dispatcher ∧ e'.op = e.op := by
  have hr := hs.ready
  have hp := h.place e' he
  rw [hc] at hp
  obtain hp | ⟨ha, hp⟩ := hp <;> rw [hp] at hr
  · simp at hr
  · exact ⟨ha, by simpa using hr⟩

theorem Followed.snoc (h : Followed t x) (hs : Step x e y) : Followed (t ++ [e]) y where
  place e' he' := by
    rw [hs.calls_eq]
    obtain he' | he' := List.mem_append.1 he'
    · by_cases hc : e'.call = e.call
      · obtain ⟨ha, hk, ho⟩ := h.parked hs he' hc
        rw [hc, update_self, ha, hk, ho]
        exact e.progress_eq.imp_right fun hw => ⟨rfl, hw.2⟩
      · rw [update_of_ne hc]
        exact h.place e' he'
    · obtain rfl := List.mem_singleton.1 he'
      rw [update_self]
      exact e'.progress_eq
  same e₁ m₁ e₂ m₂ hc := by
    obtain h₁ | h₁ := List.mem_append.1 m₁ <;> obtain h₂ | h₂ := List.mem_append.1 m₂
    · exact h.same e₁ h₁ e₂ h₂ hc
    · obtain rfl := List.mem_singleton.1 h₂
      obtain ⟨ha, -, ho⟩ := h.parked hs h₁ hc
      exact ⟨ho, .inr (.inl ha)⟩
    · obtain rfl := List.mem_singleton.1 h₁
      obtain ⟨ha, -, ho⟩ := h.parked hs h₂ hc.symm
      exact ⟨ho.symm, .inr (.inr ha)⟩
    · obtain rfl := List.mem_singleton.1 h₁
      obtain rfl := List.mem_singleton.1 h₂
      exact ⟨rfl, .inl rfl⟩

theorem run_followed (hr : Run Step (start ids) t x) : Followed t x := by
  induction hr with
  | nil => exact ⟨by simp, by simp⟩
  | snoc _ hs ih => exact ih.snoc hs

/-! ## Leaving calls out -/

/-- An attempt of which nothing comes. -/
def Event.IsIdle (e : Event ι α) : Prop :=
  (∃ err, e.answer = .refused err) ∨ e.answer = .parked ∨ ∃ q, e.op = .depth q ∨ e.op = .capacity q

omit [DecidableEq ι] in
theorem Followed.isIdle (h : Followed t x) (he : e ∈ t) (hv : Vain t e.call) : e.IsIdle := by
  obtain ⟨e', he', hc, hv⟩ := hv
  obtain ⟨ho, ha⟩ := h.same e he e' he' hc.symm
  obtain ⟨err, hr⟩ | ⟨q, hq, -⟩ := hv
  · rw [hr] at ha
    obtain ha | ha | ha := ha
    · exact .inl ⟨err, ha⟩
    · exact .inr (.inl ha)
    · cases ha
  · exact .inr (.inr ⟨q, ho ▸ hq⟩)

/-- Two fleets that differ in nothing but calls among `D`. -/
structure Agree (D : Nat → Prop) (x x' : Fleet ι α) : Prop where
  dispatchers : x'.dispatchers = x.dispatchers
  issued : x'.issued = x.issued
  calls : ∀ c, ¬ D c → x'.calls c = x.calls c

variable {D : Nat → Prop}

theorem Agree.skip (h : Agree D x x') (hs : Step x e y) (hd : D e.call) (hi : e.IsIdle) : Agree D y x' := by
  obtain ⟨hp, hq⟩ := hs.did.idle hi
  have hn : e.issued? = none := by
    unfold Event.issued?
    split
    · rename_i q ha
      exact absurd ha (hq q)
    · rfl
  have hd' : y.dispatchers = x.dispatchers := by
    rw [hs.dispatchers_eq, update_self] at hp
    rw [hs.dispatchers_eq, hp, update_eq_self]
  constructor
  · rw [h.dispatchers, hd']
  · simp [h.issued, hs.issued_eq, hn]
  · intro c hc
    have hne : c ≠ e.call := fun he => hc (he ▸ hd)
    rw [h.calls c hc, hs.calls_eq, update_of_ne hne]

theorem Agree.step (h : Agree D x x') (hs : Step x e y) (hd : ¬ D e.call) :
    ∃ y', Step x' e y' ∧ Agree D y y' := by
  have hs' : Step x' e (x'.after e) := by
    refine ⟨?_, ?_, ?_, rfl⟩
    · rw [h.calls _ hd]
      exact hs.ready
    · rw [h.issued]
      exact hs.named
    · rw [h.dispatchers]
      exact hs.told
  refine ⟨_, hs', ?_, ?_, fun c hc => ?_⟩
  · rw [hs.dispatchers_eq, hs'.dispatchers_eq, h.dispatchers]
  · rw [hs.issued_eq, hs'.issued_eq, h.issued]
  · rw [hs.calls_eq, hs'.calls_eq]
    by_cases he : c = e.call
    · rw [he, update_self, update_self]
    · rw [update_of_ne he, update_of_ne he, h.calls c hc]

open Classical in
theorem run_filter (hr : Run Step x t y) (h : Agree D x x') (hi : ∀ e ∈ t, D e.call → e.IsIdle) :
    ∃ y', Run Step x' (t.filter fun e => ¬ D e.call) y' ∧ Agree D y y' := by
  induction hr with
  | nil => exact ⟨x', .nil, h⟩
  | @snoc l z y e _ hs ih =>
    obtain ⟨z', hz, ha⟩ := ih fun e' he' => hi e' (List.mem_append_left _ he')
    rw [List.filter_append]
    by_cases hd : D e.call
    · refine ⟨z', ?_, ha.skip hs hd (hi e (by simp) hd)⟩
      simpa [hd] using hz
    · obtain ⟨y', hs', ha⟩ := ha.step hs hd
      refine ⟨y', ?_, ha⟩
      simpa [hd] using hz.snoc hs'

/-! ## Rejections leave no trace -/

/-- Deleting the calls in vain from the run `t`, which ends in `s`, changes nothing else, and each push is told what its
state asks for. -/
structure Traceless (ids : ι → Nat) (t : List (Event ι α)) (s : Fleet ι α) : Prop where
  /-- What is left is a run, with the old answers, and ends as before. -/
  residue : ∃ s', Run Step (start ids) (residue t) s' ∧ s'.dispatchers = s.dispatchers
  /-- There is no other way to run what is left. -/
  unique : ∀ u s', Run Step (start ids) u s' → u.map Event.asked = (Fleet.residue t).map Event.asked →
    u = Fleet.residue t ∧ s'.dispatchers = s.dispatchers
  told : ∀ l e m x, t = l ++ e :: m → Run Step (start ids) l x → e.Told t (x.dispatchers e.dispatcher)

theorem rejections_traceless (hi : Injective ids) (hr : Run Step (start ids) t s) : Traceless ids t s := by
  obtain ⟨s', hr', ha⟩ := run_filter hr ⟨rfl, rfl, fun _ _ => rfl⟩
    fun _ he hv => (run_followed hr).isIdle he hv
  constructor
  · exact ⟨s', hr', ha.dispatchers⟩
  · intro u s'' hu hm
    obtain ⟨rfl, rfl⟩ := run_unique hr' hu hm
    exact ⟨rfl, ha.dispatchers⟩
  · rintro l e m x rfl hl
    obtain ⟨z, hl', hm⟩ := run_append_iff.1 hr
    obtain ⟨y, hs, -⟩ := run_cons_iff.1 hm
    obtain ⟨-, rfl⟩ := run_unique hl hl' rfl
    refine (run_sound hl).told hi hs.told hs.named fun j q hq => ?_
    refine (run_sound hr).foreign_iff hi (run_issued hr) (j := j) ?_
    rw [run_issued hr, List.filterMap_append]
    exact List.mem_append_left _ (run_issued hl ▸ hq)

/-- Two dispatchers with one queue each, in the same place. A task comes to the wrong one, another one finds the queue
full, a third one waits there until the close, and a fourth one comes too late and to the wrong dispatcher. -/
theorem rejections_traceless_of_two :
    let ids : Bool → Nat := Bool.toNat
    let q : QueueId := ⟨0, 0⟩
    let r : QueueId := ⟨1, 0⟩
    let t : List (Event Bool Nat) := [⟨0, false, .register "a" 0, .issued q⟩, ⟨1, true, .register "b" 3, .issued r⟩,
      ⟨2, false, .tryPush r 5, .refused (.unknownQueue 5)⟩, ⟨3, false, .tryPush q 6, .pushed⟩,
      ⟨4, false, .tryPush q 7, .refused (.full 7)⟩, ⟨5, false, .push q 8, .parked⟩, ⟨6, true, .pop, .parked⟩,
      ⟨7, true, .depth q, .number 0⟩, ⟨8, true, .push r 9, .pushed⟩, ⟨6, true, .pop, .popped (some 9)⟩,
      ⟨9, false, .close, .number 1⟩, ⟨5, false, .push q 8, .refused (.closed 8)⟩,
      ⟨10, false, .tryPush r 10, .refused (.closed 10)⟩]
    Injective ids ∧ ∃ s, Run Step (start ids) t s ∧ Traceless ids t s := by
  intro ids q r t
  have hi : Injective ids := by
    unfold Injective
    decide
  have h : ∃ s, Run Step (start ids) t s :=
    exists_run_cons ⟨.inl rfl, nofun, by decide +kernel, rfl⟩ <|
      exists_run_cons ⟨.inl rfl, nofun, by decide +kernel, rfl⟩ <|
      exists_run_cons ⟨.inl rfl, by rintro _ ⟨⟩; exact ⟨true, by decide⟩, by decide +kernel, rfl⟩ <|
      exists_run_cons ⟨.inl rfl, by rintro _ ⟨⟩; exact ⟨false, by decide⟩, by decide +kernel, rfl⟩ <|
      exists_run_cons ⟨.inl rfl, by rintro _ ⟨⟩; exact ⟨false, by decide⟩, by decide +kernel, rfl⟩ <|
      exists_run_cons ⟨.inl rfl, by rintro _ ⟨⟩; exact ⟨false, by decide⟩, by decide +kernel, rfl⟩ <|
      exists_run_cons ⟨.inl rfl, nofun, by decide +kernel, rfl⟩ <|
      exists_run_cons ⟨.inl rfl, by rintro _ ⟨⟩; exact ⟨false, by decide⟩, by decide +kernel, rfl⟩ <|
      exists_run_cons ⟨.inl rfl, by rintro _ ⟨⟩; exact ⟨true, by decide⟩, by decide +kernel, rfl⟩ <|
      exists_run_cons ⟨.inr rfl, nofun, by decide +kernel, rfl⟩ <|
      exists_run_cons ⟨.inl rfl, nofun, by decide +kernel, rfl⟩ <|
      exists_run_cons ⟨.inr rfl, by rintro _ ⟨⟩; exact ⟨false, by decide⟩, by decide +kernel, rfl⟩ <|
      exists_run_cons ⟨.inl rfl, by rintro _ ⟨⟩; exact ⟨true, by decide⟩, by decide +kernel, rfl⟩ ⟨_, .nil⟩
  obtain ⟨s, h⟩ := h
  exact ⟨hi, s, h, rejections_traceless hi h⟩

end Fleet

end LteUe
