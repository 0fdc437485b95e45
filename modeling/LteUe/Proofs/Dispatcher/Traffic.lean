import LteUe.Proofs.Dispatcher.Queues
import LteUe.Proofs.Runs
import Mathlib.Logic.Function.Basic

/-!
# The traffic at a dispatcher

Any number of producers, told apart by numbers, and one consumer share a dispatcher. Every operation is
one atomic step (`Traffic.Step`). A push or a pop that has to wait leaves its mark in the state, and
looks again in a later step of the same kind. The events of a run say who offered which task, what
became of it, and from which queue a task was taken; the histories of the queues are read off them
(`acceptedOn`, `poppedFrom`).
-/

namespace LteUe

open Function

variable {α : Type}

/-- A dispatcher and the threads that use it. -/
structure Traffic (α : Type) where
  dispatcher : Dispatcher α
  /-- The push of each producer that waits for room. -/
  waiting : Nat → Option (QueueId × α) := fun _ => none
  consumerWaits : Bool := false

namespace Traffic

/-- A new dispatcher that nobody uses yet. -/
def start (id : Nat) : Traffic α where
  dispatcher := .empty id

/-- What happens in one step. -/
inductive Event (α : Type) where
  | registered (q : QueueId)
  | accepted (p : Nat) (q : QueueId) (a : α)
  | rejected (p : Nat) (q : QueueId) (a : α) (e : PushError α)
  /-- A push of producer `p` waits for room. -/
  | parked (p : Nat) (q : QueueId) (a : α)
  /-- A pop took a task from the `i`-th queue. -/
  | popped (i : Nat) (a : α)
  | missed
  /-- A pop waits for a task. -/
  | waited
  | closed (dropped : List α)
deriving DecidableEq

/-- A producer may make this push: it makes none, or it has been waiting with this very one. -/
def MayPush (x : Traffic α) (p : Nat) (q : QueueId) (a : α) : Prop :=
  x.waiting p = none ∨ x.waiting p = some (q, a)

/-- The steps of the producers and the consumer. -/
inductive Step : Traffic α → Event α → Traffic α → Prop
  | register {x : Traffic α} (name : String) (capacity : Nat) :
      Step x (.registered (x.dispatcher.register name capacity).1)
        { x with dispatcher := (x.dispatcher.register name capacity).2 }
  | tryPush {x : Traffic α} {p : Nat} {q : QueueId} {a : α} {d : Dispatcher α} :
      x.waiting p = none → x.dispatcher.tryPush q a = .ok d →
        Step x (.accepted p q a) { x with dispatcher := d }
  | tryPushError {x : Traffic α} {p : Nat} {q : QueueId} {a : α} {e : PushError α} :
      x.waiting p = none → x.dispatcher.tryPush q a = .error e → Step x (.rejected p q a e) x
  | push {x : Traffic α} {p : Nat} {q : QueueId} {a : α} {d : Dispatcher α} :
      x.MayPush p q a → x.dispatcher.offer q a = .accepted d →
        Step x (.accepted p q a) { x with dispatcher := d, waiting := update x.waiting p none }
  | pushError {x : Traffic α} {p : Nat} {q : QueueId} {a : α} {e : PushError α} :
      x.MayPush p q a → x.dispatcher.offer q a = .rejected e →
        Step x (.rejected p q a e) { x with waiting := update x.waiting p none }
  | park {x : Traffic α} {p : Nat} {q : QueueId} {a : α} :
      x.MayPush p q a → x.dispatcher.offer q a = .parked →
        Step x (.parked p q a) { x with waiting := update x.waiting p (some (q, a)) }
  | tryPop {x : Traffic α} {i : Nat} {a : α} {d : Dispatcher α} :
      x.consumerWaits = false → x.dispatcher.serving? = some i →
        x.dispatcher.tryPop = some (a, d) → Step x (.popped i a) { x with dispatcher := d }
  | tryPopNone {x : Traffic α} :
      x.consumerWaits = false → x.dispatcher.tryPop = none → Step x .missed x
  | pop {x : Traffic α} {i : Nat} {a : α} {d : Dispatcher α} :
      x.dispatcher.serving? = some i → x.dispatcher.next = .task a d →
        Step x (.popped i a) { x with dispatcher := d, consumerWaits := false }
  | popNone {x : Traffic α} :
      x.dispatcher.next = .closed → Step x .missed { x with consumerWaits := false }
  | wait {x : Traffic α} :
      x.dispatcher.next = .parked → Step x .waited { x with consumerWaits := true }
  | close {x : Traffic α} :
      Step x (.closed x.dispatcher.close.1) { x with dispatcher := x.dispatcher.close.2 }

/-! ## What a step does to the dispatcher -/

/-- The effect of an event on the dispatcher. -/
inductive Effect (d : Dispatcher α) : Event α → Dispatcher α → Prop
  | register (name : String) (capacity : Nat) :
      Effect d (.registered (d.register name capacity).1) (d.register name capacity).2
  | accept {p : Nat} {q : QueueId} {a : α} {d' : Dispatcher α} :
      d.offer q a = .accepted d' → Effect d (.accepted p q a) d'
  | reject {p : Nat} {q : QueueId} {a : α} {e : PushError α} :
      e.task = a → (d.closed = true → e = .closed a) → Effect d (.rejected p q a e) d
  | park {p : Nat} {q : QueueId} {a : α} : d.closed = false → Effect d (.parked p q a) d
  | pop {i : Nat} {a : α} : d.closed = false → d.serving? = some i →
      (d.contents i).head? = some a → Effect d (.popped i a) (d.serve i)
  | miss : Effect d .missed d
  | wait : d.closed = false → Effect d .waited d
  | close : Effect d (.closed d.tasks) d.close.2

variable {x y : Traffic α} {e : Event α}

theorem effect_of_rejected {d : Dispatcher α} {p : Nat} {q : QueueId} {a : α} {e : PushError α}
    (h : d.offer q a = .rejected e) : Effect d (.rejected p q a e) d := by
  obtain ⟨-, rfl⟩ | ⟨hc, -, rfl⟩ := Dispatcher.offer_eq_rejected_iff.1 h
  · exact .reject rfl fun _ => rfl
  · exact .reject rfl fun h => by simp [hc] at h

theorem effect_of_tryPop {d d' : Dispatcher α} {i : Nat} {a : α} (hi : d.serving? = some i)
    (h : d.tryPop = some (a, d')) : Effect d (.popped i a) d' := by
  obtain ⟨hc, h⟩ := Dispatcher.tryPop_eq_some_iff.1 h
  obtain ⟨j, hj, ha, rfl⟩ := Dispatcher.popInTurn_eq_some_iff.1 h
  obtain rfl : i = j := Option.some.inj (hi.symm.trans hj)
  exact .pop hc hi ha

theorem Step.effect (h : Step x e y) : Effect x.dispatcher e y.dispatcher := by
  cases h with
  | register name capacity => exact .register name capacity
  | tryPush _ h => exact .accept (Dispatcher.tryPush_eq_ok_iff.1 h)
  | tryPushError _ h =>
    obtain h' | ⟨h', rfl⟩ := Dispatcher.tryPush_eq_error_iff.1 h
    · exact effect_of_rejected h'
    · refine .reject rfl fun hc => ?_
      simp [(Dispatcher.offer_eq_parked_iff.1 h').1] at hc
  | push _ h => exact .accept h
  | pushError _ h => exact effect_of_rejected h
  | park _ h => exact .park (Dispatcher.offer_eq_parked_iff.1 h).1
  | tryPop _ hi h => exact effect_of_tryPop hi h
  | tryPopNone _ _ => exact .miss
  | pop hi h => exact effect_of_tryPop hi (Dispatcher.next_eq_task_iff.1 h)
  | popNone _ => exact .miss
  | wait h =>
    refine .wait (Bool.eq_false_iff.2 fun hc => ?_)
    rw [Dispatcher.next_eq_closed_iff.2 hc] at h
    cases h
  | close => exact .close

/-! ## Histories -/

namespace Event

/-- The task that an event adds to the `i`-th queue. -/
def acceptedOn? (i : Nat) : Event α → Option α
  | accepted _ q a => if q.index = i then some a else none
  | _ => none

/-- The task that an event takes from the `i`-th queue. -/
def poppedFrom? (i : Nat) : Event α → Option α
  | popped j a => if j = i then some a else none
  | _ => none

/-- The task that an event adds to a queue. -/
def accepted? : Event α → Option α
  | accepted _ _ a => some a
  | _ => none

/-- The task that an event takes from a queue. -/
def popped? : Event α → Option α
  | popped _ a => some a
  | _ => none

/-- The tasks that an event drops. -/
def dropped : Event α → List α
  | closed l => l
  | _ => []

/-- The producer whose push an event is about. -/
def producer? : Event α → Option Nat
  | accepted p _ _ | rejected p _ _ _ | parked p _ _ => some p
  | _ => none

/-- Whether an event closes the dispatcher. -/
def isClosed : Event α → Bool
  | closed _ => true
  | _ => false

/-- What may happen at a closed dispatcher: pushes get their own tasks back, pops get none, and closing
again drops nothing. -/
def Spent : Event α → Prop
  | registered _ | missed => True
  | rejected _ _ a e => e = .closed a
  | closed dropped => dropped = []
  | accepted .. | parked .. | popped .. | waited => False

end Event

/-- The tasks accepted on the `i`-th queue, in the order of the accepting steps. -/
def acceptedOn (i : Nat) (t : List (Event α)) : List α := t.filterMap (·.acceptedOn? i)

/-- The tasks popped from the `i`-th queue, in their order. -/
def poppedFrom (i : Nat) (t : List (Event α)) : List α := t.filterMap (·.poppedFrom? i)

/-- The tasks accepted on any queue. -/
def acceptedIn (t : List (Event α)) : List α := t.filterMap (·.accepted?)

/-- The tasks popped from any queue. -/
def poppedIn (t : List (Event α)) : List α := t.filterMap (·.popped?)

/-- The tasks dropped. -/
def droppedIn (t : List (Event α)) : List α := t.flatMap (·.dropped)

variable {t : List (Event α)} (i : Nat) (l m : List (Event α))

@[simp] theorem acceptedOn_nil : acceptedOn i ([] : List (Event α)) = [] := rfl

@[simp] theorem acceptedOn_cons :
    acceptedOn i (e :: l) = (e.acceptedOn? i).toList ++ acceptedOn i l := by
  cases h : e.acceptedOn? i <;> simp [acceptedOn, h]

@[simp] theorem acceptedOn_append : acceptedOn i (l ++ m) = acceptedOn i l ++ acceptedOn i m :=
  List.filterMap_append

@[simp] theorem poppedFrom_nil : poppedFrom i ([] : List (Event α)) = [] := rfl

@[simp] theorem poppedFrom_cons :
    poppedFrom i (e :: l) = (e.poppedFrom? i).toList ++ poppedFrom i l := by
  cases h : e.poppedFrom? i <;> simp [poppedFrom, h]

@[simp] theorem poppedFrom_append : poppedFrom i (l ++ m) = poppedFrom i l ++ poppedFrom i m :=
  List.filterMap_append

@[simp] theorem acceptedIn_nil : acceptedIn ([] : List (Event α)) = [] := rfl

@[simp] theorem acceptedIn_cons : acceptedIn (e :: l) = e.accepted?.toList ++ acceptedIn l := by
  cases h : e.accepted? <;> simp [acceptedIn, h]

@[simp] theorem acceptedIn_append : acceptedIn (l ++ m) = acceptedIn l ++ acceptedIn m :=
  List.filterMap_append

@[simp] theorem poppedIn_nil : poppedIn ([] : List (Event α)) = [] := rfl

@[simp] theorem poppedIn_cons : poppedIn (e :: l) = e.popped?.toList ++ poppedIn l := by
  cases h : e.popped? <;> simp [poppedIn, h]

@[simp] theorem poppedIn_append : poppedIn (l ++ m) = poppedIn l ++ poppedIn m :=
  List.filterMap_append

@[simp] theorem droppedIn_nil : droppedIn ([] : List (Event α)) = [] := rfl

@[simp] theorem droppedIn_cons : droppedIn (e :: l) = e.dropped ++ droppedIn l := rfl

@[simp] theorem droppedIn_append : droppedIn (l ++ m) = droppedIn l ++ droppedIn m :=
  List.flatMap_append

variable {d d' : Dispatcher α}

/-- What waits in a queue and what is accepted on it is popped from it, or waits in it afterwards, in
the same order. -/
theorem Effect.history (h : Effect d e d') (he : e.isClosed = false) (i : Nat) :
    d.contents i ++ (e.acceptedOn? i).toList = (e.poppedFrom? i).toList ++ d'.contents i := by
  cases h with
  | register name capacity =>
    simp [Event.acceptedOn?, Event.poppedFrom?, Dispatcher.contents_register]
  | @accept p q a d' h =>
    rw [Dispatcher.contents_of_accepted h]
    by_cases hq : q.index = i <;> simp [Event.acceptedOn?, Event.poppedFrom?, hq]
  | reject _ _ => simp [Event.acceptedOn?, Event.poppedFrom?]
  | park _ => simp [Event.acceptedOn?, Event.poppedFrom?]
  | @pop j a _ _ ha =>
    rw [Dispatcher.contents_serve]
    by_cases hj : j = i
    · obtain ⟨rest, hr⟩ := List.head?_eq_some_iff.1 (hj ▸ ha)
      simp [Event.acceptedOn?, Event.poppedFrom?, hj, hr]
    · simp [Event.acceptedOn?, Event.poppedFrom?, hj]
  | miss => simp [Event.acceptedOn?, Event.poppedFrom?]
  | wait _ => simp [Event.acceptedOn?, Event.poppedFrom?]
  | close => simp [Event.isClosed] at he

/-- No task is lost or doubled: what waits and what is accepted is popped, dropped, or waits
afterwards. -/
theorem Effect.conserves (h : Effect d e d') :
    (d.tasks ++ e.accepted?.toList).Perm (e.popped?.toList ++ e.dropped ++ d'.tasks) := by
  cases h with
  | register name capacity =>
    simp [Event.accepted?, Event.popped?, Event.dropped, Dispatcher.tasks_register]
  | @accept p q a d' h =>
    have h := Dispatcher.tasks_of_accepted h
    simpa [Event.accepted?, Event.popped?, Event.dropped] using
      (List.perm_append_singleton a d.tasks).trans h.symm
  | reject _ _ => simp [Event.accepted?, Event.popped?, Event.dropped]
  | park _ => simp [Event.accepted?, Event.popped?, Event.dropped]
  | pop _ _ ha =>
    simpa [Event.accepted?, Event.popped?, Event.dropped] using Dispatcher.tasks_serve ha
  | miss => simp [Event.accepted?, Event.popped?, Event.dropped]
  | wait _ => simp [Event.accepted?, Event.popped?, Event.dropped]
  | close =>
    have h : d.close.2.tasks = [] := Dispatcher.tasks_eq_nil_iff.2 d.contents_close
    simp [Event.accepted?, Event.popped?, Event.dropped, h]

theorem Effect.eq_closed (h : Effect d e d') (he : e.isClosed = true) : e = .closed d.tasks := by
  cases h with
  | close => rfl
  | _ => cases he

theorem Effect.contents_of_closed (h : Effect d e d') (he : e.isClosed = true) (i : Nat) :
    d'.contents i = [] := by
  cases h with
  | close => exact d.contents_close i
  | _ => cases he

theorem Event.poppedFrom?_eq_none (h : e.popped? = none) (i : Nat) : e.poppedFrom? i = none := by
  cases e with
  | popped => cases h
  | _ => rfl

theorem Effect.closed_iff (h : Effect d e d') :
    d'.closed = true ↔ d.closed = true ∨ e.isClosed = true := by
  cases h with
  | accept h => simp [Dispatcher.closed_of_accepted h, Event.isClosed]
  | close => simp [Dispatcher.close, Event.isClosed]
  | register | reject | park | pop | miss | wait =>
    simp [Dispatcher.register, Dispatcher.serve, Dispatcher.modifyQueue, Event.isClosed]

end Traffic

end LteUe
