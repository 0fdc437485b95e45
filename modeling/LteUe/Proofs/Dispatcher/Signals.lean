import LteUe.Proofs.Dispatcher.Fairness

/-!
# Waking those who wait

The threads at a dispatcher share one lock and two signals. A producer that finds its queue full waits
until it is told that there may be room, and the consumer that finds every queue empty waits until it is
told that there may be a task. Whoever has changed the queues gives up the lock first and signals later
(`Signals.Step`), so there are states in which a signal is still due. In every other state whoever waits
waits with reason: if it looked again, it would wait again (`no_lost_wakeup`).
-/

namespace LteUe

open Function

variable {α : Type}

/-- Where a producer is, or anyone else who may close the dispatcher or pop without waiting. -/
inductive Stance (α : Type) where
  | idle
  /-- It waits to be told of room. -/
  | waiting (q : QueueId) (a : α)
  /-- It has been woken, and is to look at its queue again. -/
  | woken (q : QueueId) (a : α)
  /-- It has pushed, and is to tell the consumer. -/
  | pushed
  /-- It has popped, and is to tell the producers. -/
  | popped
  /-- It has closed the dispatcher, and is to tell the consumer. -/
  | closing
  /-- It has closed the dispatcher and told the consumer, and is to tell the producers. -/
  | closed

namespace Stance

/-- What becomes of a thread that is told of room. -/
def wake : Stance α → Stance α
  | waiting q a => woken q a
  | s => s

/-- It is to tell the consumer that there may be a task. -/
@[simp] def OwesTask : Stance α → Prop
  | pushed | closing => True
  | _ => False

/-- It is to tell the producers that there may be room. -/
@[simp] def OwesRoom : Stance α → Prop
  | popped | closing | closed => True
  | _ => False

@[simp] theorem owesTask_wake (s : Stance α) : s.wake.OwesTask ↔ s.OwesTask := by cases s <;> rfl

theorem wake_ne_waiting (s : Stance α) (q : QueueId) (a : α) : s.wake ≠ .waiting q a := by
  cases s <;> exact nofun

end Stance

/-- Where the consumer is. -/
inductive Watch where
  | idle
  /-- It waits to be told of a task. -/
  | waiting
  /-- It has been woken, and is to look at the queues again. -/
  | woken
  /-- It has popped, and is to tell the producers. -/
  | popped
deriving DecidableEq

namespace Watch

/-- What becomes of a consumer that is told of a task. -/
def wake : Watch → Watch
  | waiting => woken
  | w => w

theorem wake_ne_waiting (w : Watch) : w.wake ≠ .waiting := by cases w <;> exact nofun

theorem wake_eq_popped_iff (w : Watch) : w.wake = .popped ↔ w = .popped := by
  cases w <;> simp [wake]

end Watch

/-- A dispatcher, the threads that use it, and how far each has come. -/
structure Signals (α : Type) where
  dispatcher : Dispatcher α
  producers : Nat → Stance α := fun _ => .idle
  consumer : Watch := .idle

namespace Signals

/-- A new dispatcher that nobody uses yet. -/
def start (id : Nat) : Signals α where
  dispatcher := .empty id

/-- Who makes a step. -/
inductive Mover where
  | producer (p : Nat)
  | consumer

/-- Producer `p` may look whether there is room for this push: it begins it, or it has been woken. -/
def MayPush (x : Signals α) (p : Nat) (q : QueueId) (a : α) : Prop :=
  x.producers p = .idle ∨ x.producers p = .woken q a

/-- The consumer may look whether there is a task: it begins its pop, or it has been woken. -/
def MayPop (x : Signals α) : Prop := x.consumer = .idle ∨ x.consumer = .woken

/-- The state in which thread `p` is somewhere else. -/
def move (x : Signals α) (p : Nat) (s : Stance α) : Signals α :=
  { x with producers := update x.producers p s }

/-- The state after the producers have been told that there may be room: all who wait are woken. -/
def tellRoom (x : Signals α) : Signals α := { x with producers := fun p => (x.producers p).wake }

/-- The state after somebody who waits has been told that there may be a task. Only the consumer waits
for that. -/
def tellTask (x : Signals α) : Signals α := { x with consumer := x.consumer.wake }

/-- The steps. What a thread does while it holds the lock is one step, and so is the beginning of a wait
that gives the lock up; a signal is a step of its own, later. Who waits may also wake by itself. -/
inductive Step : Signals α → Mover → Signals α → Prop
  | register {x : Signals α} {p : Nat} (name : String) (capacity : Nat) :
      x.producers p = .idle →
        Step x (.producer p) { x with dispatcher := (x.dispatcher.register name capacity).2 }
  | tryPush {x : Signals α} {p : Nat} {q : QueueId} {a : α} {d : Dispatcher α} :
      x.producers p = .idle → x.dispatcher.tryPush q a = .ok d →
        Step x (.producer p) ({ x with dispatcher := d }.move p .pushed)
  | tryPushError {x : Signals α} {p : Nat} {q : QueueId} {a : α} {e : PushError α} :
      x.producers p = .idle → x.dispatcher.tryPush q a = .error e → Step x (.producer p) x
  | push {x : Signals α} {p : Nat} {q : QueueId} {a : α} {d : Dispatcher α} :
      x.MayPush p q a → x.dispatcher.offer q a = .accepted d →
        Step x (.producer p) ({ x with dispatcher := d }.move p .pushed)
  | pushError {x : Signals α} {p : Nat} {q : QueueId} {a : α} {e : PushError α} :
      x.MayPush p q a → x.dispatcher.offer q a = .rejected e → Step x (.producer p) (x.move p .idle)
  | park {x : Signals α} {p : Nat} {q : QueueId} {a : α} :
      x.MayPush p q a → x.dispatcher.offer q a = .parked →
        Step x (.producer p) (x.move p (.waiting q a))
  | wakeUp {x : Signals α} {p : Nat} {q : QueueId} {a : α} :
      x.producers p = .waiting q a → Step x (.producer p) (x.move p (.woken q a))
  | tellPushed {x : Signals α} {p : Nat} :
      x.producers p = .pushed → Step x (.producer p) (x.move p .idle).tellTask
  | tryPop {x : Signals α} {p : Nat} {a : α} {d : Dispatcher α} :
      x.producers p = .idle → x.dispatcher.tryPop = some (a, d) →
        Step x (.producer p) ({ x with dispatcher := d }.move p .popped)
  | tellPopped {x : Signals α} {p : Nat} :
      x.producers p = .popped → Step x (.producer p) (x.move p .idle).tellRoom
  | close {x : Signals α} {p : Nat} :
      x.producers p = .idle →
        Step x (.producer p) ({ x with dispatcher := x.dispatcher.close.2 }.move p .closing)
  | tellClosing {x : Signals α} {p : Nat} :
      x.producers p = .closing → Step x (.producer p) (x.move p .closed).tellTask
  | tellClosed {x : Signals α} {p : Nat} :
      x.producers p = .closed → Step x (.producer p) (x.move p .idle).tellRoom
  | pop {x : Signals α} {a : α} {d : Dispatcher α} :
      x.MayPop → x.dispatcher.next = .task a d →
        Step x .consumer { x with dispatcher := d, consumer := .popped }
  | popNone {x : Signals α} :
      x.MayPop → x.dispatcher.next = .closed → Step x .consumer { x with consumer := .idle }
  | wait {x : Signals α} :
      x.MayPop → x.dispatcher.next = .parked → Step x .consumer { x with consumer := .waiting }
  | consumerWakesUp {x : Signals α} :
      x.consumer = .waiting → Step x .consumer { x with consumer := .woken }
  | consumerTries {x : Signals α} {a : α} {d : Dispatcher α} :
      x.consumer = .idle → x.dispatcher.tryPop = some (a, d) →
        Step x .consumer { x with dispatcher := d, consumer := .popped }
  | consumerTells {x : Signals α} :
      x.consumer = .popped → Step x .consumer { x with consumer := .idle }.tellRoom

/-- Somebody is about to tell the consumer that there may be a task. -/
def TaskDue (x : Signals α) : Prop := ∃ p, (x.producers p).OwesTask

/-- Somebody is about to tell the producers that there may be room. -/
def RoomDue (x : Signals α) : Prop := x.consumer = .popped ∨ ∃ p, (x.producers p).OwesRoom

/-- Nobody has given up the lock and is yet to signal. -/
def Quiet (x : Signals α) : Prop := ¬ x.TaskDue ∧ ¬ x.RoomDue

/-! ## What a wait rests on -/

variable {x y : Signals α} {d d' : Dispatcher α} {p : Nat} {q q' : QueueId} {a b : α} {m : Mover}
  {t : List Mover} {s : Stance α}

theorem next_eq_parked_iff : d.next = .parked ↔ d.closed = false ∧ ∀ i, d.contents i = [] := by
  constructor
  · intro h
    have ho : d.closed = false := by
      rw [← Bool.not_eq_true, ← Dispatcher.next_eq_closed_iff, h]
      exact nofun
    refine ⟨ho, fun i => ?_⟩
    by_contra hi
    obtain ⟨j, hj⟩ := Option.ne_none_iff_exists'.1 (Dispatcher.serving?_ne_none hi)
    obtain ⟨-, -, -, hne, -⟩ := Dispatcher.serving?_eq_some_iff.1 hj
    have ha := List.head?_eq_some_head hne
    rw [Dispatcher.next_eq_task_iff.2 (Dispatcher.tryPop_eq_some_iff.2
      ⟨ho, Dispatcher.popInTurn_eq_some_iff.2 ⟨j, hj, ha, rfl⟩⟩)] at h
    cases h
  · rintro ⟨ho, hi⟩
    cases hn : d.next with
    | parked => rfl
    | closed =>
      rw [Dispatcher.next_eq_closed_iff, ho] at hn
      cases hn
    | task a d' =>
      obtain ⟨-, h⟩ := Dispatcher.tryPop_eq_some_iff.1 (Dispatcher.next_eq_task_iff.1 hn)
      obtain ⟨j, -, ha, -⟩ := Dispatcher.popInTurn_eq_some_iff.1 h
      rw [hi] at ha
      cases ha

theorem next_register (h : d.next = .parked) (name : String) (capacity : Nat) :
    (d.register name capacity).2.next = .parked := by
  obtain ⟨ho, hi⟩ := next_eq_parked_iff.1 h
  exact next_eq_parked_iff.2 ⟨ho, fun i => (Dispatcher.contents_register d name capacity i).trans (hi i)⟩

theorem offer_register (h : d.offer q a = .parked) (name : String) (capacity : Nat) :
    (d.register name capacity).2.offer q a = .parked := by
  obtain ⟨ho, queue, hq, hf⟩ := Dispatcher.offer_eq_parked_iff.1 h
  obtain ⟨hd, hi⟩ := Dispatcher.queue?_eq_some_iff.1 hq
  refine Dispatcher.offer_eq_parked_iff.2 ⟨ho, queue, Dispatcher.queue?_eq_some_iff.2 ⟨hd, ?_⟩, hf⟩
  exact (List.getElem?_append_left (List.getElem?_eq_some_iff.1 hi).1).trans hi

/-- A push into another queue makes no room. A push into the same queue is not accepted. -/
theorem offer_of_accepted (h : d.offer q a = .parked) (hd : d.offer q' b = .accepted d') :
    d'.offer q a = .parked := by
  obtain ⟨ho, queue, hq, hf⟩ := Dispatcher.offer_eq_parked_iff.1 h
  obtain ⟨-, ⟨queue', hq', hf'⟩, rfl⟩ := Dispatcher.offer_eq_accepted_iff.1 hd
  obtain ⟨hid, hi⟩ := Dispatcher.queue?_eq_some_iff.1 hq
  obtain ⟨-, hi'⟩ := Dispatcher.queue?_eq_some_iff.1 hq'
  have hne : q'.index ≠ q.index := by
    intro he
    rw [he, hi] at hi'
    cases hi'
    exact hf' hf
  refine Dispatcher.offer_eq_parked_iff.2 ⟨ho, queue, Dispatcher.queue?_eq_some_iff.2 ⟨hid, ?_⟩, hf⟩
  exact (List.getElem?_modify_ne _ _ hne).trans hi

theorem next_ne_parked_of_tryPop (h : d.tryPop = some (a, d')) : d.next ≠ .parked := by
  rw [Dispatcher.next_eq_task_iff.2 h]
  exact nofun

/-! ## Signals that stay due -/

theorem MayPush.not_owesTask (h : x.MayPush p q a) : ¬ (x.producers p).OwesTask := by
  rcases h with h | h <;> rw [h] <;> exact not_false

theorem MayPush.not_owesRoom (h : x.MayPush p q a) : ¬ (x.producers p).OwesRoom := by
  rcases h with h | h <;> rw [h] <;> exact not_false

theorem MayPop.ne_popped (h : x.MayPop) : x.consumer ≠ .popped := by
  rcases h with h | h <;> rw [h] <;> exact nofun

@[simp] theorem producers_move_self (x : Signals α) (p : Nat) (s : Stance α) :
    (x.move p s).producers p = s := update_self ..

theorem producers_move_of_ne {p' : Nat} (hp : p' ≠ p) (x : Signals α) (s : Stance α) :
    (x.move p s).producers p' = x.producers p' := update_of_ne hp ..

theorem taskDue_move_self (h : s.OwesTask) : (x.move p s).TaskDue := ⟨p, by simpa using h⟩

theorem roomDue_move_self (h : s.OwesRoom) : (x.move p s).RoomDue := .inr ⟨p, by simpa using h⟩

theorem TaskDue.move (h : x.TaskDue) (hp : ¬ (x.producers p).OwesTask) (s : Stance α) :
    (x.move p s).TaskDue := by
  obtain ⟨p', h⟩ := h
  have hne : p' ≠ p := fun he => hp (he ▸ h)
  exact ⟨p', by rwa [producers_move_of_ne hne]⟩

theorem RoomDue.move (h : x.RoomDue) (hp : ¬ (x.producers p).OwesRoom) (s : Stance α) :
    (x.move p s).RoomDue := by
  obtain h | ⟨p', h⟩ := h
  · exact .inl h
  have hne : p' ≠ p := fun he => hp (he ▸ h)
  exact .inr ⟨p', by rwa [producers_move_of_ne hne]⟩

theorem TaskDue.tellRoom (h : x.TaskDue) : x.tellRoom.TaskDue :=
  h.imp fun _ h => (Stance.owesTask_wake _).2 h

theorem RoomDue.tellTask (h : x.RoomDue) : x.tellTask.RoomDue :=
  h.imp (fun h => (Watch.wake_eq_popped_iff _).2 h) id

/-! ## Who waits has a reason -/

/-- If the consumer waits, it is about to be told, or would wait again. -/
def ConsumerWaits (x : Signals α) : Prop :=
  x.consumer = .waiting → x.TaskDue ∨ x.dispatcher.next = .parked

/-- If a producer waits, it is about to be told, or would wait again. -/
def ProducersWait (x : Signals α) : Prop :=
  ∀ p q a, x.producers p = .waiting q a → x.RoomDue ∨ x.dispatcher.offer q a = .parked

theorem ConsumerWaits.move (h : x.ConsumerWaits) (hp : ¬ (x.producers p).OwesTask) (s : Stance α) :
    (x.move p s).ConsumerWaits :=
  fun hw => (h hw).imp (·.move hp s) id

theorem consumerWaits_tellTask (x : Signals α) : x.tellTask.ConsumerWaits :=
  fun hw => absurd hw (Watch.wake_ne_waiting _)

theorem ConsumerWaits.tellRoom (h : x.ConsumerWaits) : x.tellRoom.ConsumerWaits :=
  fun hw => (h hw).imp (·.tellRoom) id

/-- A thread that owes no signal may go anywhere, but must have a reason to begin a wait. -/
theorem ProducersWait.move (h : x.ProducersWait) (hp : ¬ (x.producers p).OwesRoom)
    (hs : ∀ q a, s = .waiting q a → x.dispatcher.offer q a = .parked) :
    (x.move p s).ProducersWait := by
  intro p' q a hw
  by_cases hp' : p' = p
  · subst hp'
    rw [producers_move_self] at hw
    exact .inr (hs q a hw)
  · rw [producers_move_of_ne hp'] at hw
    exact (h p' q a hw).imp (·.move hp s) id

theorem producersWait_tellRoom (x : Signals α) : x.tellRoom.ProducersWait :=
  fun _ _ _ hw => absurd hw (Stance.wake_ne_waiting _ _ _)

theorem ProducersWait.tellTask (h : x.ProducersWait) : x.tellTask.ProducersWait :=
  fun p q a hw => (h p q a hw).imp (·.tellTask) id

theorem producersWait_of_roomDue (h : x.RoomDue) : x.ProducersWait := fun _ _ _ _ => .inl h

theorem ProducersWait.accepted (h : x.ProducersWait) (hd : x.dispatcher.offer q a = .accepted d) :
    ProducersWait { x with dispatcher := d } :=
  fun p q a hw => (h p q a hw).imp id (offer_of_accepted · hd)

/-- The consumer may go anywhere but leave a signal behind that it owes. -/
theorem ProducersWait.watch (h : x.ProducersWait) (hc : x.consumer ≠ .popped) (w : Watch) :
    ProducersWait { x with consumer := w } :=
  fun p q a hw => (h p q a hw).imp (fun hr => .inr (hr.resolve_left hc)) id

theorem ConsumerWaits.step (h : x.ConsumerWaits) (hs : Step x m y) : y.ConsumerWaits := by
  cases hs with
  | register name capacity hp => exact fun hw => (h hw).imp id (next_register · name capacity)
  -- A push is what a waiting consumer waits for, and its signal is due from here on.
  | tryPush hp hd => exact fun _ => .inl (taskDue_move_self trivial)
  | tryPushError hp hd => exact h
  | push hp hd => exact fun _ => .inl (taskDue_move_self trivial)
  | pushError hp hd => exact h.move hp.not_owesTask _
  | park hp hd => exact h.move hp.not_owesTask _
  | wakeUp hp => exact h.move (by simp [hp]) _
  | tellPushed hp => exact consumerWaits_tellTask _
  | tryPop hp hd =>
    intro hw
    have ht := (h hw).resolve_right (next_ne_parked_of_tryPop hd)
    exact .inl (TaskDue.move (x := { x with dispatcher := _ }) ht (by simp [hp]) _)
  | tellPopped hp => exact (h.move (by simp [hp]) _).tellRoom
  | close hp => exact fun _ => .inl (taskDue_move_self trivial)
  | tellClosing hp => exact consumerWaits_tellTask _
  | tellClosed hp => exact (h.move (by simp [hp]) _).tellRoom
  | pop hp hd => exact nofun
  | popNone hp hd => exact nofun
  | wait hp hd => exact fun _ => .inr hd
  | consumerWakesUp hp => exact nofun
  | consumerTries hp hd => exact nofun
  | consumerTells hp => exact nofun

theorem ProducersWait.step (h : x.ProducersWait) (hs : Step x m y) : y.ProducersWait := by
  cases hs with
  | register name capacity hp =>
    exact fun p q a hw => (h p q a hw).imp id (offer_register · name capacity)
  | tryPush hp hd =>
    have h' := h.accepted (Dispatcher.tryPush_eq_ok_iff.1 hd)
    exact h'.move (by simp [hp]) nofun
  | tryPushError hp hd => exact h
  | push hp hd => exact (h.accepted hd).move hp.not_owesRoom nofun
  | pushError hp hd => exact h.move hp.not_owesRoom nofun
  | park hp hd => exact h.move hp.not_owesRoom (fun _ _ he => by cases he; exact hd)
  | wakeUp hp => exact h.move (by simp [hp]) nofun
  | tellPushed hp => exact (h.move (s := .idle) (by simp [hp]) nofun).tellTask
  -- Room is made by a pop and by a close, and the signal of either is due from here on.
  | tryPop hp hd =>
    exact producersWait_of_roomDue (roomDue_move_self trivial)
  | tellPopped hp => exact producersWait_tellRoom _
  | close hp =>
    exact producersWait_of_roomDue (roomDue_move_self trivial)
  | tellClosing hp =>
    exact producersWait_of_roomDue (RoomDue.tellTask (roomDue_move_self trivial))
  | tellClosed hp => exact producersWait_tellRoom _
  | pop hp hd => exact producersWait_of_roomDue (.inl rfl)
  | popNone hp hd => exact h.watch hp.ne_popped _
  | wait hp hd => exact h.watch hp.ne_popped _
  | consumerWakesUp hp => exact h.watch (by rw [hp]; exact nofun) _
  | consumerTries hp hd => exact producersWait_of_roomDue (.inl rfl)
  | consumerTells hp => exact producersWait_tellRoom _

/-- No signal is lost: when none is due, the consumer waits only if the dispatcher is open and every
queue is empty, and a producer only if the dispatcher is open and its queue is full. -/
theorem no_lost_wakeup {id : Nat} (h : Run Step (start id) t x) (hq : x.Quiet) :
    (x.consumer = .waiting →
      x.dispatcher.closed = false ∧ ∀ i, x.dispatcher.contents i = []) ∧
    ∀ p q a, x.producers p = .waiting q a →
      x.dispatcher.closed = false ∧
        ∃ queue, x.dispatcher.queue? q = some queue ∧ queue.IsFull := by
  obtain ⟨hc, hp⟩ := h.invariant (P := fun x => x.ConsumerWaits ∧ x.ProducersWait) ⟨nofun, nofun⟩
    fun _ _ _ h hs => ⟨h.1.step hs, h.2.step hs⟩
  constructor
  · intro hw
    exact next_eq_parked_iff.1 ((hc hw).resolve_left hq.1)
  · intro p q a hw
    exact Dispatcher.offer_eq_parked_iff.1 ((hp p q a hw).resolve_left hq.2)

/-- The consumer waits, is woken by a first push and has not looked again when a second producer finds
the only queue full. -/
def crowded : Signals Nat where
  dispatcher := { id := 7, queues := [{ name := "", capacity := 1, items := [4] }] }
  producers := update (fun _ => .idle) 1 (.waiting ⟨7, 0⟩ 5)
  consumer := .woken

theorem run_crowded : Run Step (start 7) [.producer 0, .consumer, .producer 0, .producer 0, .producer 1]
    crowded := by
  have h₁ := Run.nil.snoc (Step.register (α := Nat) (x := start 7) (p := 0) "" 1 rfl)
  have h₂ := h₁.snoc (.wait (.inl rfl) rfl)
  have h₃ := h₂.snoc (.push (p := 0) (q := ⟨7, 0⟩) (a := 4) (.inl rfl) rfl)
  have h₄ := h₃.snoc (.tellPushed (p := 0) rfl)
  have h₅ := h₄.snoc (.park (p := 1) (q := ⟨7, 0⟩) (a := 5) (.inl rfl) rfl)
  have hp : update (update (fun _ => .idle) 0 .pushed) 0 .idle = fun _ : Nat => (.idle : Stance Nat) := by
    rw [update_idem, update_eq_self]
  simp only [start, move, tellTask, hp] at h₅
  exact h₅

theorem no_lost_wakeup_of_full_queue :
    crowded.Quiet ∧ crowded.producers 1 = .waiting ⟨7, 0⟩ 5 ∧ crowded.dispatcher.closed = false ∧
      ∃ queue, crowded.dispatcher.queue? ⟨7, 0⟩ = some queue ∧ queue.IsFull := by
  have hq : crowded.Quiet := by
    constructor
    · rintro ⟨p, hp⟩
      simp only [crowded, update_apply] at hp
      split at hp <;> exact hp
    · rintro (h | ⟨p, hp⟩)
      · cases h
      · simp only [crowded, update_apply] at hp
        split at hp <;> exact hp
  have hw : crowded.producers 1 = .waiting ⟨7, 0⟩ 5 := rfl
  exact ⟨hq, hw, (no_lost_wakeup run_crowded hq).2 1 ⟨7, 0⟩ 5 hw⟩

end Signals

end LteUe
