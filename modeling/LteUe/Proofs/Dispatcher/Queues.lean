import LteUe.Dispatcher.Basic

/-!
# What the operations of a dispatcher do

Each operation is described by when it answers what, and by what it does to the contents of the queues
(`Dispatcher.contents`). The later modules cite these lemmas and open no operation.
-/

namespace LteUe.Dispatcher

variable {α : Type} {d d' : Dispatcher α} {q : QueueId} {a : α} {e : PushError α} {i j : Nat}

/-! ## Contents -/

/-- The tasks that wait in the `i`-th queue; none if there is no such queue. -/
def contents (d : Dispatcher α) (i : Nat) : List α := d.queues[i]?.elim [] (·.items)

theorem contents_of_getElem? {queue : BoundedQueue α} (h : d.queues[i]? = some queue) :
    d.contents i = queue.items := by
  simp [contents, h]

theorem contents_eq_nil (h : d.queues.length ≤ i) : d.contents i = [] := by
  simp [contents, List.getElem?_eq_none h]

theorem lt_length_of_contents (h : d.contents i ≠ []) : i < d.queues.length :=
  Nat.lt_of_not_le fun hi => h (contents_eq_nil hi)

theorem head?_eq (d : Dispatcher α) (i : Nat) : d.head? i = (d.contents i).head? := by
  unfold head? contents
  cases d.queues[i]? <;> rfl

theorem map_contents (d : Dispatcher α) :
    (List.range d.queues.length).map d.contents = d.queues.map (·.items) := by
  apply List.ext_getElem
  · simp
  · intro i h _
    simp only [List.length_map, List.length_range] at h
    simp [contents, List.getElem?_eq_getElem h]

theorem tasks_eq (d : Dispatcher α) :
    d.tasks = (List.range d.queues.length).flatMap d.contents := by
  rw [tasks, List.flatMap_def, List.flatMap_def, map_contents]

theorem tasks_eq_nil_iff : d.tasks = [] ↔ ∀ i, d.contents i = [] := by
  rw [tasks_eq, List.flatMap_eq_nil_iff]
  constructor
  · intro h i
    by_cases hi : i < d.queues.length
    · exact h i (List.mem_range.2 hi)
    · exact contents_eq_nil (Nat.le_of_not_lt hi)
  · exact fun h i _ => h i

theorem contents_modifyQueue (d : Dispatcher α) (i j : Nat)
    (f : BoundedQueue α → BoundedQueue α) :
    (d.modifyQueue i f).contents j =
      if i = j then (d.queues[j]?.map f).elim [] (·.items) else d.contents j := by
  unfold modifyQueue contents
  rw [List.getElem?_modify]
  split <;> cases d.queues[j]? <;> rfl

theorem length_modifyQueue (d : Dispatcher α) (i : Nat) (f : BoundedQueue α → BoundedQueue α) :
    (d.modifyQueue i f).queues.length = d.queues.length := List.length_modify ..

theorem map_modifyQueue {β : Type} {g : BoundedQueue α → β} (d : Dispatcher α) (i : Nat)
    {f : BoundedQueue α → BoundedQueue α} (hf : ∀ q, g (f q) = g q) :
    (d.modifyQueue i f).queues.map g = d.queues.map g := by
  refine List.ext_getElem? fun j => ?_
  rw [modifyQueue, List.getElem?_map, List.getElem?_map, List.getElem?_modify]
  cases d.queues[j]? with
  | none => rfl
  | some q =>
    by_cases hi : i = j
    · simp [hi, hf]
    · simp [hi]

/-- A change of one queue changes its own stretch of the waiting tasks. -/
theorem tasks_modifyQueue {queue : BoundedQueue α} (h : d.queues[i]? = some queue)
    (f : BoundedQueue α → BoundedQueue α) :
    ∃ l r, d.tasks = l ++ queue.items ++ r ∧ (d.modifyQueue i f).tasks = l ++ (f queue).items ++ r := by
  obtain ⟨hi, rfl⟩ := List.getElem?_eq_some_iff.1 h
  have hd : d.queues = d.queues.take i ++ d.queues[i] :: d.queues.drop (i + 1) := by
    rw [← List.drop_eq_getElem_cons hi, List.take_append_drop]
  refine ⟨(d.queues.take i).flatMap (·.items), (d.queues.drop (i + 1)).flatMap (·.items), ?_, ?_⟩
  · rw [tasks]
    refine (congrArg _ hd).trans ?_
    rw [List.flatMap_append, List.flatMap_cons, List.append_assoc]
  · rw [tasks, modifyQueue, List.modify_eq_take_cons_drop hi]
    simp

/-! ## Registering -/

theorem tasks_register (d : Dispatcher α) (name : String) (capacity : Nat) :
    (d.register name capacity).2.tasks = d.tasks := by
  simp [tasks, register]

theorem contents_register (d : Dispatcher α) (name : String) (capacity i : Nat) :
    (d.register name capacity).2.contents i = d.contents i := by
  unfold register contents
  simp only [List.getElem?_append]
  split
  · rfl
  · rename_i h
    rw [List.getElem?_eq_none (Nat.le_of_not_lt h)]
    cases i - d.queues.length <;> rfl

/-! ## Pushing -/

theorem queue?_eq_some_iff {queue : BoundedQueue α} :
    d.queue? q = some queue ↔ q.dispatcher = d.id ∧ d.queues[q.index]? = some queue := by
  unfold queue?
  split <;> simp [*]

theorem offer_eq_accepted_iff :
    d.offer q a = .accepted d' ↔ d.closed = false ∧
      (∃ queue, d.queue? q = some queue ∧ ¬ queue.IsFull) ∧ d' = d.modifyQueue q.index (·.push a) := by
  unfold offer
  cases d.closed <;> cases hq : d.queue? q with
  | none => simp
  | some queue => by_cases hf : queue.IsFull <;> simp [hf, eq_comm]

theorem offer_eq_rejected_iff :
    d.offer q a = .rejected e ↔ d.closed = true ∧ e = .closed a ∨
      d.closed = false ∧ d.queue? q = none ∧ e = .unknownQueue a := by
  unfold offer
  cases d.closed <;> cases hq : d.queue? q with
  | none => simp [eq_comm]
  | some queue => by_cases hf : queue.IsFull <;> simp [hf, eq_comm]

theorem offer_eq_parked_iff :
    d.offer q a = .parked ↔ d.closed = false ∧ ∃ queue, d.queue? q = some queue ∧ queue.IsFull := by
  unfold offer
  cases d.closed <;> cases hq : d.queue? q with
  | none => simp
  | some queue => by_cases hf : queue.IsFull <;> simp [hf]

theorem tryPush_eq_ok_iff : d.tryPush q a = .ok d' ↔ d.offer q a = .accepted d' := by
  unfold tryPush
  cases d.offer q a <;> simp

theorem tryPush_eq_error_iff :
    d.tryPush q a = .error e ↔ d.offer q a = .rejected e ∨ d.offer q a = .parked ∧ e = .full a := by
  unfold tryPush
  cases d.offer q a <;> simp [eq_comm]

theorem contents_of_accepted (h : d.offer q a = .accepted d') (i : Nat) :
    d'.contents i = if q.index = i then d.contents i ++ [a] else d.contents i := by
  obtain ⟨-, ⟨queue, hq, -⟩, rfl⟩ := offer_eq_accepted_iff.1 h
  rw [contents_modifyQueue]
  split
  · rename_i hi
    have hi := hi ▸ (queue?_eq_some_iff.1 hq).2
    simp [contents, hi, BoundedQueue.push]
  · rfl

theorem tasks_of_accepted (h : d.offer q a = .accepted d') : d'.tasks.Perm (a :: d.tasks) := by
  obtain ⟨-, ⟨queue, hq, -⟩, rfl⟩ := offer_eq_accepted_iff.1 h
  obtain ⟨l, r, h₁, h₂⟩ := tasks_modifyQueue (queue?_eq_some_iff.1 hq).2 (·.push a)
  have hp : (l ++ queue.items ++ a :: r).Perm (a :: (l ++ queue.items ++ r)) := List.perm_middle
  rw [h₁, h₂, BoundedQueue.push]
  simpa using hp

/-- Pushing leaves the number of the queues, the cursor and the id alone. -/
theorem frame_of_accepted (h : d.offer q a = .accepted d') :
    d'.queues.length = d.queues.length ∧ d'.cursor = d.cursor ∧ d'.closed = d.closed ∧
      d'.id = d.id := by
  obtain ⟨-, -, rfl⟩ := offer_eq_accepted_iff.1 h
  exact ⟨length_modifyQueue .., rfl, rfl, rfl⟩

theorem closed_of_accepted (h : d.offer q a = .accepted d') : d'.closed = d.closed :=
  (frame_of_accepted h).2.2.1

/-! ## Popping -/

/-- The dispatcher once the oldest task of the `i`-th queue is taken. -/
def serve (d : Dispatcher α) (i : Nat) : Dispatcher α :=
  { d.modifyQueue i (·.tail) with cursor := (i + 1) % d.queues.length }

theorem popInTurn_eq_some_iff :
    d.popInTurn = some (a, d') ↔
      ∃ i, d.serving? = some i ∧ (d.contents i).head? = some a ∧ d' = d.serve i := by
  unfold popInTurn
  cases d.serving? with
  | none => simp
  | some i =>
    simp only [Option.bind_eq_bind, Option.bind_some, Option.some.injEq, exists_eq_left',
      ← head?_eq, serve]
    cases d.head? i <;> simp [eq_comm]

theorem tryPop_eq_some_iff :
    d.tryPop = some (a, d') ↔ d.closed = false ∧ d.popInTurn = some (a, d') := by
  unfold tryPop
  cases d.closed <;> simp

theorem next_eq_task_iff : d.next = .task a d' ↔ d.tryPop = some (a, d') := by
  unfold next tryPop
  cases d.closed <;> rcases d.popInTurn with _ | ⟨b, d''⟩ <;> simp

theorem next_eq_closed_iff : d.next = .closed ↔ d.closed = true := by
  unfold next
  cases d.closed <;> rcases d.popInTurn with _ | ⟨b, d''⟩ <;> simp

theorem contents_serve (d : Dispatcher α) (i j : Nat) :
    (d.serve i).contents j = if i = j then (d.contents j).tail else d.contents j := by
  have h := d.contents_modifyQueue i j (·.tail)
  simp only [contents, serve, modifyQueue] at h ⊢
  rw [h]
  split
  · cases d.queues[j]? <;> rfl
  · rfl

theorem tasks_serve (h : (d.contents i).head? = some a) : d.tasks.Perm (a :: (d.serve i).tasks) := by
  obtain ⟨rest, hr⟩ := List.head?_eq_some_iff.1 h
  have hi : i < d.queues.length := lt_length_of_contents (by simp [hr])
  have hq := List.getElem?_eq_getElem hi
  obtain ⟨l, r, h₁, h₂⟩ := tasks_modifyQueue hq (·.tail)
  have h₂ : (d.serve i).tasks = _ := h₂
  rw [contents_of_getElem? hq] at hr
  rw [h₁, h₂, BoundedQueue.tail, hr]
  simp

/-- The scan meets the places one after the other from the cursor on, and stops at the first queue that
holds a task. -/
theorem serving?_eq_some_iff :
    d.serving? = some i ↔ ∃ k < d.queues.length, (d.cursor + k) % d.queues.length = i ∧
      d.contents i ≠ [] ∧ ∀ l < k, d.contents ((d.cursor + l) % d.queues.length) = [] := by
  unfold serving? scan
  rw [List.find?_map, Option.map_eq_some_iff]
  simp only [List.find?_range_eq_some, Function.comp_apply, head?_eq, List.mem_range,
    List.isSome_head?, Bool.not_eq_true', Option.isSome_eq_false_iff, Option.isNone_iff_eq_none,
    List.head?_eq_none_iff]
  constructor
  · rintro ⟨k, ⟨hk, hlt, hl⟩, rfl⟩
    exact ⟨k, hlt, rfl, by simpa using hk, hl⟩
  · rintro ⟨k, hlt, rfl, hk, hl⟩
    exact ⟨k, ⟨by simpa using hk, hlt, hl⟩, rfl⟩

/-! ## Room -/

/-- No queue holds more tasks than it can. -/
def Bounded (d : Dispatcher α) : Prop :=
  ∀ (i : Nat) (queue : BoundedQueue α), d.queues[i]? = some queue → queue.items.length ≤ queue.capacity

theorem bounded_empty (id : Nat) : (empty id : Dispatcher α).Bounded := by
  simp [Bounded, empty]

theorem Bounded.register (h : d.Bounded) (name : String) (capacity : Nat) :
    (d.register name capacity).2.Bounded := by
  intro i queue hi
  obtain hq | hq := List.mem_append.1 (List.mem_of_getElem? hi)
  · obtain ⟨j, hj⟩ := List.mem_iff_getElem?.1 hq
    exact h j queue hj
  · obtain rfl := List.mem_singleton.1 hq
    exact Nat.zero_le _

/-- A change of one queue keeps all bounds if it keeps that of the queue. -/
theorem Bounded.modifyQueue (h : d.Bounded) {f : BoundedQueue α → BoundedQueue α}
    (hf : ∀ queue, d.queues[i]? = some queue → (f queue).items.length ≤ (f queue).capacity) :
    (d.modifyQueue i f).Bounded := by
  intro j queue hj
  rw [Dispatcher.modifyQueue, List.getElem?_modify] at hj
  obtain ⟨old, hold, rfl⟩ := Option.map_eq_some_iff.1 hj
  by_cases hij : i = j
  · subst hij
    simpa using hf old hold
  · simpa [hij] using h j old hold

theorem Bounded.of_accepted (h : d.Bounded) (ha : d.offer q a = .accepted d') : d'.Bounded := by
  obtain ⟨-, ⟨queue, hq, hf⟩, rfl⟩ := offer_eq_accepted_iff.1 ha
  refine h.modifyQueue fun queue' hq' => ?_
  obtain rfl : queue = queue' := by simpa [(queue?_eq_some_iff.1 hq).2] using hq'
  unfold BoundedQueue.IsFull at hf
  simp only [BoundedQueue.push, List.length_append, List.length_singleton]
  omega

theorem Bounded.serve (h : d.Bounded) (i : Nat) : (d.serve i).Bounded := by
  refine h.modifyQueue fun queue hq => ?_
  have hb := h i queue hq
  simp only [BoundedQueue.tail, List.length_tail]
  omega

theorem bounded_close (d : Dispatcher α) : d.close.2.Bounded := by
  intro i queue hi
  obtain ⟨old, -, rfl⟩ := Option.map_eq_some_iff.1 ((List.getElem?_map ..).symm.trans hi)
  exact Nat.zero_le _

theorem Bounded.isFull_iff (h : d.Bounded) {queue : BoundedQueue α} (hq : d.queue? q = some queue) :
    queue.IsFull ↔ d.depth q = d.capacity q := by
  have hb := h q.index queue (queue?_eq_some_iff.1 hq).2
  simp only [BoundedQueue.IsFull, depth, capacity, hq, Option.elim_some]
  omega

/-! ## Closing -/

theorem contents_close (d : Dispatcher α) (i : Nat) : d.close.2.contents i = [] := by
  unfold close contents
  rw [List.getElem?_map]
  cases d.queues[i]? <;> rfl

end LteUe.Dispatcher
