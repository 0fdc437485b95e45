import LteUe.Proofs.Dispatcher.Fairness
import LteUe.Proofs.Dispatcher.Rejections
import Mathlib.Data.List.Nodup

/-!
# What holds of every dispatcher

Whatever is asked of a new dispatcher, and in whatever order, its queues are those that were registered, no
queue holds more than its capacity, the cursor stands at one of the queues, and nothing waits once it is
closed (`Dispatcher.Sound`, kept by every attempt). So the loop of a pop, which goes from the cursor once
around the queues, never divides by zero and never leaves the queues (`Dispatcher.sweep?_eq`), and it finds a
task whenever there is one (`Dispatcher.represented`).
-/

namespace LteUe.Dispatcher

variable {α : Type} {d d' : Dispatcher α} {t : List (Op α × Answer α)} {e : Op α × Answer α} {op : Op α}
  {r : Answer α} {q : QueueId} {a : α} {id : Nat}

/-- One attempt, with what was asked and what was answered. -/
def Performs (d : Dispatcher α) (e : Op α × Answer α) (d' : Dispatcher α) : Prop :=
  e.1.perform d = (e.2, d')

/-- The name and the capacity that a queue is registered with. -/
def Op.requested? : Op α → Option (String × Nat)
  | register name n => some (name, n)
  | _ => none

def Answer.issued? : Answer α → Option QueueId
  | issued q => some q
  | _ => none

/-- The names and capacities that were asked for, in order. -/
def requested (t : List (Op α × Answer α)) : List (String × Nat) := t.filterMap fun e => e.1.requested?

/-- The ids that were issued, in order. -/
def issued (t : List (Op α × Answer α)) : List QueueId := t.filterMap fun e => e.2.issued?

/-- The cursor stands at a queue, or at zero if there are none. -/
def CursorInRange (d : Dispatcher α) : Prop := d.cursor < d.queues.length ∨ d.queues = [] ∧ d.cursor = 0

/-! ## The loop of a pop -/

/-- The remainder of a division by `n`, which must not be zero. -/
def remainder? (i n : Nat) : Option Nat := if n = 0 then none else some (i % n)

/-- The loop of a pop over these offsets from the cursor. It ends with `none` where it would divide by zero
or look at a queue that there is not. -/
def sweep? (d : Dispatcher α) : List Nat → Option (Option (α × Dispatcher α))
  | [] => some none
  | k :: ks => do
    let i ← remainder? (d.cursor + k) d.queues.length
    let queue ← d.queues[i]?
    match queue.items with
    | [] => d.sweep? ks
    | a :: _ =>
      let cursor ← remainder? (i + 1) d.queues.length
      return some (a, { d.modifyQueue i (·.tail) with cursor := cursor })

theorem remainder?_eq {n : Nat} (hn : 0 < n) (i : Nat) : remainder? i n = some (i % n) := by
  apply if_neg
  omega

theorem popInTurn_eq (d : Dispatcher α) :
    d.popInTurn = d.serving?.bind fun i => (d.contents i).head?.map fun a => (a, d.serve i) := by
  simp only [popInTurn, head?_eq, serve]
  cases d.serving? with
  | none => rfl
  | some i =>
    simp only [Option.bind_eq_bind, Option.bind_some]
    cases (d.contents i).head? <;> rfl

theorem sweep?_eq_find? (hn : 0 < d.queues.length) (ks : List Nat) :
    d.sweep? ks = some (((ks.map fun k => (d.cursor + k) % d.queues.length).find? fun i =>
      (d.head? i).isSome).bind fun i => (d.contents i).head?.map fun a => (a, d.serve i)) := by
  induction ks with
  | nil => rfl
  | cons k ks ih =>
    have hi := Nat.mod_lt (d.cursor + k) hn
    have hq := List.getElem?_eq_getElem hi
    rw [sweep?, ih, remainder?_eq hn]
    simp only [hq, Option.bind_eq_bind, Option.bind_some, List.map_cons, List.find?_cons, head?_eq,
      contents_of_getElem? hq]
    cases hitems : d.queues[(d.cursor + k) % d.queues.length].items with
    | nil => rfl
    | cons a rest => simp [remainder?_eq hn, contents_of_getElem? hq, hitems, serve]

theorem sweep?_eq (d : Dispatcher α) : d.sweep? (List.range d.queues.length) = some d.popInTurn := by
  rw [popInTurn_eq]
  by_cases hn : 0 < d.queues.length
  · exact sweep?_eq_find? hn _
  · have h₀ : d.queues.length = 0 := by omega
    simp [serving?, scan, h₀, sweep?]

theorem scan_perm (d : Dispatcher α) : d.scan.Perm (List.range d.queues.length) := by
  rw [List.perm_ext_iff_of_nodup _ List.nodup_range]
  · intro i
    rw [List.mem_range]
    constructor
    · intro hi
      obtain ⟨k, hk, rfl⟩ := List.mem_map.1 hi
      apply Nat.mod_lt
      have := List.mem_range.1 hk
      omega
    · intro hi
      apply List.mem_map.2
      exact ⟨d.lag i, List.mem_range.2 (lag_lt hi), scan_lag hi⟩
  · apply List.Nodup.map_on _ List.nodup_range
    intro k hk l hl h
    rw [← lag_scan (List.mem_range.1 hk), ← lag_scan (List.mem_range.1 hl), h]

theorem isSome_popInTurn_iff : d.popInTurn.isSome = true ↔ ∃ queue ∈ d.queues, queue.items ≠ [] := by
  constructor
  · intro h
    obtain ⟨⟨a, d'⟩, h⟩ := Option.isSome_iff_exists.1 h
    obtain ⟨i, -, ha, -⟩ := popInTurn_eq_some_iff.1 h
    have hne : d.contents i ≠ [] := by
      intro hnil
      simp [hnil] at ha
    have hq := List.getElem?_eq_getElem (lt_length_of_contents hne)
    rw [contents_of_getElem? hq] at hne
    exact ⟨_, List.mem_of_getElem? hq, hne⟩
  · rintro ⟨queue, hq, hne⟩
    obtain ⟨i, hi⟩ := List.mem_iff_getElem?.1 hq
    rw [← contents_of_getElem? hi] at hne
    obtain ⟨j, hj⟩ := Option.ne_none_iff_exists'.1 (serving?_ne_none hne)
    obtain ⟨l, -, -, hj', -⟩ := serving?_eq_some_iff.1 hj
    rw [popInTurn_eq, hj, Option.bind_some, Option.isSome_map, List.isSome_head?]
    simpa using hj'

/-! ## One attempt -/

namespace Op

theorem Did.cursorInRange (h : Did d op r d') (hc : d.CursorInRange) : d'.CursorInRange := by
  unfold CursorInRange at hc ⊢
  cases h with
  | registered =>
    left
    obtain hc | ⟨hq, hc⟩ := hc
    · simp only [Dispatcher.register, List.length_append]
      omega
    · simp [Dispatcher.register, hq, hc]
  | pushed _ h =>
    obtain ⟨-, -, rfl⟩ := offer_eq_accepted_iff.1 h
    rw [← List.length_eq_zero_iff] at hc ⊢
    rwa [length_modifyQueue]
  | popped _ h =>
    left
    obtain ⟨i, hi, -, rfl⟩ := popInTurn_eq_some_iff.1 (tryPop_eq_some_iff.1 h).2
    rw [length_serve]
    apply Nat.mod_lt
    have := lt_length_of_serving hi
    omega
  | closed => simpa [Dispatcher.close] using hc
  | refused | parked | missed | looked => exact hc

theorem Did.tasks_eq_nil (h : Did d op r d') (ht : d.closed = true → d.tasks = []) (hc : d'.closed = true) :
    d'.tasks = [] := by
  cases h with
  | registered name capacity =>
    rw [tasks_register]
    exact ht hc
  | pushed _ h =>
    have ho := (offer_eq_accepted_iff.1 h).1
    rw [closed_of_accepted h, ho] at hc
    cases hc
  | popped _ h =>
    have ho := (tryPop_eq_some_iff.1 h).1
    obtain ⟨i, rfl⟩ := serve_of_tryPop h
    rw [show (d.serve i).closed = d.closed from rfl, ho] at hc
    cases hc
  | closed => exact tasks_eq_nil_iff.2 d.contents_close
  | refused | parked | missed | looked => exact ht hc

/-- Queues keep their names and capacities, and only a registration issues an id. -/
theorem Did.of_requested (h : Did d op r d') (hop : op.requested? = none) :
    d'.queues.map (fun q => (q.name, q.capacity)) = d.queues.map (fun q => (q.name, q.capacity)) ∧
      r.issued? = none := by
  cases h with
  | registered => simp [requested?] at hop
  | pushed _ h =>
    obtain ⟨-, -, rfl⟩ := offer_eq_accepted_iff.1 h
    refine ⟨?_, rfl⟩
    apply map_modifyQueue
    exact fun _ => rfl
  | popped _ h =>
    obtain ⟨i, rfl⟩ := serve_of_tryPop h
    refine ⟨?_, rfl⟩
    apply map_modifyQueue
    exact fun _ => rfl
  | closed => simp [Dispatcher.close, BoundedQueue.clear, Answer.issued?]
  | refused | parked | missed => exact ⟨rfl, rfl⟩
  | looked h =>
    refine ⟨rfl, ?_⟩
    cases r with
    | issued => exact h.elim
    | _ => rfl

end Op

/-! ## Every run -/

/-- What every attempt keeps of a dispatcher with the history `t`. -/
structure Sound (t : List (Op α × Answer α)) (d : Dispatcher α) : Prop where
  queues : d.queues.map (fun q => (q.name, q.capacity)) = (requested t).map fun r => (r.1, max 1 r.2)
  ids : issued t = (List.range d.queues.length).map (QueueId.mk d.id)
  bounded : d.Bounded
  cursor : d.CursorInRange
  closed : d.closed = true → d.tasks = []

theorem sound_empty (id : Nat) : Sound [] (empty id : Dispatcher α) := by
  constructor
  · rfl
  · rfl
  · exact bounded_empty id
  · exact .inr ⟨rfl, rfl⟩
  · simp [tasks, empty]

theorem Performs.did (h : Performs d (op, r) d') : Op.Did d op r d' := by
  have hd := op.did_perform d
  rwa [show op.perform d = (r, d') from h] at hd

theorem Sound.register (h : Sound t d) (name : String) (n : Nat) :
    Sound (t ++ [(.register name n, .issued (d.register name n).1)]) (d.register name n).2 := by
  have hd : Op.Did d (.register name n) _ _ := .registered name n
  refine ⟨?_, ?_, hd.bounded h.bounded, hd.cursorInRange h.cursor, hd.tasks_eq_nil h.closed⟩
  · rw [requested, filterMap_snoc, List.map_append]
    simp [Dispatcher.register, h.queues, requested, Op.requested?, Nat.max_comm]
  · rw [issued, filterMap_snoc]
    simp [Dispatcher.register, ← h.ids, issued, Answer.issued?, List.range_succ]

theorem Sound.step (h : Sound t d) (hs : Performs d e d') : Sound (t ++ [e]) d' := by
  obtain ⟨op, r⟩ := e
  have hd := hs.did
  cases hop : op.requested? with
  | none =>
    obtain ⟨hq, hr⟩ := hd.of_requested hop
    have hn : d'.queues.length = d.queues.length := by simpa using congrArg List.length hq
    refine ⟨?_, ?_, hd.bounded h.bounded, hd.cursorInRange h.cursor, hd.tasks_eq_nil h.closed⟩
    · rw [hq, h.queues, requested, requested, filterMap_snoc, hop]
      simp
    · rw [hn, hd.id, ← h.ids, issued, issued, filterMap_snoc, hr]
      simp
  | some requested =>
    obtain ⟨name, n, rfl⟩ : ∃ name n, op = .register name n := by
      cases op <;> simp [Op.requested?] at hop ⊢
    obtain ⟨rfl, rfl⟩ : Answer.issued (d.register name n).1 = r ∧ (d.register name n).2 = d' := Prod.mk.inj hs
    exact h.register name n

/-- What holds of a dispatcher with the history `t`. -/
structure Represented (t : List (Op α × Answer α)) (d : Dispatcher α) : Prop where
  /-- The queues are those that were registered, with room for one task at least. -/
  queues : d.queues.map (fun q => (q.name, q.capacity)) = (requested t).map fun r => (r.1, max 1 r.2)
  depths : ∀ queue ∈ d.queues, queue.items.length ≤ queue.capacity
  cursor : d.cursor < d.queues.length ∨ d.queues.length = 0 ∧ d.cursor = 0
  closed : d.closed = true → ∀ queue ∈ d.queues, queue.items = []
  /-- An id that was issued names a queue, and every queue has one of its own. -/
  exists_queue : ∀ q ∈ issued t, ∃ queue, d.queue? q = some queue
  indexes : (issued t).map (·.index) = List.range d.queues.length
  injective : ∀ q ∈ issued t, ∀ q' ∈ issued t, q ≠ q' → q.index ≠ q'.index
  /-- A pop comes to every queue once, divides by no zero, leaves the queues nowhere, and finds a task if
  there is one. -/
  scan : d.scan.Perm (List.range d.queues.length)
  sweep : d.sweep? (List.range d.queues.length) = some d.popInTurn
  finds : d.popInTurn.isSome = true ↔ ∃ queue ∈ d.queues, queue.items ≠ []
  /-- No push with an id that was issued is told that there is no such queue. -/
  known : ∀ q ∈ issued t, ∀ (op : Op α) a b, op.Pushes q a → (op.perform d).1 ≠ .refused (.unknownQueue b)

theorem Sound.exists_queue (h : Sound t d) (hq : q ∈ issued t) : ∃ queue, d.queue? q = some queue := by
  rw [h.ids] at hq
  obtain ⟨i, hi, rfl⟩ := List.mem_map.1 hq
  have hi := List.mem_range.1 hi
  exact ⟨_, queue?_eq_some_iff.2 ⟨rfl, List.getElem?_eq_getElem hi⟩⟩

theorem offer_ne_unknownQueue {queue : BoundedQueue α} (hq : d.queue? q = some queue) (a b : α) :
    d.offer q a ≠ .rejected (.unknownQueue b) := by
  intro h
  obtain ⟨-, h⟩ | ⟨-, h, -⟩ := offer_eq_rejected_iff.1 h
  · cases h
  · simp [hq] at h

theorem Op.Pushes.perform_ne_unknownQueue {queue : BoundedQueue α} (hop : op.Pushes q a)
    (hq : d.queue? q = some queue) (b : α) : (op.perform d).1 ≠ .refused (.unknownQueue b) := by
  have h := offer_ne_unknownQueue hq a b
  obtain rfl | rfl := hop
  · rw [perform_tryPush_fst]
    cases ho : d.offer q a <;> simp_all [Offer.answer]
  · rw [perform_push_fst]
    cases ho : d.offer q a <;> simp_all [Offer.answer]

theorem represented (h : Run Performs (empty id) t d) : Represented t d := by
  have hs : Sound t d := by
    induction h with
    | nil => exact sound_empty id
    | snoc _ h' ih => exact ih.step h'
  constructor
  · exact hs.queues
  · intro queue hq
    obtain ⟨i, hi⟩ := List.mem_iff_getElem?.1 hq
    exact hs.bounded i queue hi
  · simpa [CursorInRange] using hs.cursor
  · intro hc
    exact List.flatMap_eq_nil_iff.1 (hs.closed hc)
  · exact fun q hq => hs.exists_queue hq
  · rw [hs.ids, List.map_map]
    exact List.map_id _
  · intro q hq q' hq' hne hi
    rw [hs.ids] at hq hq'
    obtain ⟨i, -, rfl⟩ := List.mem_map.1 hq
    obtain ⟨j, -, rfl⟩ := List.mem_map.1 hq'
    apply hne
    rw [show i = j from hi]
  · exact d.scan_perm
  · exact d.sweep?_eq
  · exact isSome_popInTurn_iff
  · intro q hq op a b hop
    obtain ⟨queue, hq⟩ := hs.exists_queue hq
    exact hop.perform_ne_unknownQueue hq b

/-- A queue for no tasks has room for one. A second queue comes after a pop, when the cursor has come round,
and a third one after the close. -/
theorem represented_of_late_queues :
    let t : List (Op Nat × Answer Nat) := [(.register "a" 0, .issued ⟨3, 0⟩), (.tryPush ⟨3, 0⟩ 5, .pushed),
      (.push ⟨3, 0⟩ 6, .parked), (.pop, .popped (some 5)), (.register "b" 2, .issued ⟨3, 1⟩),
      (.push ⟨3, 1⟩ 7, .pushed), (.tryPop, .popped (some 7)), (.push ⟨3, 0⟩ 6, .pushed), (.close, .number 1),
      (.register "c" 9, .issued ⟨3, 2⟩), (.tryPush ⟨3, 2⟩ 8, .refused (.closed 8))]
    ∃ d, Run Performs (empty 3) t d ∧ Represented t d := by
  intro t
  have h : ∃ d, Run Performs (empty 3) t d :=
    ⟨_, .cons rfl <| .cons rfl <| .cons rfl <| .cons rfl <| .cons rfl <| .cons rfl <| .cons rfl <|
      .cons rfl <| .cons rfl <| .cons rfl <| .cons rfl .nil⟩
  obtain ⟨d, h⟩ := h
  exact ⟨d, h, represented h⟩

end LteUe.Dispatcher
