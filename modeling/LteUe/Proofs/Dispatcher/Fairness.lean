import LteUe.Proofs.Dispatcher.Traffic
import LteUe.Stack.Shared

/-!
# Fairness

The scan for the next task goes around the queues. How many of them it meets before the `i`-th one is
`Dispatcher.lag`. A pop from another queue makes the lag smaller while the `i`-th queue holds a task,
and a pop from the `i`-th queue itself makes it as large as it can be, one less than the number `n` of
queues. So a task with `k` tasks ahead of it is among the next `(k + 1) * n` popped tasks, and between
two pops from one queue no other queue has more than one turn.
-/

namespace LteUe

variable {α : Type}

namespace Dispatcher

variable {d d' : Dispatcher α} {i j k : Nat} {a : α}

/-! ## The lag of a queue -/

/-- How many queues the scan meets before the `i`-th one. -/
def lag (d : Dispatcher α) (i : Nat) : Nat :=
  (i + (d.queues.length - d.cursor % d.queues.length)) % d.queues.length

theorem lag_lt (hi : i < d.queues.length) : d.lag i < d.queues.length :=
  Nat.mod_lt _ (Nat.zero_lt_of_lt hi)

theorem lag_eq (hi : i < d.queues.length) :
    d.lag i = if d.cursor % d.queues.length ≤ i then i - d.cursor % d.queues.length
      else i + d.queues.length - d.cursor % d.queues.length := by
  have hc := Nat.mod_lt d.cursor (Nat.zero_lt_of_lt hi)
  unfold lag
  split
  · have h : i + (d.queues.length - d.cursor % d.queues.length) =
        i - d.cursor % d.queues.length + d.queues.length := by omega
    rw [h, Nat.add_mod_right]
    exact Nat.mod_eq_of_lt (by omega)
  · rw [Nat.mod_eq_of_lt (by omega)]
    omega

theorem lag_scan {l : Nat} (hl : l < d.queues.length) :
    d.lag ((d.cursor + l) % d.queues.length) = l := by
  have hc := Nat.mod_lt d.cursor (Nat.zero_lt_of_lt hl)
  rw [lag_eq (Nat.mod_lt _ (Nat.zero_lt_of_lt hl)), Nat.add_mod_eq_ite, Nat.mod_eq_of_lt hl]
  split <;> split <;> omega

theorem scan_lag (hi : i < d.queues.length) : (d.cursor + d.lag i) % d.queues.length = i := by
  have hc := Nat.mod_lt d.cursor (Nat.zero_lt_of_lt hi)
  rw [Nat.add_mod_eq_ite, Nat.mod_eq_of_lt (lag_lt hi), lag_eq hi]
  split <;> split <;> omega

theorem lag_le_of_serving (h : d.serving? = some j) (hi : d.contents i ≠ []) :
    d.lag j ≤ d.lag i := by
  obtain ⟨l, hl, rfl, -, hlt⟩ := serving?_eq_some_iff.1 h
  rw [lag_scan hl]
  by_contra hlag
  have h := hlt _ (Nat.lt_of_not_le hlag)
  rw [scan_lag (lt_length_of_contents hi)] at h
  exact hi h

theorem serving?_ne_none (hi : d.contents i ≠ []) : d.serving? ≠ none := by
  intro h
  have hn := lt_length_of_contents hi
  have hm : i ∈ d.scan := List.mem_map.2 ⟨d.lag i, List.mem_range.2 (lag_lt hn), scan_lag hn⟩
  have := List.find?_eq_none.1 h i hm
  rw [head?_eq] at this
  exact hi (by simpa using this)

theorem lt_length_of_serving (h : d.serving? = some j) : j < d.queues.length := by
  obtain ⟨l, hl, rfl, -⟩ := serving?_eq_some_iff.1 h
  exact Nat.mod_lt _ (Nat.zero_lt_of_lt hl)

theorem lag_inj (hi : i < d.queues.length) (hj : j < d.queues.length) (h : d.lag i = d.lag j) :
    i = j := by
  rw [← scan_lag hi, ← scan_lag hj, h]

theorem length_serve (d : Dispatcher α) (j : Nat) :
    (d.serve j).queues.length = d.queues.length := length_modifyQueue ..

theorem cursor_serve (hj : j < d.queues.length) :
    (d.serve j).cursor % (d.serve j).queues.length =
      if j + 1 < d.queues.length then j + 1 else 0 := by
  have hs : (d.serve j).cursor = (j + 1) % d.queues.length := rfl
  rw [hs, length_serve, Nat.mod_mod]
  split
  · exact Nat.mod_eq_of_lt ‹_›
  · have hj : j + 1 = d.queues.length := by omega
    rw [hj, Nat.mod_self]

theorem lag_serve_self (hi : i < d.queues.length) :
    (d.serve i).lag i = d.queues.length - 1 := by
  rw [lag_eq (by rwa [length_serve]), cursor_serve hi, length_serve]
  split <;> split <;> omega

/-- A queue that the scan meets behind the served one gets nearer by all that the scan has met. -/
theorem lag_serve_of_lt (hi : i < d.queues.length) (hj : j < d.queues.length)
    (h : d.lag j < d.lag i) : (d.serve j).lag i + d.lag j + 1 = d.lag i := by
  have hc := Nat.mod_lt d.cursor (Nat.zero_lt_of_lt hi)
  rw [lag_eq hi, lag_eq hj] at h ⊢
  rw [lag_eq (by rwa [length_serve]), cursor_serve hj, length_serve]
  split at h <;> split at h <;> split <;> split <;> omega

theorem lag_congr (hc : d'.cursor = d.cursor) (hn : d'.queues.length = d.queues.length) :
    d'.lag i = d.lag i := by
  rw [lag, lag, hc, hn]

/-- How many tasks may be popped before the task at place `k` of the `i`-th queue: the lag of the queue,
and a turn of all queues for every task ahead. -/
def rank (d : Dispatcher α) (i k : Nat) : Nat := d.lag i + k * d.queues.length

theorem rank_lt (hi : i < d.queues.length) (k : Nat) : d.rank i k < (k + 1) * d.queues.length := by
  have := lag_lt hi
  rw [rank, Nat.succ_mul]
  omega

/-- When a queue is served, its tasks move up by one place, and each of them gets nearer. -/
theorem rank_serve_self (hi : i < d.queues.length) (k : Nat) :
    (d.serve i).rank i k < d.rank i (k + 1) := by
  rw [rank, rank, lag_serve_self hi, length_serve, Nat.succ_mul]
  omega

/-- When another queue is served, the tasks of this one get nearer. -/
theorem rank_serve_of_ne (hj : d.serving? = some j) (hi : d.contents i ≠ []) (hne : j ≠ i) (k : Nat) :
    (d.serve j).rank i k < d.rank i k := by
  have hin := lt_length_of_contents hi
  have hjn := lt_length_of_serving hj
  have hlt : d.lag j < d.lag i :=
    Nat.lt_of_le_of_ne (lag_le_of_serving hj hi) fun h => hne (lag_inj hjn hin h)
  have := lag_serve_of_lt hin hjn hlt
  rw [rank, rank, length_serve]
  omega

end Dispatcher

namespace Traffic

variable {x y s : Traffic α} {e : Event α} {t l m : List (Event α)} {d d' : Dispatcher α}
  {i j k b b' : Nat} {a : α}

/-! ## Steps that push or pop -/

/-- Whether an event is about a push or a pop. -/
def Event.isTransfer : Event α → Bool
  | registered _ | closed _ => false
  | _ => true

theorem Effect.of_popped {c : α} (h : Effect d (.popped j c) d') :
    d.serving? = some j ∧ (d.contents j).head? = some c ∧ d' = d.serve j := by
  cases h
  exact ⟨‹_›, ‹_›, rfl⟩

theorem Effect.length_eq (h : Effect d e d') (he : e.isTransfer = true) :
    d'.queues.length = d.queues.length := by
  cases h with
  | accept h => exact (Dispatcher.frame_of_accepted h).1
  | pop => exact d.length_serve _
  | register | close => simp [Event.isTransfer] at he
  | reject | park | miss | wait => rfl

theorem Effect.isOpen (h : Effect d e d') (he : e.isTransfer = true) (ho : d.closed = false) :
    d'.closed = false := by
  rw [← Bool.not_eq_true, h.closed_iff]
  cases e <;> simp_all [Event.isTransfer, Event.isClosed]

theorem Effect.lag_eq (h : Effect d e d') (he : e.isTransfer = true) (hp : e.popped? = none) :
    d'.lag i = d.lag i := by
  refine Dispatcher.lag_congr ?_ (h.length_eq he)
  cases h with
  | accept h => exact (Dispatcher.frame_of_accepted h).2.1
  | register | close => simp [Event.isTransfer] at he
  | pop => simp [Event.popped?] at hp
  | reject | park | miss | wait => rfl

/-- A task keeps its place until something is popped from its queue. -/
theorem Effect.getElem?_eq (h : Effect d e d') (he : e.isTransfer = true)
    (hp : e.poppedFrom? i = none) (hk : (d.contents i)[k]? = some a) :
    (d'.contents i)[k]? = some a := by
  have hc : e.isClosed = false := by cases e <;> simp_all [Event.isTransfer, Event.isClosed]
  have hh := h.history hc i
  rw [hp] at hh
  have hd : d'.contents i = d.contents i ++ (e.acceptedOn? i).toList := hh.symm
  rw [hd, List.getElem?_append_left (List.getElem?_eq_some_iff.1 hk).1]
  exact hk

theorem Effect.contents_ne_nil (h : Effect d e d') (he : e.isTransfer = true)
    (hp : e.poppedFrom? i = none) (hi : d.contents i ≠ []) : d'.contents i ≠ [] := by
  intro hnil
  have := h.getElem?_eq he hp (List.getElem?_eq_getElem (List.length_pos_iff.2 hi))
  simp [hnil] at this

theorem Step.finds (h : Step x e y) (ho : x.dispatcher.closed = false)
    (hi : x.dispatcher.contents i ≠ []) : e ≠ .missed ∧ e ≠ .waited := by
  obtain ⟨j, hj⟩ := Option.ne_none_iff_exists'.1 (Dispatcher.serving?_ne_none hi)
  obtain ⟨c, hc⟩ : ∃ c, (x.dispatcher.contents j).head? = some c := by
    obtain ⟨l, -, -, hne, -⟩ := Dispatcher.serving?_eq_some_iff.1 hj
    exact ⟨_, List.head?_eq_some_head hne⟩
  have hpop : x.dispatcher.tryPop = some (c, x.dispatcher.serve j) :=
    Dispatcher.tryPop_eq_some_iff.2 ⟨ho, Dispatcher.popInTurn_eq_some_iff.2 ⟨j, hj, hc, rfl⟩⟩
  have hnext := Dispatcher.next_eq_task_iff.2 hpop
  cases h <;> simp_all

/-! ## A task gets its turn -/

/-- Among the events `t`, the task `a` is popped from the `i`-th queue after `k` other tasks of this
queue and fewer than `b` other tasks in all, and no pop before that misses. -/
def PoppedWithin (t : List (Event α)) (i : Nat) (a : α) (k b : Nat) : Prop :=
  ∃ before after, t = before ++ .popped i a :: after ∧ (poppedIn before).length < b ∧
    (poppedFrom i before).length = k ∧ ∀ e ∈ before, e ≠ .missed ∧ e ≠ .waited

theorem PoppedWithin.mono (h : PoppedWithin t i a k b) (hb : b ≤ b') : PoppedWithin t i a k b' := by
  obtain ⟨l, r, ht, hl, hk, he⟩ := h
  exact ⟨l, r, ht, Nat.lt_of_lt_of_le hl hb, hk, he⟩

theorem PoppedWithin.cons (h : PoppedWithin t i a k b) (he : e ≠ .missed ∧ e ≠ .waited) :
    PoppedWithin (e :: t) i a ((e.poppedFrom? i).toList.length + k)
      (e.popped?.toList.length + b) := by
  obtain ⟨l, r, rfl, hl, rfl, hl'⟩ := h
  refine ⟨e :: l, r, rfl, ?_, ?_, ?_⟩
  · rw [poppedIn_cons, List.length_append]
    omega
  · rw [poppedFrom_cons, List.length_append]
  · intro e' h
    rcases List.mem_cons.1 h with rfl | h
    · exact he
    · exact hl' e' h

/-- In one step a task is popped, or it stays in its queue and its rank falls with every pop. -/
theorem Step.rank (h : Step x e y) (he : e.isTransfer = true)
    (hk : (x.dispatcher.contents i)[k]? = some a) :
    e = .popped i a ∧ k = 0 ∨
      ∃ k', (y.dispatcher.contents i)[k']? = some a ∧ (e.poppedFrom? i).toList.length + k' = k ∧
        e.popped?.toList.length + y.dispatcher.rank i k' ≤ x.dispatcher.rank i k := by
  have hne : x.dispatcher.contents i ≠ [] := by
    intro hnil
    simp [hnil] at hk
  cases hp : e.popped? with
  | none =>
    have hpi : e.poppedFrom? i = none := by
      cases e <;> simp_all [Event.popped?, Event.poppedFrom?]
    refine .inr ⟨k, h.effect.getElem?_eq he hpi hk, by simp [hpi], ?_⟩
    rw [Dispatcher.rank, Dispatcher.rank, h.effect.lag_eq he hp, h.effect.length_eq he]
    simp
  | some c =>
    obtain ⟨j, rfl⟩ : ∃ j, e = .popped j c := by
      cases e <;> simp_all [Event.popped?]
    obtain ⟨hj, hc, hy⟩ := h.effect.of_popped
    rw [hy]
    -- a pop from its own queue takes the task or moves it up, any other brings the scan nearer
    by_cases hji : j = i
    · subst hji
      obtain ⟨rest, hr⟩ := List.head?_eq_some_iff.1 hc
      cases k with
      | zero =>
        obtain rfl : c = a := by simpa [hr] using hk
        exact .inl ⟨rfl, rfl⟩
      | succ k =>
        have hi := Dispatcher.lt_length_of_contents hne
        refine .inr ⟨k, ?_, by simp [Event.poppedFrom?, Nat.add_comm], ?_⟩
        · rw [Dispatcher.contents_serve, if_pos rfl, hr]
          simpa [hr] using hk
        · have := Dispatcher.rank_serve_self hi k
          simp only [Option.toList_some, List.length_singleton]
          omega
    · have hpi : (Event.popped j c).poppedFrom? i = none := by simp [Event.poppedFrom?, hji]
      refine .inr ⟨k, ?_, by simp [hpi], ?_⟩
      · rw [Dispatcher.contents_serve, if_neg hji]
        exact hk
      · have := Dispatcher.rank_serve_of_ne hj hne hji k
        simp only [Option.toList_some, List.length_singleton]
        omega

/-- The rank of a task bounds how many others are popped before it. -/
theorem poppedWithin (h : Run Step x t s) (ht : ∀ e ∈ t, e.isTransfer = true)
    (ho : x.dispatcher.closed = false) (hk : (x.dispatcher.contents i)[k]? = some a)
    (hn : x.dispatcher.rank i k < (poppedIn t).length) :
    PoppedWithin t i a k (x.dispatcher.rank i k + 1) := by
  induction t generalizing x k with
  | nil => simp at hn
  | cons e t ih =>
    obtain ⟨y, h₁, h₂⟩ := run_cons_iff.1 h
    have hte := ht e (by simp)
    have htt : ∀ e ∈ t, e.isTransfer = true := fun e h => ht e (List.mem_cons_of_mem _ h)
    have hne : x.dispatcher.contents i ≠ [] := by
      intro hnil
      simp [hnil] at hk
    obtain ⟨rfl, rfl⟩ | ⟨k', hk', rfl, hr⟩ := h₁.rank hte hk
    · exact ⟨[], t, rfl, by simp, by simp, by simp⟩
    · rw [poppedIn_cons, List.length_append] at hn
      have h := ih h₂ htt (h₁.effect.isOpen hte ho) hk' (by omega)
      exact (h.cons (h₁.finds ho hne)).mono (by omega)

/-! ## Nobody else gets two turns -/

/-- While a queue holds a task and is not served, no queue behind it in the scan is served, and it stays
behind. -/
theorem Effect.behind (h : Effect d e d') (he : e.isTransfer = true) (hi : d.contents i ≠ [])
    (hp : e.poppedFrom? i = none) (hj : j < d.queues.length) (hlag : d.lag i < d.lag j) :
    e.poppedFrom? j = none ∧ d'.lag i < d'.lag j := by
  cases hpe : e.popped? with
  | none =>
    refine ⟨by cases e <;> simp_all [Event.popped?, Event.poppedFrom?], ?_⟩
    rwa [h.lag_eq he hpe, h.lag_eq he hpe]
  | some c =>
    obtain ⟨m, rfl⟩ : ∃ m, e = .popped m c := by
      cases e <;> simp_all [Event.popped?]
    obtain ⟨hm, -, rfl⟩ := h.of_popped
    have hin := Dispatcher.lt_length_of_contents hi
    have hmn := Dispatcher.lt_length_of_serving hm
    have hle := Dispatcher.lag_le_of_serving hm hi
    have hmi : m ≠ i := by
      rintro rfl
      simp [Event.poppedFrom?] at hp
    have hmj : m ≠ j := by
      rintro rfl
      omega
    have hlt : d.lag m < d.lag i :=
      Nat.lt_of_le_of_ne hle fun h => hmi (Dispatcher.lag_inj hmn hin h)
    have h₁ := Dispatcher.lag_serve_of_lt hin hmn hlt
    have h₂ := Dispatcher.lag_serve_of_lt hj hmn (Nat.lt_trans hlt hlag)
    exact ⟨by simp [Event.poppedFrom?, hmj], by omega⟩

theorem poppedFrom_eq_nil (h : Run Step x t s) (ht : ∀ e ∈ t, e.isTransfer = true)
    (hi : x.dispatcher.contents i ≠ []) (hti : poppedFrom i t = [])
    (hj : j < x.dispatcher.queues.length) (hlag : x.dispatcher.lag i < x.dispatcher.lag j) :
    poppedFrom j t = [] := by
  induction t generalizing x with
  | nil => rfl
  | cons e t ih =>
    obtain ⟨y, h₁, h₂⟩ := run_cons_iff.1 h
    have hte := ht e (by simp)
    simp only [poppedFrom_cons, List.append_eq_nil_iff, Option.toList_eq_nil_iff] at hti ⊢
    obtain ⟨hpj, hlag⟩ := h₁.effect.behind hte hi hti.1 hj hlag
    refine ⟨hpj, ih h₂ (fun e h => ht e (List.mem_cons_of_mem _ h)) ?_ hti.2 ?_ hlag⟩
    · exact h₁.effect.contents_ne_nil hte hti.1 hi
    · rwa [h₁.effect.length_eq hte]

/-- While a queue holds a task and is not served, every other queue is served at most once: then it
stands behind. -/
theorem length_poppedFrom_le (h : Run Step x t s) (ht : ∀ e ∈ t, e.isTransfer = true)
    (hi : x.dispatcher.contents i ≠ []) (hti : poppedFrom i t = []) (hji : j ≠ i) :
    (poppedFrom j t).length ≤ 1 := by
  induction t generalizing x with
  | nil => simp
  | cons e t ih =>
    obtain ⟨y, h₁, h₂⟩ := run_cons_iff.1 h
    have hte := ht e (by simp)
    have htt : ∀ e ∈ t, e.isTransfer = true := fun e h => ht e (List.mem_cons_of_mem _ h)
    simp only [poppedFrom_cons, List.append_eq_nil_iff, Option.toList_eq_nil_iff] at hti ⊢
    have hiy := h₁.effect.contents_ne_nil hte hti.1 hi
    cases hp : e.poppedFrom? j with
    | none =>
      have := ih h₂ htt hiy hti.2
      simpa using this
    | some c =>
      obtain rfl : e = .popped j c := by
        cases e <;> simp_all [Event.poppedFrom?]
      obtain ⟨hj, -, hy⟩ := h₁.effect.of_popped
      have hjn := Dispatcher.lt_length_of_serving hj
      have hlen := h₁.effect.length_eq hte
      have hin := Dispatcher.lt_length_of_contents hiy
      have hlj : y.dispatcher.lag j = y.dispatcher.queues.length - 1 := by
        rw [hlen, hy]
        exact Dispatcher.lag_serve_self hjn
      have hne : y.dispatcher.lag i ≠ y.dispatcher.lag j := fun h =>
        hji (Dispatcher.lag_inj hin (hlen ▸ hjn) h).symm
      have hlt : y.dispatcher.lag i < y.dispatcher.lag j := by
        have := Dispatcher.lag_lt hin
        omega
      rw [poppedFrom_eq_nil h₂ htt hiy hti.2 (hlen ▸ hjn) hlt]
      simp

/-! ## The theorem -/

theorem length_eq (h : Run Step x t s) (ht : ∀ e ∈ t, e.isTransfer = true) :
    s.dispatcher.queues.length = x.dispatcher.queues.length := by
  induction h with
  | nil => rfl
  | snoc _ h' ih =>
    rw [h'.effect.length_eq (ht _ (by simp))]
    exact ih fun e he => ht e (List.mem_append_left _ he)

theorem isOpen (h : Run Step x t s) (ht : ∀ e ∈ t, e.isTransfer = true)
    (ho : x.dispatcher.closed = false) : s.dispatcher.closed = false := by
  induction h with
  | nil => exact ho
  | snoc _ h' ih =>
    exact h'.effect.isOpen (ht _ (by simp)) (ih fun e he => ht e (List.mem_append_left _ he))

theorem poppedWithin_turns (h : Run Step x t s) (ht : ∀ e ∈ t, e.isTransfer = true)
    (ho : x.dispatcher.closed = false) (hk : (x.dispatcher.contents i)[k]? = some a)
    (hn : (k + 1) * x.dispatcher.queues.length ≤ (poppedIn t).length) :
    PoppedWithin t i a k ((k + 1) * x.dispatcher.queues.length) := by
  have hi : i < x.dispatcher.queues.length := by
    apply Dispatcher.lt_length_of_contents
    intro hnil
    simp [hnil] at hk
  have hr := Dispatcher.rank_lt hi k
  exact (poppedWithin h ht ho hk (by omega)).mono hr

/-- The dispatcher of a new stack, which nobody uses yet. -/
def ofStack (κ : Type) (c : StackConfig) : Traffic Task where
  dispatcher := (Shared.ofConfig c : Shared κ).dispatcher

/-- From any open state `x` let producers and the consumer push and pop as they like. With `n` queues,
a task that has `k` others ahead of it in its queue is among the next `(k + 1) * n` popped tasks, and
no pop before it misses. Between two pops from a queue that is never empty meanwhile, every other
queue is served at most once. In a stack, which has six queues, a control task with `k` others ahead
of it comes after fewer than `6 * (k + 1)` other tasks. -/
theorem fairness (h : Run Step x t s) (ho : x.dispatcher.closed = false)
    (ht : ∀ e ∈ t, e.isTransfer = true) :
    (∀ i k a, (x.dispatcher.contents i)[k]? = some a →
      (k + 1) * x.dispatcher.queues.length ≤ (poppedIn t).length →
      PoppedWithin t i a k ((k + 1) * x.dispatcher.queues.length)) ∧
    (∀ l i a m b r, t = l ++ .popped i a :: (m ++ .popped i b :: r) → poppedFrom i m = [] →
      (∀ m₁ m₂ y, m = m₁ ++ m₂ → Run Step x (l ++ .popped i a :: m₁) y →
        y.dispatcher.contents i ≠ []) →
      ∀ j, j ≠ i → (poppedFrom j m).length ≤ 1) ∧
    (∀ κ c l m y z, Run Step (ofStack κ c) l y → Run Step y m z →
      (∀ e ∈ l ++ m, e.isTransfer = true) →
      ∀ k a, (y.dispatcher.contents QueueKind.control.index)[k]? = some a →
        6 * (k + 1) ≤ (poppedIn m).length →
        PoppedWithin m QueueKind.control.index a k (6 * (k + 1))) := by
  refine ⟨fun i k a hk hn => poppedWithin_turns h ht ho hk hn, ?_, ?_⟩
  · rintro l i a m b r rfl hm hne j hj
    obtain ⟨y, h₁, h₂⟩ := run_append_iff.1 h
    obtain ⟨z, h₂, h₃⟩ := run_cons_iff.1 h₂
    obtain ⟨w, h₃, -⟩ := run_append_iff.1 h₃
    have hz := hne [] m z rfl (h₁.append (run_singleton_iff.2 h₂))
    exact length_poppedFrom_le h₃ (fun e he => ht e (by simp [he])) hz hm hj
  · intro κ c l m y z hl hm hlm k a hk hn
    have htl : ∀ e ∈ l, e.isTransfer = true := fun e he => hlm e (List.mem_append_left _ he)
    have htm : ∀ e ∈ m, e.isTransfer = true := fun e he => hlm e (List.mem_append_right _ he)
    have hlen : y.dispatcher.queues.length = 6 := length_eq hl htl
    have hy := poppedWithin_turns hm htm (isOpen hl htl rfl) hk
    rw [hlen, Nat.mul_comm] at hy
    exact hy hn

theorem step_serve (hc : x.dispatcher.closed = false) (hj : x.dispatcher.serving? = some j)
    (ha : (x.dispatcher.contents j).head? = some a) :
    Step x (.popped j a) { x with dispatcher := x.dispatcher.serve j, consumerWaits := false } :=
  .pop hj (Dispatcher.next_eq_task_iff.2 (Dispatcher.tryPop_eq_some_iff.2
    ⟨hc, Dispatcher.popInTurn_eq_some_iff.2 ⟨j, hj, ha, rfl⟩⟩))

/-- Two queues, the other one fed meanwhile: the task behind the first one of its queue is among the
next four. -/
theorem fairness_of_fed_queue :
    let x : Traffic Nat :=
      { dispatcher := { id := 0, queues := [⟨"a", 4, [10, 11]⟩, ⟨"b", 4, [20, 22]⟩] } }
    let t : List (Event Nat) :=
      [.popped 0 10, .accepted 3 ⟨0, 1⟩ 21, .popped 1 20, .popped 0 11, .popped 1 22]
    ∃ s, Run Step x t s ∧ PoppedWithin t 0 11 1 4 := by
  intro x t
  have h : ∃ s, Run Step x t s :=
    ⟨_, .cons (step_serve rfl rfl rfl) <| .cons (.push (.inl rfl) rfl) <|
      .cons (step_serve rfl (by decide) rfl) <| .cons (step_serve rfl (by decide) rfl) <|
      .cons (step_serve rfl (by decide) rfl) .nil⟩
  obtain ⟨s, h⟩ := h
  have ht : ∀ e ∈ t, e.isTransfer = true := by simp [t, Event.isTransfer]
  exact ⟨s, h, (fairness h rfl ht).1 0 1 11 rfl (by decide)⟩

end Traffic

end LteUe
