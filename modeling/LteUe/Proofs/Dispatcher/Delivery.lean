import LteUe.Proofs.Dispatcher.Traffic

/-!
# Delivery

While a dispatcher is open, what was accepted on a queue is what was popped from it, then what waits in
it. The first close drops exactly the tasks that wait, and from then on the dispatcher is spent:
nothing enters it and nothing leaves it. So every accepted task is popped once, dropped once, or still
waits, and a rejected task goes back to the producer that offered it.
-/

namespace LteUe

variable {α : Type}

namespace Dispatcher

variable {d d' : Dispatcher α}

/-- A dispatcher that is closed and holds nothing, and what its operations answer. -/
structure IsSpent (d : Dispatcher α) : Prop where
  /-- It is closed. -/
  closed : d.closed = true
  /-- No queue holds a task. -/
  contents (i : Nat) : d.contents i = []
  /-- A pop that does not wait gets nothing. -/
  tryPop : d.tryPop = none
  /-- A pop that may wait ends without a task. -/
  next : d.next = .closed
  /-- A push that may wait gets its own task back. -/
  offer (q : QueueId) (a : α) : d.offer q a = .rejected (.closed a)
  /-- A push that does not wait gets its own task back. -/
  tryPush (q : QueueId) (a : α) : d.tryPush q a = .error (.closed a)
  /-- Closing again drops nothing. -/
  close : d.close.1 = []

theorem isSpent (hc : d.closed = true) (h : ∀ i, d.contents i = []) : d.IsSpent where
  closed := hc
  contents := h
  tryPop := by simp [Dispatcher.tryPop, hc]
  next := next_eq_closed_iff.2 hc
  offer q a := offer_eq_rejected_iff.2 (.inl ⟨hc, rfl⟩)
  tryPush q a := tryPush_eq_error_iff.2 (.inl (offer_eq_rejected_iff.2 (.inl ⟨hc, rfl⟩)))
  close := tasks_eq_nil_iff.2 h

theorem isSpent_close (d : Dispatcher α) : d.close.2.IsSpent := isSpent rfl d.contents_close

end Dispatcher

namespace Traffic

variable {x y s : Traffic α} {e : Event α} {t l m : List (Event α)} {d d' : Dispatcher α}

/-! ## Histories of runs -/

theorem contents_start (id i : Nat) : (start id : Traffic α).dispatcher.contents i = [] := rfl

theorem closed_iff (h : Run Step x t s) :
    s.dispatcher.closed = true ↔
      x.dispatcher.closed = true ∨ ∃ e ∈ t, e.isClosed = true := by
  induction h with
  | nil => simp
  | snoc _ h' ih =>
    rw [h'.effect.closed_iff, ih, or_assoc]
    simp [or_and_right, exists_or]

theorem Effect.history_snoc {b : List α} {i : Nat} (h : Effect d e d') (he : e.isClosed = false)
    (hl : b ++ acceptedOn i l = poppedFrom i l ++ d.contents i) :
    b ++ acceptedOn i (l ++ [e]) = poppedFrom i (l ++ [e]) ++ d'.contents i := by
  have he := h.history he i
  simp only [acceptedOn_append, poppedFrom_append, acceptedOn_cons, poppedFrom_cons, acceptedOn_nil,
    poppedFrom_nil, List.append_nil]
  rw [← List.append_assoc, hl, List.append_assoc, he, List.append_assoc]

/-- What waits in a queue and what is accepted on it while nobody closes the dispatcher is popped from
it, or waits in it at the end, in the same order. -/
theorem history (h : Run Step x t s) (ht : ∀ e ∈ t, e.isClosed = false) (i : Nat) :
    x.dispatcher.contents i ++ acceptedOn i t =
      poppedFrom i t ++ s.dispatcher.contents i := by
  induction h with
  | nil => simp [acceptedOn, poppedFrom]
  | @snoc l y z e _ h' ih =>
    exact h'.effect.history_snoc (ht e (by simp)) (ih fun e he => ht e (List.mem_append_left _ he))

theorem Effect.conserves_snoc {b : List α} (h : Effect d e d')
    (hl : (b ++ acceptedIn l).Perm (poppedIn l ++ droppedIn l ++ d.tasks)) :
    (b ++ acceptedIn (l ++ [e])).Perm (poppedIn (l ++ [e]) ++ droppedIn (l ++ [e]) ++ d'.tasks) := by
  have he := h.conserves
  simp only [acceptedIn_append, poppedIn_append, droppedIn_append, acceptedIn_cons, poppedIn_cons,
    droppedIn_cons, acceptedIn_nil, poppedIn_nil, droppedIn_nil, List.append_nil]
  rw [← List.append_assoc]
  -- The tasks that wait before the step are those of `hl`; the step passes them on as `he` says.
  refine (hl.append_right _).trans ?_
  rw [List.append_assoc]
  refine (he.append_left _).trans ?_
  simp only [List.append_assoc]
  refine List.Perm.append_left _ ?_
  simp only [← List.append_assoc]
  exact (List.perm_append_comm.append_right _).append_right _

theorem conserves (h : Run Step x t s) :
    (x.dispatcher.tasks ++ acceptedIn t).Perm
      (poppedIn t ++ droppedIn t ++ s.dispatcher.tasks) := by
  induction h with
  | nil => simp [acceptedIn, poppedIn, droppedIn]
  | snoc _ h' ih => exact h'.effect.conserves_snoc ih

/-! ## After the close -/

theorem Effect.isSpent (h : Effect d e d') (hd : d.IsSpent) : e.Spent ∧ d'.IsSpent := by
  cases h with
  | register name capacity =>
    refine ⟨trivial, Dispatcher.isSpent hd.closed fun i => ?_⟩
    rw [Dispatcher.contents_register]
    exact hd.contents i
  | accept h =>
    rw [hd.offer] at h
    cases h
  | reject _ h => exact ⟨h hd.closed, hd⟩
  | park h => simp [hd.closed] at h
  | pop h => simp [hd.closed] at h
  | miss => exact ⟨trivial, hd⟩
  | wait h => simp [hd.closed] at h
  | close => exact ⟨hd.close, d.isSpent_close⟩

theorem isSpent (h : Run Step x t s) (hx : x.dispatcher.IsSpent) :
    (∀ e ∈ t, e.Spent) ∧ s.dispatcher.IsSpent := by
  induction h with
  | nil => exact ⟨by simp, hx⟩
  | snoc _ h' ih =>
    obtain ⟨he, hs⟩ := h'.effect.isSpent ih.2
    refine ⟨fun e' h => ?_, hs⟩
    rcases List.mem_append.1 h with h | h
    · exact ih.1 e' h
    · exact List.mem_singleton.1 h ▸ he

theorem acceptedOn_of_spent (h : ∀ e ∈ t, e.Spent) (i : Nat) : acceptedOn i t = [] := by
  apply List.filterMap_eq_nil_iff.2
  intro e he
  have := h e he
  cases e <;> simp_all [Event.Spent, Event.acceptedOn?]

theorem poppedFrom_of_spent (h : ∀ e ∈ t, e.Spent) (i : Nat) : poppedFrom i t = [] := by
  apply List.filterMap_eq_nil_iff.2
  intro e he
  have := h e he
  cases e <;> simp_all [Event.Spent, Event.poppedFrom?]

/-! ## Producers that wait -/

/-- The push that an event is about. -/
def Event.push? : Event α → Option (Nat × QueueId × α)
  | accepted p q a | rejected p q a _ | parked p q a => some (p, q, a)
  | _ => none

variable {p : Nat} {q : QueueId} {a : α}

theorem Step.waiting_of_parked (h : Step x (.parked p q a) y) : y.waiting p = some (q, a) := by
  cases h
  simp

theorem Step.waiting_eq (h : Step x e y) (hp : e.producer? ≠ some p) :
    y.waiting p = x.waiting p := by
  cases h <;> simp_all [Event.producer?, Function.update_of_ne, Ne.symm]

theorem waiting_eq (h : Run Step x t s) (hp : ∀ e ∈ t, e.producer? ≠ some p) :
    s.waiting p = x.waiting p := by
  induction h with
  | nil => rfl
  | @snoc l y z e _ h' ih =>
    rw [h'.waiting_eq (hp e (by simp))]
    exact ih fun e he => hp e (List.mem_append_left _ he)

/-- A producer that waits goes on with the push with which it waits. -/
theorem Step.push?_eq (h : Step x e y) (hp : e.producer? = some p)
    (hw : x.waiting p = some (q, a)) : e.push? = some (p, q, a) := by
  cases h <;> simp_all [Event.producer?, Event.push?, MayPush]

/-- At a spent dispatcher a producer that waits may go on, and gets its own task back. -/
theorem step_of_isSpent (hs : s.dispatcher.IsSpent) (hw : s.waiting p = some (q, a)) :
    ∃ u, Step s (.rejected p q a (.closed a)) u ∧ u.waiting p = none :=
  ⟨_, .pushError (.inr hw) (hs.offer q a), by simp⟩

theorem Effect.task_eq {e : PushError α} (h : Effect d (.rejected p q a e) d') : e.task = a := by
  cases h
  assumption

theorem task_of_rejected {e : PushError α} (h : Run Step x t s)
    (he : Event.rejected p q a e ∈ t) : e.task = a := by
  obtain ⟨l, m, rfl⟩ := List.append_of_mem he
  obtain ⟨y, -, h⟩ := run_append_iff.1 h
  obtain ⟨z, h, -⟩ := run_cons_iff.1 h
  exact h.effect.task_eq

/-! ## The theorem -/

/-- What a close leaves behind. The run `t` splits at its first close into what came before it, the
tasks dropped, and what came after it, and ends in `s`. -/
structure ClosedAt (s : Traffic α) (t before : List (Event α)) (dropped : List α)
    (after : List (Event α)) : Prop where
  /-- As many tasks are dropped as were accepted and not yet popped. -/
  length_dropped : dropped.length + (poppedIn before).length = (acceptedIn before).length
  /-- The dropped tasks are, queue by queue, those accepted on the queue behind the popped ones. -/
  dropped_eq : ∃ (n : Nat) (rest : Nat → List α), dropped = (List.range n).flatMap rest ∧
    (∀ i, n ≤ i → rest i = []) ∧ ∀ i, acceptedOn i t = poppedFrom i t ++ rest i
  /-- Every later push gets its own task back as closed, every later pop gets none, and every later
  close drops none. -/
  spent : ∀ e ∈ after, e.Spent
  /-- The dispatcher is closed and empty, and can only answer so. -/
  isSpent : s.dispatcher.IsSpent
  /-- A producer that still waits may go on, and gets its own task back. -/
  woken (p : Nat) (q : QueueId) (a : α) : s.waiting p = some (q, a) →
    ∃ u, Step s (.rejected p q a (.closed a)) u ∧ u.waiting p = none

theorem closedAt {id : Nat} {before after : List (Event α)} {dropped : List α}
    (h : Run Step (start id) (before ++ .closed dropped :: after) s)
    (hb : ∀ e ∈ before, e.isClosed = false) :
    ClosedAt s (before ++ .closed dropped :: after) before dropped after := by
  obtain ⟨y, h₁, h₂⟩ := run_append_iff.1 h
  obtain ⟨z, hc, h₃⟩ := run_cons_iff.1 h₂
  obtain ⟨hd, hz⟩ : dropped = y.dispatcher.tasks ∧ z.dispatcher = y.dispatcher.close.2 := by
    cases hc
    exact ⟨rfl, rfl⟩
  have hz : z.dispatcher.IsSpent := hz ▸ y.dispatcher.isSpent_close
  obtain ⟨ha, hs⟩ := isSpent h₃ hz
  refine ⟨?_, ⟨y.dispatcher.queues.length, y.dispatcher.contents, ?_, ?_, fun i => ?_⟩, ha, hs,
    fun p q a hw => step_of_isSpent hs hw⟩
  · have hp := (conserves h₁).length_eq
    have hn : droppedIn before = [] := by
      apply List.flatMap_eq_nil_iff.2
      intro e he
      have := hb e he
      cases e <;> simp_all [Event.isClosed, Event.dropped]
    have ht : (start id : Traffic α).dispatcher.tasks = [] := rfl
    rw [hn, ht, ← hd] at hp
    simp at hp
    omega
  · rw [hd, Dispatcher.tasks_eq]
  · exact fun i hi => Dispatcher.contents_eq_nil hi
  · have hi := history h₁ hb i
    rw [contents_start, List.nil_append] at hi
    rw [acceptedOn_append, poppedFrom_append, acceptedOn_cons, poppedFrom_cons,
      acceptedOn_of_spent ha, poppedFrom_of_spent ha, hi]
    simp [Event.acceptedOn?, Event.poppedFrom?]

/-- Every run of a new dispatcher delivers. While it is open, each queue's accepted tasks are its
popped ones followed by its contents, in order. Its first close drops the tasks that wait and leaves it
spent. Every accepted task is popped, dropped, or waits, and none is doubled. A rejected task goes back
to the producer that offered it, and a producer that was made to wait goes on with the same push. -/
theorem delivery {id : Nat} (h : Run Step (start id) t s) :
    (s.dispatcher.closed = false →
      ∀ i, acceptedOn i t = poppedFrom i t ++ s.dispatcher.contents i) ∧
    (∀ before dropped after, t = before ++ .closed dropped :: after →
      (∀ e ∈ before, e.isClosed = false) → ClosedAt s t before dropped after) ∧
    (acceptedIn t).Perm (poppedIn t ++ droppedIn t ++ s.dispatcher.tasks) ∧
    (∀ p q a e, Event.rejected p q a e ∈ t → e.task = a) ∧
    (∀ l p q a m e r, t = l ++ .parked p q a :: m ++ e :: r →
      (∀ e' ∈ m, e'.producer? ≠ some p) → e.producer? = some p → e.push? = some (p, q, a)) := by
  refine ⟨?_, ?_, conserves h, fun p q a e => task_of_rejected h, ?_⟩
  · intro ho i
    have ht : ∀ e ∈ t, e.isClosed = false := fun e he => by
      rw [← Bool.not_eq_true]
      intro hc
      have := (closed_iff h).2 (.inr ⟨e, he, hc⟩)
      simp [ho] at this
    have := history h ht i
    rwa [contents_start, List.nil_append] at this
  · rintro before dropped after rfl hb
    exact closedAt h hb
  · rintro l p q a m e r rfl hm he
    obtain ⟨y, h₁, h₂⟩ := run_append_iff.1 h
    obtain ⟨z, h₃, -⟩ := run_cons_iff.1 h₂
    obtain ⟨w, -, h₄⟩ := run_append_iff.1 h₁
    obtain ⟨v, h₅, h₆⟩ := run_cons_iff.1 h₄
    have hw := waiting_eq h₆ hm
    rw [h₅.waiting_of_parked] at hw
    exact h₃.push?_eq he hw

/-- A queue with room for one task: two producers have to wait for room, one of them until the close,
and the consumer comes back after the close. -/
theorem delivery_of_close_while_waiting :
    let q : QueueId := ⟨7, 0⟩
    let before : List (Event Nat) := [.registered q, .accepted 0 q 10, .parked 1 q 11, .popped 0 10,
      .accepted 1 q 11, .parked 2 q 12]
    let after : List (Event Nat) := [.rejected 2 q 12 (.closed 12), .missed, .closed []]
    ∃ s, Run Step (start 7) (before ++ .closed [11] :: after) s ∧
      ClosedAt s (before ++ .closed [11] :: after) before [11] after := by
  intro q before after
  have h : ∃ s, Run Step (start 7) (before ++ .closed [11] :: after) s :=
    ⟨_, .cons (.register "q" 1) <| .cons (.push (.inl rfl) rfl) <| .cons (.park (.inl rfl) rfl) <|
      .cons (.pop rfl rfl) <| .cons (.push (.inr rfl) rfl) <| .cons (.park (.inl rfl) rfl) <|
      .cons .close <| .cons (.pushError (.inr rfl) rfl) <| .cons (.popNone rfl) <|
      .cons .close .nil⟩
  obtain ⟨s, h⟩ := h
  exact ⟨s, h, (delivery h).2.1 before [11] after rfl (by simp [before, Event.isClosed])⟩

end Traffic

end LteUe
