import LteUe.Proofs.Uplink.Steps

/-!
# The accounts of the packets

Whoever hands packets to a stack, and whatever else goes on, the packets of the calls that returned `true` are
those that packet data convergence has been handed, then the one in the hands of the executor, then those in
the queue, in the order in which they were enqueued; once the dispatcher is closed, what was in the queue is
dropped instead. A packet that is refused comes nowhere near packet data convergence. As long as no thread has
still to record it, the count of packets refused tells how many calls that were not ready to wait have found
the queue full (`Uplink.uplink_accounted`).
-/

namespace LteUe

open Function

variable {L κ : Type}

namespace Uplink

variable {x y : Uplink L κ} {e : Event κ} {t : List (Event κ)} {c : StackConfig}

theorem taken_snoc (t : List (Event κ)) (e : Event κ) : taken (t ++ [e]) = taken t ++ e.taken?.toList :=
  filterMap_snoc ..

theorem full_snoc (t : List (Event κ)) (e : Event κ) : full (t ++ [e]) = full t ++ e.full?.toList :=
  filterMap_snoc ..

theorem recorded_snoc (t : List (Event κ)) (e : Event κ) :
    recorded (t ++ [e]) = recorded t ++ e.recorded?.toList := filterMap_snoc ..

theorem written_snoc (t : List (Event κ)) (e : Event κ) : written (t ++ [e]) = written t ++ e.written := by
  rw [written, List.flatMap_append, List.flatMap_singleton]
  rfl

theorem discarded_snoc (t : List (Event κ)) (e : Event κ) :
    discarded (t ++ [e]) = discarded t ++ e.discarded := by
  rw [discarded, List.flatMap_append, List.flatMap_singleton]
  rfl

theorem packets_append (l m : List Task) : packets (l ++ m) = packets l ++ packets m := List.filterMap_append

section Count

variable [Layers L κ]

theorem Step.life (h : Step x e y) :
    ∃ m, Run Execution.Step x.toLifetime m y.toLifetime := by
  cases h with
  | call | turnAway | refuse => exact ⟨[], .nil⟩
  | take _ ho =>
    have hp : Lifetime.Step x.toLifetime _ _ := .post (fun h => by cases h) ho
    exact ⟨_, run_singleton_iff.2 (.other hp rfl (.accept (p := 0) ho) rfl rfl)⟩
  | record => exact ⟨_, run_singleton_iff.2 (.other (.work ⟨rfl, rfl, rfl⟩ rfl) rfl .miss rfl rfl)⟩
  | run ht he hk => exact ⟨_, run_singleton_iff.2 (.run ht he hk)⟩
  | other h => exact ⟨_, run_singleton_iff.2 h⟩

/-! ## The count of the packets refused -/

/-- What the count and the threads say of the calls that found the queue full. -/
structure Tallied (t : List (Event κ)) (x : Uplink L κ) : Prop where
  dropped : x.shared.uplinkDropped = (recorded t).length
  settled (i : Nat) (p : Packet) : (full t).count (i, p) =
    (recorded t).count (i, p) + if x.senders i = some (.refused p) then 1 else 0
  unready (i : Nat) (p : Packet) : (i, p) ∈ full t → p.blocking = false

theorem Step.uplinkDropped_eq (h : Step x e y) :
    y.shared.uplinkDropped = x.shared.uplinkDropped + e.recorded?.toList.length := by
  cases h with
  | run _ _ _ hd => exact hd
  | other _ _ _ hd => exact hd
  | call | take | turnAway | refuse | record => rfl

theorem Step.unready (h : Step x e y) {i : Nat} {p : Packet} (he : e.full? = some (i, p)) :
    p.blocking = false := by
  cases h with
  | refuse _ hb =>
    cases he
    exact hb
  | _ => cases he

/-- A thread that finds the queue full has to record that, and until it does, it is about nothing else. -/
theorem Step.refusals (h : Step x e y) (j : Nat) (q : Packet) :
    e.full?.toList.count (j, q) + (if x.senders j = some (.refused q) then 1 else 0) =
      e.recorded?.toList.count (j, q) + if y.senders j = some (.refused q) then 1 else 0 := by
  cases h with
  | @call i p hi => by_cases hj : j = i <;> simp [Event.full?, Event.recorded?, hj, hi]
  | @take i p d hi => by_cases hj : j = i <;> simp [Event.full?, Event.recorded?, hj, hi]
  | @turnAway i p _ hi => by_cases hj : j = i <;> simp [Event.full?, Event.recorded?, hj, hi]
  | run => rfl
  | other => rfl
  | @refuse i p hi =>
    by_cases hj : j = i
    · by_cases hq : p = q <;> simp [Event.full?, Event.recorded?, hj, hi, hq]
    · simp [Event.full?, Event.recorded?, hj, Ne.symm hj]
  | @record i p hi =>
    by_cases hj : j = i
    · by_cases hq : p = q <;> simp [Event.full?, Event.recorded?, hj, hi, hq]
    · simp [Event.full?, Event.recorded?, hj, Ne.symm hj]

theorem Tallied.step (h : Tallied t x) (hs : Step x e y) : Tallied (t ++ [e]) y where
  dropped := by rw [hs.uplinkDropped_eq, h.dropped, recorded_snoc, List.length_append]
  settled i p := by
    have hr := hs.refusals i p
    rw [full_snoc, recorded_snoc, List.count_append, List.count_append, h.settled]
    omega
  unready i p hm := by
    rw [full_snoc, List.mem_append, Option.mem_toList] at hm
    exact hm.elim (h.unready i p) hs.unready

theorem tallied (h : Run Step (start c) t x) : Tallied t x := by
  induction h with
  | nil => exact ⟨rfl, fun _ _ => rfl, nofun⟩
  | snoc _ hs ih => exact ih.step hs

omit [Layers L κ] in
/-- If no thread has still to record it, the calls that found the queue full are those that have. -/
theorem Tallied.perm (h : Tallied t x) (hx : x.AllRecorded) : (full t).Perm (recorded t) := by
  refine List.perm_iff_count.2 fun ⟨i, p⟩ => ?_
  rw [h.settled, if_neg (hx i p), Nat.add_zero]

end Count

/-! ## What becomes of the packets -/

section Queues

variable {d d' : Dispatcher Task} {a : Traffic.Event Task}

/-- Packets are in the queue of the gateway, and in no other. -/
def Confined (d : Dispatcher Task) : Prop := ∀ i, i ≠ QueueKind.gateway.index → packets (d.contents i) = []

theorem flatMap_of_only {α β : Type} {f : α → List β} {a : α} {l : List α} (hl : l.Nodup)
    (h : ∀ b, b ≠ a → f b = []) (ha : a ∉ l → f a = []) : l.flatMap f = f a := by
  induction l with
  | nil => exact (ha List.not_mem_nil).symm
  | cons b l ih =>
    rw [List.nodup_cons] at hl
    rw [List.flatMap_cons]
    by_cases hb : b = a
    · subst hb
      rw [List.flatMap_eq_nil_iff.2 fun c hc => h c fun hcb => hl.1 (hcb ▸ hc), List.append_nil]
    · rw [h b hb, List.nil_append]
      exact ih hl.2 fun hn => ha fun hm => hn (List.mem_of_ne_of_mem (Ne.symm hb) hm)

theorem Confined.packets_tasks (h : Confined d) :
    packets d.tasks = packets (d.contents QueueKind.gateway.index) := by
  rw [Dispatcher.tasks_eq, packets, List.filterMap_flatMap]
  refine flatMap_of_only List.nodup_range h fun hn => ?_
  rw [Dispatcher.contents_eq_nil (Nat.le_of_not_lt fun hlt => hn (List.mem_range.2 hlt))]
  rfl

/-- A packet that is taken from a queue is taken from that of the gateway. -/
theorem Confined.packets_popped (hc : Confined d) (h : Traffic.Effect d a d') :
    packets (a.poppedFrom? QueueKind.gateway.index).toList = packets a.popped?.toList := by
  cases h with
  | @pop j u _ _ hu =>
    by_cases hj : j = QueueKind.gateway.index
    · rw [Traffic.Event.poppedFrom?, if_pos hj]
      rfl
    · have hu := List.filterMap_eq_nil_iff.1 (hc j hj) u (List.mem_of_mem_head? hu)
      rw [Traffic.Event.poppedFrom?, if_neg hj]
      exact (List.filterMap_eq_nil_iff.2 fun v hv => List.mem_singleton.1 hv ▸ hu).symm
  | _ => rfl

theorem packets_acceptedOn (h : ∀ u, a.accepted? = some u → u.command.packet? = none) (i : Nat) :
    packets (a.acceptedOn? i).toList = [] := by
  refine List.filterMap_eq_nil_iff.2 fun u hu => h u ?_
  cases a with
  | accepted j q v =>
    rw [Option.mem_toList] at hu
    by_cases hq : q.index = i
    · rwa [Traffic.Event.acceptedOn?, if_pos hq] at hu
    · rw [Traffic.Event.acceptedOn?, if_neg hq] at hu
      cases hu
  | _ => cases hu

/-- Unless the dispatcher is closed, the packets that wait in a queue and the one that is added to it are the
one that is taken from it and those that wait then. -/
theorem packets_history (h : Traffic.Effect d a d') (ha : a.isClosed = false) (i : Nat) :
    packets (d.contents i) ++ packets (a.acceptedOn? i).toList =
      packets (a.poppedFrom? i).toList ++ packets (d'.contents i) := by
  rw [← packets_append, ← packets_append, h.history ha i]

theorem Confined.effect (hc : Confined d) (h : Traffic.Effect d a d')
    (ha : ∀ u, a.accepted? = some u → u.command.packet? = none) : Confined d' := by
  intro i hi
  cases hcl : a.isClosed with
  | true =>
    obtain rfl := h.eq_closed hcl
    cases h with
    | close =>
      rw [Dispatcher.contents_close]
      rfl
  | false =>
    have hp := packets_history h hcl i
    rw [hc i hi, packets_acceptedOn ha, List.append_nil] at hp
    exact (List.append_eq_nil_iff.1 hp.symm).2

theorem Confined.accept {q : QueueId} {u : Task} (hc : Confined d) (h : d.offer q u = .accepted d')
    (hq : q.index = QueueKind.gateway.index) : Confined d' := by
  intro i hi
  rw [Dispatcher.contents_of_accepted h, if_neg (by rw [hq]; exact Ne.symm hi)]
  exact hc i hi

end Queues

variable [Layers L κ]

theorem Step.confined (h : Step x e y) (hc : Confined x.shared.dispatcher) :
    Confined y.shared.dispatcher := by
  cases h with
  | take _ ho => exact hc.accept ho rfl
  | run _ _ hk => exact hk.dispatcher ▸ hc
  | other hw _ hp => exact hc.effect hw.deal (hw.accepted ▸ hp)
  | call | turnAway | refuse | record => exact hc

/-- The packet of the task that the executor takes. -/
def Event.begun : Event κ → List Packet
  | other w => packets w.1.begun?.toList
  | _ => []

/-- Whether an event closes the dispatcher. -/
def Event.isClosed : Event κ → Bool
  | other w => w.2.isClosed
  | _ => false

/-- Unless it closes the dispatcher, a step adds the packet that it takes to the queue, and hands the one that
is taken from it to the executor. -/
theorem Step.waiting_eq (h : Step x e y) (hc : Confined x.shared.dispatcher) (he : e.isClosed = false) :
    x.waiting ++ e.taken?.toList = e.begun ++ y.waiting ∧ e.discarded = [] := by
  cases h with
  | @take i p d _ ho =>
    have hq : (x.shared.queueId .gateway).index = QueueKind.gateway.index := rfl
    refine ⟨?_, rfl⟩
    rw [waiting, waiting, Dispatcher.contents_of_accepted ho, if_pos hq, packets_append]
    rfl
  | run _ _ hk =>
    rw [waiting, waiting, hk.dispatcher]
    exact ⟨List.append_nil _, rfl⟩
  | @other y w hw _ hp =>
    have hh := packets_history hw.deal he QueueKind.gateway.index
    rw [packets_acceptedOn (hw.accepted ▸ hp), hc.packets_popped hw.deal, hw.popped] at hh
    refine ⟨hh, ?_⟩
    rw [Event.discarded, Execution.dropped_of_not_closed he]
    rfl
  | call | turnAway | refuse | record => exact ⟨List.append_nil _, rfl⟩

theorem Step.inHand_eq (h : Step x e y) : x.inHand ++ e.begun = e.written ++ y.inHand := by
  cases h with
  | @run f u seen s ht =>
    rw [inHand, ht, Event.written, Work.written_callsOf]
    rfl
  | @other y w hw hr =>
    have ht := hw.life.effect.task
    rw [hr] at ht
    rw [inHand, inHand, Event.begun, ← packets_append, ht]
    rfl
  | call | take | turnAway | refuse | record => exact List.append_nil _

/-- When the dispatcher is closed, the packets in the queue are dropped. -/
theorem Step.closed_eq (h : Step x e y) (hc : Confined x.shared.dispatcher) (he : e.isClosed = true) :
    e.discarded = x.waiting ∧ y.waiting = [] ∧ e.taken? = none ∧ e.begun = [] ∧ e.written = [] := by
  cases h with
  | @other y w hw =>
    have hd := hw.deal.eq_closed he
    have hb := hw.popped
    rw [hd] at hb
    have hy : y.shared.dispatcher = x.shared.dispatcher.close.2 := by
      have hw := hw.deal
      rw [hd] at hw
      generalize y.shared.dispatcher = d at hw
      generalize hl : x.shared.dispatcher.tasks = l at hw
      cases hw with
      | close => rfl
    refine ⟨?_, ?_, rfl, ?_, rfl⟩
    · rw [Event.discarded, hd]
      exact hc.packets_tasks
    · rw [waiting, hy, Dispatcher.contents_close]
      rfl
    · rw [Event.begun, ← hb]
      rfl
  | _ => cases he

theorem Step.open_of_taken (h : Step x e y) (he : e.taken? ≠ none) : x.shared.dispatcher.closed = false := by
  cases h with
  | take _ ho => exact (Dispatcher.offer_eq_accepted_iff.1 ho).1
  | _ => exact absurd rfl he

theorem Step.closed_iff (h : Step x e y) :
    y.shared.dispatcher.closed = true ↔ x.shared.dispatcher.closed = true ∨ e.isClosed = true := by
  cases h with
  | take _ ho =>
    rw [show Event.isClosed (.taken ..) = false from rfl, Bool.false_eq_true, or_false]
    rw [Dispatcher.closed_of_accepted ho]
  | run _ _ hk => simp [hk.dispatcher, Event.isClosed]
  | other hw => exact hw.deal.closed_iff
  | call | turnAway | refuse | record => simp [Event.isClosed, Shared.report, Shared.onSurroundings]

omit [Layers L κ] in
theorem packets_start (i : Nat) : packets ((start c : Uplink L κ).shared.dispatcher.contents i) = [] := by
  have hc : (start c : Uplink L κ).shared.dispatcher.contents i = [] := Dispatcher.tasks_eq_nil_iff.1 rfl i
  rw [hc]
  rfl

/-- What holds of the packets after the events `t`. -/
structure Balanced (t : List (Event κ)) (x : Uplink L κ) : Prop where
  life : ∃ m, Execution.Books m x.toLifetime
  confined : Confined x.shared.dispatcher
  order : taken t = written t ++ x.inHand ++ x.waiting ++ discarded t
  undiscarded : x.shared.dispatcher.closed = false → discarded t = []

omit [Layers L κ] in
theorem packets_of_closed {m : List Execution.Event} (hb : Execution.Books m x.toLifetime)
    (hc : x.shared.dispatcher.closed = true) : x.inHand = [] ∧ x.waiting = [] := by
  have hm : ∀ s ∈ Lifetime.stages, s.closed = true → s.executor = none := by decide
  have he : x.executor = none := Option.map_eq_none_iff.1 (hm _ hb.ordered.stage hc)
  refine ⟨?_, ?_⟩
  · rw [inHand, hb.ordered.task he]
    rfl
  · rw [waiting, Dispatcher.tasks_eq_nil_iff.1 (hb.ordered.tasks hc)]
    rfl

theorem Balanced.order_step (h : Balanced t x) (hs : Step x e y)
    (hy : y.shared.dispatcher.closed = true → y.inHand = []) :
    taken (t ++ [e]) = written (t ++ [e]) ++ y.inHand ++ y.waiting ++ discarded (t ++ [e]) := by
  obtain ⟨m, hb⟩ := h.life
  have hhand := hs.inHand_eq
  rw [taken_snoc, written_snoc, discarded_snoc, h.order]
  cases he : e.isClosed with
  | true =>
    obtain ⟨hd, hw, ht, hn, hr⟩ := hs.closed_eq h.confined he
    rw [hn, hr, List.append_nil, List.nil_append] at hhand
    rw [hy (hs.closed_iff.2 (.inr he))] at hhand ⊢
    rw [hd, hw, ht, hr, hhand]
    -- What waited is dropped now, or was dropped before, but not both.
    cases hx : x.shared.dispatcher.closed with
    | true => simp [(packets_of_closed hb hx).2]
    | false => simp [h.undiscarded hx]
  | false =>
    obtain ⟨hw, hd⟩ := hs.waiting_eq h.confined he
    rw [hd, List.append_nil]
    have hlast : discarded t ++ e.taken?.toList = e.taken?.toList ++ discarded t := by
      by_cases ht : e.taken? = none
      · simp [ht]
      · simp [h.undiscarded (hs.open_of_taken ht)]
    calc written t ++ x.inHand ++ x.waiting ++ discarded t ++ e.taken?.toList
        = written t ++ x.inHand ++ (x.waiting ++ e.taken?.toList) ++ discarded t := by
          rw [List.append_assoc _ (discarded t), hlast]
          simp only [List.append_assoc]
      _ = written t ++ (x.inHand ++ e.begun) ++ y.waiting ++ discarded t := by
          rw [hw]
          simp only [List.append_assoc]
      _ = written t ++ e.written ++ y.inHand ++ y.waiting ++ discarded t := by
          rw [hhand]
          simp only [List.append_assoc]

theorem Balanced.step (h : Balanced t x) (hs : Step x e y) : Balanced (t ++ [e]) y := by
  obtain ⟨m, hb⟩ := h.life
  obtain ⟨m', hm'⟩ := hs.life
  have hlife := hb.run hm'
  have hconfined := hs.confined h.confined
  have hhand : y.shared.dispatcher.closed = true → y.inHand = [] := 
    fun hc => (packets_of_closed hlife hc).1
  refine ⟨⟨_, hlife⟩, hconfined, h.order_step hs hhand, fun hy => ?_⟩
  have hc := hs.closed_iff
  rw [hy, Bool.false_eq_true, false_iff, not_or] at hc
  have he := Bool.eq_false_iff.2 hc.2
  rw [discarded_snoc, h.undiscarded (Bool.eq_false_iff.2 hc.1), (hs.waiting_eq h.confined he).2]
  rfl

omit [Layers L κ] in
theorem balanced_start (c : StackConfig) : Balanced [] (start c : Uplink L κ) where
  life := ⟨[], Execution.books_start c⟩
  confined i _ := packets_start i
  order := by
    rw [waiting, packets_start]
    rfl
  undiscarded _ := rfl

theorem balanced (h : Run Step (start c) t x) : Balanced t x := by
  induction h with
  | nil => exact balanced_start c
  | snoc _ hs ih => exact ih.step hs

/-! ## The operations are made of the steps -/

omit [Layers L κ] in
/-- A packet is handed over by a caller that finds room, or one that finds the dispatcher closed, or one that
is not ready to wait and finds the queue full. -/
theorem uplink_cases {p : Packet} {b : Bool} {s s' : Shared κ}
    (h : s.uplink p.lcid p.sdu p.blocking = some (b, s')) :
    (∃ d, s.offer .gateway p.task = .accepted d ∧ b = true ∧ s' = { s with dispatcher := d }) ∨
    (∃ e, s.offer .gateway p.task = .rejected e ∧ b = false ∧ s' = s) ∨
    s.offer .gateway p.task = .parked ∧ p.blocking = false ∧ b = false ∧
      s' = { s with uplinkDropped := s.uplinkDropped + 1 }.report (Shared.uplinkDiscarded p.lcid) := by
  obtain ⟨lcid, sdu, blocking⟩ := p
  cases blocking with
  | true =>
    unfold Shared.uplink Shared.enqueue at h
    rw [if_pos rfl] at h
    cases ho : s.offer .gateway { command := .uplink lcid sdu true } with
    | accepted d =>
      rw [ho] at h
      cases h
      exact .inl ⟨d, ho, rfl, rfl⟩
    | rejected e =>
      rw [ho] at h
      cases h
      exact .inr (.inl ⟨e, ho, rfl, rfl⟩)
    | parked =>
      rw [ho] at h
      cases h
  | false =>
    unfold Shared.uplink Shared.tryUplink Shared.tryEnqueue at h
    rw [if_neg Bool.false_ne_true] at h
    cases ho : s.dispatcher.tryPush (s.queueId .gateway) { command := .uplink lcid sdu false } with
    | ok d =>
      rw [ho] at h
      cases h
      exact .inl ⟨d, Dispatcher.tryPush_eq_ok_iff.1 ho, rfl, rfl⟩
    | error e =>
      rw [ho] at h
      obtain ho | ⟨hp, rfl⟩ := Dispatcher.tryPush_eq_error_iff.1 ho
      · -- A push is rejected for other reasons than a full queue.
        obtain ⟨-, rfl⟩ | ⟨-, -, rfl⟩ := Dispatcher.offer_eq_rejected_iff.1 ho
        · cases h
          exact .inr (.inl ⟨_, ho, rfl, rfl⟩)
        · cases h
          exact .inr (.inl ⟨_, ho, rfl, rfl⟩)
      · cases h
        exact .inr (.inr ⟨hp, rfl, rfl, rfl⟩)

/-- Handing a packet over, done without a break: what it answers tells how it went. -/
theorem exists_run_uplink {p : Packet} {b : Bool} {s : Shared κ} {i : Nat} (hi : x.senders i = none)
    (h : x.shared.uplink p.lcid p.sdu p.blocking = some (b, s)) :
    ∃ l, Run Step x (.called i p :: l) { x with shared := s } ∧
      (b = true ∧ l = [.taken i p] ∨
        b = false ∧ (l = [.turnedAway i p] ∨ p.blocking = false ∧ l = [.full i p, .recorded i p])) := by
  have hback : ∀ o : Option Sending, update (update x.senders i o) i none = x.senders := by
    intro o
    rw [update_idem, ← hi, update_eq_self]
  have hcall : Step x (.called i p) _ := .call p hi
  have hs : update x.senders i (some (.offering p)) i = some (.offering p) := update_self ..
  obtain ⟨d, ho, rfl, rfl⟩ | ⟨e, ho, rfl, rfl⟩ | ⟨ho, hb, rfl, rfl⟩ := uplink_cases h
  · have h₁ := Step.take (x := { x with senders := update x.senders i (some (.offering p)) }) hs ho
    refine ⟨_, .cons hcall (run_singleton_iff.2 ?_), .inl ⟨rfl, rfl⟩⟩
    simpa only [hback] using h₁
  · have h₁ := Step.turnAway (x := { x with senders := update x.senders i (some (.offering p)) }) hs ho
    refine ⟨_, .cons hcall (run_singleton_iff.2 ?_), .inr ⟨rfl, .inl rfl⟩⟩
    simpa only [hback] using h₁
  · have h₁ := Step.refuse (x := { x with senders := update x.senders i (some (.offering p)) }) hs hb ho
    have h₂ := Step.record (i := i) (p := p) (x := { x with
      senders := update (update x.senders i (some (.offering p))) i (some (.refused p)) }) (update_self ..)
    refine ⟨_, .cons hcall (.cons h₁ (run_singleton_iff.2 ?_)), .inr ⟨rfl, .inr ⟨hb, rfl⟩⟩⟩
    simpa only [update_idem, hback] using h₂

omit [Layers L κ] in
theorem uplinkDropped_conclude (u : Task) (r : Except Fault Reply) (e : Executor L κ) (s : Shared κ) :
    (Executor.conclude u r e s).2.uplinkDropped = s.uplinkDropped := by
  obtain ⟨_, _, h⟩ := Executor.shared_conclude u r e s
  rw [h]

theorem uplinkDropped_perform (c : Command) (y : Executor L κ × Shared κ) :
    (outcome (Work.perform c) y).2.2.uplinkDropped = y.2.uplinkDropped := (Work.steady_perform c y).uplinkDropped

theorem uplinkDropped_run (u : Task) (e : Executor L κ) (s : Shared κ) :
    (e.run u s).2.uplinkDropped = s.uplinkDropped :=
  (uplinkDropped_conclude ..).trans (uplinkDropped_perform u.command (e, s))

theorem run_aside {z : Lifetime L κ} {l : List Lifetime.Event} (h : Run Lifetime.Aside x.toLifetime l z) :
    Run Step x (l.map fun w => .other (w, .missed)) { x with toLifetime := z } :=
  h.map (g := fun z => { x with toLifetime := z }) fun _ ha =>
    .other (Execution.step_aside ha.step ha.idle ha.dispatcher) ha.idle.1
      (fun _ hp => nomatch ha.idle.2.1.symm.trans hp) ha.uplinkDropped

theorem step_run {e : Executor L κ} {u : Task} {r : Except Fault Reply} {calls : List (Call κ)}
    (ht : x.task = some u) (he : x.executor = some e)
    (hr : (outcome (Work.perform u.command) (e, x.shared)).1 = r)
    (hc : Work.callsOf u.command (e, x.shared) = calls) :
    Step x (.ran (.ran u r, .missed) calls)
      { x with shared := (e.run u x.shared).2, executor := some (e.run u x.shared).1, task := none } :=
  hr ▸ hc ▸ .run ht he (Executor.keeps_run u e x.shared).1 (uplinkDropped_run u e x.shared)

theorem exists_run_turn {e e' : Executor L κ} {s : Shared κ} (ht : x.task = none) (he : x.executor = some e)
    (h : e.turn x.shared = some (e', s)) : ∃ w r calls,
      Run Step x [.other w, .ran r calls] { x with shared := s, executor := some e' } := by
  obtain ⟨hr, u, e₁, s₁, hb, hrun⟩ := Executor.turn_eq_some_iff.1 h
  obtain ⟨i, hi, -⟩ := Executor.exists_serving_of_begin hb
  have hd : s₁.uplinkDropped = x.shared.uplinkDropped := by
    obtain ⟨d, rfl⟩ := Executor.shared_begin hb
    rfl
  have h₁ := Step.other (Execution.step_began ht he hr hb hi) rfl (fun _ => nofun) hd
  have h₂ := step_run (x := { x with shared := s₁, executor := some e₁, task := some u }) rfl rfl rfl rfl
  dsimp only at h₂
  rw [hrun] at h₂
  rw [ht]
  exact ⟨_, _, _, .cons h₁ (run_singleton_iff.2 h₂)⟩

/-! ## The theorem -/

/-- What holds of the packets handed to a stack, after the events `t` that have led to `x`. -/
structure Accounted (t : List (Event κ)) (x : Uplink L κ) : Prop where
  /-- If no thread has still to record it, the count of the packets refused tells how many calls that were not
  ready to wait have found the queue full. -/
  dropped : x.AllRecorded → x.shared.uplinkDropped = (full t).length
  /-- And in any case each of these calls has recorded it, or is about to. -/
  recording (i : Nat) (p : Packet) : (full t).count (i, p) =
    (recorded t).count (i, p) + if x.senders i = some (.refused p) then 1 else 0
  /-- A call finds the queue full if it is not ready to wait, and the queue is at its capacity while the
  dispatcher is open. -/
  found (i : Nat) (p : Packet) (y : Uplink L κ) : Step x (.full i p) y →
    p.blocking = false ∧ x.shared.dispatcher.closed = false ∧ x.shared.isFull .gateway = true
  /-- The count is raised by nothing but such a call, and by one. -/
  raised (e : Event κ) (y : Uplink L κ) : Step x e y → y.shared.uplinkDropped ≠ x.shared.uplinkDropped →
    ∃ i p, e = .recorded i p ∧ (i, p) ∈ full t ∧ p.blocking = false ∧
      y.shared.uplinkDropped = x.shared.uplinkDropped + 1
  /-- A call is turned away if the dispatcher is closed. -/
  away (i : Nat) (p : Packet) (y : Uplink L κ) : Step x (.turnedAway i p) y →
    x.shared.dispatcher.closed = true
  /-- A call that returns `false` leaves the queues and the executor as they are. -/
  refused (i : Nat) (p : Packet) (e : Event κ) (y : Uplink L κ) : Step x e y →
    e = .full i p ∨ e = .recorded i p ∨ e = .turnedAway i p →
      y.shared.dispatcher = x.shared.dispatcher ∧ y.task = x.task ∧ y.executor = x.executor
  /-- The packets of the calls that have returned `true` are, in the order in which they were enqueued, those
  that packet data convergence has been handed, then the one in the hands of the executor, then those in the
  queue, then those dropped. -/
  order : taken t = written t ++ x.inHand ++ x.waiting ++ discarded t
  /-- So between two tasks they have been written, or wait, or have been dropped. -/
  between : x.task = none → taken t = written t ++ x.waiting ++ discarded t
  /-- None is dropped while the dispatcher is open. -/
  kept : x.shared.dispatcher.closed = false → discarded t = []
  /-- None is in hand, or in the queue, once it is closed. -/
  settled : x.shared.dispatcher.closed = true → x.inHand = [] ∧ x.waiting = []
  /-- Handing a packet over is made of these steps, and its answer tells of which. -/
  handOver (i : Nat) (p : Packet) (b : Bool) (s : Shared κ) : x.senders i = none →
    x.shared.uplink p.lcid p.sdu p.blocking = some (b, s) →
      ∃ l, Run Step x (.called i p :: l) { x with shared := s } ∧
        (b = true ∧ l = [.taken i p] ∨
          b = false ∧ (l = [.turnedAway i p] ∨ p.blocking = false ∧ l = [.full i p, .recorded i p]))
  /-- And so is a turn of the executor. -/
  turn (e e' : Executor L κ) (s : Shared κ) : x.task = none → x.executor = some e →
    e.turn x.shared = some (e', s) →
      ∃ w r calls, Run Step x [.other w, .ran r calls] { x with shared := s, executor := some e' }

theorem Step.isFull (h : Step x e y) {i : Nat} {p : Packet} (he : e = .full i p) :
    p.blocking = false ∧ x.shared.dispatcher.closed = false ∧ x.shared.isFull .gateway = true := by
  subst he
  cases h with
  | refuse _ hb ho =>
    obtain ⟨hc, queue, hq, hf⟩ := Dispatcher.offer_eq_parked_iff.1 ho
    refine ⟨hb, hc, ?_⟩
    rw [Shared.isFull, hq]
    exact decide_eq_true hf

theorem Tallied.raised (h : Tallied t x) (hs : Step x e y)
    (hd : y.shared.uplinkDropped ≠ x.shared.uplinkDropped) :
    ∃ i p, e = .recorded i p ∧ (i, p) ∈ full t ∧ p.blocking = false ∧
      y.shared.uplinkDropped = x.shared.uplinkDropped + 1 := by
  cases hs with
  | @record i p hi =>
    have hcount := h.settled i p
    rw [if_pos hi] at hcount
    have hm : (i, p) ∈ full t := List.count_pos_iff.1 (by omega)
    exact ⟨i, p, rfl, hm, h.unready i p hm, rfl⟩
  | run _ _ _ hdrop => exact absurd hdrop hd
  | other _ _ _ hdrop => exact absurd hdrop hd
  | call | take | turnAway | refuse => exact absurd rfl hd

/-- However packets are handed to a stack, and whatever else goes on, no packet taken is lost, doubled or
overtaken, and those refused are counted. -/
theorem uplink_accounted (h : Run Step (start c) t x) : Accounted t x where
  dropped hx := (tallied h).dropped.trans ((tallied h).perm hx).length_eq.symm
  recording := (tallied h).settled
  found i p y hs := hs.isFull rfl
  raised e y hs := (tallied h).raised hs
  away i p y hs := by
    obtain ⟨m, hb⟩ := (balanced h).life
    cases hs with
    | turnAway _ ho =>
      refine Shared.closed_of_rejected ?_ ho
      rw [hb.ordered.queues]
      decide
  refused i p e y hs he := by
    obtain rfl | rfl | rfl := he <;> cases hs <;> exact ⟨rfl, rfl, rfl⟩
  order := (balanced h).order
  between ht := by
    rw [(balanced h).order, inHand, ht]
    simp [packets]
  kept := (balanced h).undiscarded
  settled hc := by
    obtain ⟨m, hb⟩ := (balanced h).life
    exact packets_of_closed hb hc
  handOver i p b s hi hu := exists_run_uplink hi hu
  turn e e' s ht he hturn := exists_run_turn ht he hturn

/-- A queue with room for one packet. One packet is in the hands of the executor and is then written, the next
one waits, and another, whose sender was not ready to wait, has found no room. -/
theorem uplink_accounted_under_load :
    let p₀ : Packet := ⟨1, [0], false⟩
    let p₁ : Packet := ⟨1, [1], false⟩
    let p₂ : Packet := ⟨2, [2], true⟩
    let t : List (Event Callback) :=
      [.called 0 p₀, .taken 0 p₀, .called 1 p₁, .full 1 p₁, .recorded 1 p₁,
        .other (.initEntered 0 Execution.oneCell .uninitialized, .missed), .other (.usim 0 (.ok ()), .missed),
        .other (.raised 0 .mac, .missed), .other (.raised 0 .rlc, .missed),
        .other (.raised 0 .pdcp, .missed), .other (.raised 0 .nas, .missed),
        .other (.raised 0 .rrc, .missed), .other (.raised 0 .radio, .missed),
        .other (.raised 0 (.capture .mac), .missed), .other (.raised 0 (.capture .nas), .missed),
        .other (.worked, .missed), .other (.worked, .missed), .other (.initReturned 0 (.ok ()), .missed),
        .other (.began p₀.task, .popped 3 p₀.task), .called 2 p₂, .taken 2 p₂,
        .ran (.ran p₀.task (.ok .done), .missed) [.writeSdu 1 [0] false]]
    (∃ x : Uplink ObservedLayers Callback, Run Step (start { queueCapacity := 1 }) t x ∧ Accounted t x) ∧
      taken t = [p₀, p₂] ∧ written t = [p₀] ∧ full t = [(1, p₁)] := by
  intro p₀ p₁ p₂ t
  have h : ∃ x : Uplink ObservedLayers Callback, Run Step (start { queueCapacity := 1 }) t x := by
    refine exists_run_cons (.call p₀ rfl) <| exists_run_cons (.take rfl rfl) <|
      exists_run_cons (.call p₁ rfl) <| exists_run_cons (.refuse rfl rfl rfl) <|
      exists_run_cons (.record rfl) ?_
    -- The stack is started.
    refine exists_run_append
      (run_aside (Lifetime.run_starting ObservedLayers.jobless { plan := {} } {} rfl rfl)) ?_
    -- While the executor is about the first packet, there is room for another one.
    refine exists_run_cons (.other (Execution.step_began rfl rfl rfl rfl rfl) rfl (fun _ => nofun) rfl) ?_
    refine exists_run_cons (.call p₂ rfl) <| exists_run_cons (.take rfl rfl) <|
      exists_run_cons (step_run rfl rfl rfl rfl) ⟨_, .nil⟩
  obtain ⟨x, h⟩ := h
  exact ⟨⟨x, h, uplink_accounted h⟩, rfl, rfl, rfl⟩

end Uplink

end LteUe
