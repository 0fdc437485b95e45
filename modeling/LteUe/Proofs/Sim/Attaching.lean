import LteUe.Proofs.Executor.Reports
import LteUe.Proofs.Runs
import LteUe.Proofs.Sim.Calls

/-!
# How long an attach takes

The settings of the simulated network give the time between connection and registration in ticks. The
non-access stratum does not hear of ticks, though, but of batches, and it counts these. So an attach is complete
when there have been as many batches as the settings say, and at least one, no matter how many ticks the reports
cover (`attach_counts_batches`). That is as many ticks only while every report covers one. Two ways of reporting
the same ticks need not agree (`attach_depends_on_reports`).
-/

namespace LteUe.SimLayers

/-- A task that has been run: the calls that it made of the layers, and whether it faulted. -/
structure Deed where
  command : Command
  calls : List (Call Callback)
  faulted : Bool

/-- The executor runs a task. Before it does so, other threads may have done anything to what they share. -/
inductive Step : Executor SimLayers Callback → Deed → Executor SimLayers Callback → Prop
  | run {e : Executor SimLayers Callback} (u : Task) (s : Shared Callback) :
      Step e ⟨u.command, Work.callsOf u.command (e, s),
        !(outcome (Work.perform u.command) (e, s)).1.isOk⟩ (e.run u s).1

/-- The batches of the non-access stratum. -/
def batches (t : List Deed) : Nat := (t.flatMap (·.calls)).countP (·.isNasBatch)

/-- The ticks of medium access control. -/
def passed (t : List Deed) : Nat := (ticked (t.flatMap (·.calls))).length

/-- There is a connection, an attach has been requested, and no batch has come since. -/
structure Attaching (l : SimLayers) : Prop where
  connected : l.bearers.connected = true
  emm : l.emm = .registeredInitiated
  fresh : l.ticksConnected = 0

/-- The task neither ends an attach nor the connection. -/
def Sparing : Command → Prop
  | .detach _ | .selectDone false | .teardown => False
  | _ => True

/-- The task is a report of so many ticks, and it has worked. -/
def Deed.Reports (d : Deed) (jump : UInt32) : Prop :=
  (∃ tti, d.command = .tick tti jump) ∧ d.faulted = false

/-- What becomes of an attach in the course of tasks that spare it. -/
structure BatchesCounted (e : Executor SimLayers Callback) (t : List Deed) (e' : Executor SimLayers Callback) :
    Prop where
  /-- The batches are counted, and one is needed in any case. -/
  registered : e'.layers.emm = .registered ↔ max e.layers.settings.attachDelayTicks 1 ≤ batches t
  pending : e'.layers.emm ≠ .registered → e'.layers.emm = .registeredInitiated
  /-- A report has one batch after all its ticks, if it does not fault. No other task has any. -/
  report : ∀ d ∈ t, ∀ jump, d.Reports jump → batches [d] = 1 ∧ passed [d] = jump.toNat
  other : ∀ d ∈ t, (∀ tti jump, d.command ≠ .tick tti jump) → batches [d] = 0 ∧ passed [d] = 0
  /-- It is the number of reports that matters, and not what they cover. -/
  split : (∀ d ∈ t, ∃ jump, d.Reports jump) →
    (e'.layers.emm = .registered ↔ max e.layers.settings.attachDelayTicks 1 ≤ t.length)
  /-- Reports that cover one tick each count the ticks. -/
  paced : (∀ d ∈ t, d.Reports 1) →
    (e'.layers.emm = .registered ↔ max e.layers.settings.attachDelayTicks 1 ≤ passed t)

/-! ## Calls -/

/-- The attach has gone on for `n` batches since it was like this in `l₀`. -/
structure Counts (l₀ : SimLayers) (n : Nat) (l : SimLayers) : Prop where
  settings : l.settings = l₀.settings
  connected : l.bearers.connected = true
  emm : l.emm = if max l₀.settings.attachDelayTicks 1 ≤ n then .registered else .registeredInitiated
  count : n < max l₀.settings.attachDelayTicks 1 → l.ticksConnected = n

variable {l₀ l : SimLayers} {n : Nat} {c : Call Callback}

theorem Attaching.counts (h : Attaching l) : Counts l 0 l where
  settings := rfl
  connected := h.connected
  emm := by simp [h.emm]
  count _ := h.fresh

theorem Counts.batch (h : Counts l₀ n l) : Counts l₀ (n + 1) l.batch := by
  have hc := h.connected
  have hs := h.settings
  have hemm := h.emm
  unfold SimLayers.batch
  by_cases hn : max l₀.settings.attachDelayTicks 1 ≤ n
  · rw [if_pos hn] at hemm
    simp only [hemm]
    refine ⟨hs, hc, ?_, fun hlt => ?_⟩
    · rw [if_pos (by omega), hemm]
    · omega
  · rw [if_neg hn] at hemm
    have hcount := h.count (by omega)
    simp only [hemm, hc, if_true, hcount]
    refine ⟨hs, hc, ?_, fun _ => rfl⟩
    dsimp only
    rw [hs]
    -- The batch that comes next is one in any case.
    by_cases hd : l₀.settings.attachDelayTicks ≤ n + 1
    · rw [if_pos hd, if_pos (by omega)]
    · rw [if_neg hd, if_neg (by omega)]

theorem Counts.of_eq {l' : SimLayers} (h : Counts l₀ n l) (hs : l'.settings = l.settings)
    (hc : l'.bearers.connected = l.bearers.connected) (he : l'.emm = l.emm)
    (ht : l'.ticksConnected = l.ticksConnected) : Counts l₀ n l' where
  settings := hs.trans h.settings
  connected := hc.trans h.connected
  emm := he.trans h.emm
  count hn := ht.trans (h.count hn)

theorem Counts.ne_deregistered (h : Counts l₀ n l) : l.emm ≠ .deregistered := by
  rw [h.emm]
  split <;> simp

theorem Counts.tick (h : Counts l₀ n l) (tti : UInt32) : Counts l₀ n (l.tick tti) := by
  unfold SimLayers.tick
  split
  · exact h
  · refine h.of_eq rfl ?_ rfl rfl
    dsimp only
    split <;> rfl

theorem Counts.after {cmd : Command} (h : Counts l₀ n l) (hc : Call.Of cmd c) (hs : Sparing cmd) :
    Counts l₀ (n + [c].countP (·.isNasBatch)) (l.after c) := by
  cases hc with
  | nasBatch => exact h.batch
  | @tick tti jump c hc =>
    cases c with
    | macTick tti => exact h.tick tti
    | fire => exact h
    | _ => cases hc
  | attach =>
    show Counts l₀ n (l.after _)
    rw [SimLayers.after, if_neg h.ne_deregistered]
    exact h
  | detach | usimStop | nasStop | rrcStop | rlcStop | pdcpStop | macStop => cases hs
  | selectDone selected =>
    cases selected with
    | true => exact h.of_eq rfl h.connected.symm rfl rfl
    | false => cases hs
  | hasData | rrcBatch | searchDone => exact h
  | uplink | inSync | outOfSync => exact h.of_eq rfl rfl rfl rfl

theorem Counts.foldl {cmd : Command} (hs : Sparing cmd) {cs : List (Call Callback)} (h : Counts l₀ n l)
    (hc : ∀ c ∈ cs, Call.Of cmd c) : Counts l₀ (n + cs.countP (·.isNasBatch)) (cs.foldl SimLayers.after l) := by
  induction cs generalizing n l with
  | nil => exact h
  | cons c cs ih =>
    obtain ⟨hc, hcs⟩ := List.forall_mem_cons.1 hc
    have h := ih (h.after hc hs) hcs
    rw [Nat.add_assoc, ← List.countP_append] at h
    exact h

/-! ## Tasks -/

variable {e e' : Executor SimLayers Callback} {t : List Deed} {d : Deed}

theorem batches_snoc : batches (t ++ [d]) = batches t + batches [d] := by
  simp [batches, List.countP_append]

theorem passed_snoc : passed (t ++ [d]) = passed t + passed [d] := by
  simp [passed, ticked_append]

theorem counts_of_run (h : Attaching e.layers) (hr : Run Step e t e') (ht : ∀ d ∈ t, Sparing d.command) :
    Counts e.layers (batches t) e'.layers := by
  induction hr with
  | nil => exact h.counts
  | @snoc t x _ d _ hs ih =>
    obtain ⟨hrest, hd⟩ := List.forall_mem_append.1 ht
    have hd := hd _ (List.mem_singleton_self _)
    have hx := ih hrest
    cases hs with
    | run u s =>
      have hfold := hx.foldl hd fun c => Work.of_mem_callsOf (y := (x, s))
      rw [Work.layers_run knownBy_after, batches_snoc]
      simpa [batches] using hfold

theorem Step.report (h : Step e d e') {jump : UInt32} (hd : d.Reports jump) :
    batches [d] = 1 ∧ passed [d] = jump.toNat := by
  cases h with
  | run u s =>
    obtain ⟨⟨tti, hu⟩, hf⟩ := hd
    change u.command = _ at hu
    rw [hu] at hf ⊢
    obtain ⟨_, z, hz⟩ := Work.exists_batch_of_perform (by simpa using hf)
    obtain ⟨ticks, hcalls, hticks, hids⟩ := Work.callsOf_tick_of_ok hz
    have hnone : ticks.countP (·.isNasBatch) = 0 :=
      List.countP_eq_zero.2 fun c hc => by simp [Call.not_isBatch (hticks c hc)]
    simp only [batches, passed, List.flatMap_singleton, hcalls, List.countP_append, hnone]
    refine ⟨rfl, ?_⟩
    rw [ticked_append, hids, List.length_append, Tti.length_subTicks]
    rfl

theorem Step.other (h : Step e d e') (hd : ∀ tti jump, d.command ≠ .tick tti jump) :
    batches [d] = 0 ∧ passed [d] = 0 := by
  cases h with
  | run u s =>
    have hnot : ∀ c ∈ Work.callsOf u.command (e, s), c.isNasBatch = false ∧ c.macTick? = none := by
      intro c hc
      have hof := Work.of_mem_callsOf hc
      generalize u.command = cmd at hof hd
      cases hof with
      | tick tti jump | rrcBatch tti jump | nasBatch tti jump => exact absurd rfl (hd tti jump)
      | _ => exact ⟨rfl, rfl⟩
    simp only [batches, passed, List.flatMap_singleton]
    refine ⟨List.countP_eq_zero.2 fun c hc => by simp [(hnot c hc).1], ?_⟩
    rw [ticked_eq_nil fun c hc => (hnot c hc).2]
    rfl

theorem batches_of_reports (hr : Run Step e t e') (ht : ∀ d ∈ t, ∃ jump, d.Reports jump) :
    batches t = t.length := by
  induction hr with
  | nil => rfl
  | snoc _ hs ih =>
    obtain ⟨ht, hd⟩ := List.forall_mem_append.1 ht
    obtain ⟨jump, hd⟩ := hd _ (List.mem_singleton_self _)
    rw [batches_snoc, ih ht, (hs.report hd).1, List.length_append]
    rfl

theorem passed_of_paced (hr : Run Step e t e') (ht : ∀ d ∈ t, d.Reports 1) : passed t = t.length := by
  induction hr with
  | nil => rfl
  | snoc _ hs ih =>
    obtain ⟨ht, hd⟩ := List.forall_mem_append.1 ht
    rw [passed_snoc, ih ht, (hs.report (hd _ (List.mem_singleton_self _))).2, List.length_append]
    rfl

/-- An attach counts batches: it is complete when there have been as many as the settings have ticks, and
one at least. -/
theorem attach_counts_batches (h : Attaching e.layers) (hr : Run Step e t e')
    (ht : ∀ d ∈ t, Sparing d.command) : BatchesCounted e t e' := by
  have hc := counts_of_run h hr ht
  have hreg : e'.layers.emm = .registered ↔ max e.layers.settings.attachDelayTicks 1 ≤ batches t := by
    rw [hc.emm]
    split
    · simp only [*]
    · simp only [reduceCtorEq, *]
  refine ⟨hreg, fun hn => ?_, fun d hd jump hj => ?_, fun d hd ho => ?_, fun hj => ?_, fun hj => ?_⟩
  · rw [hc.emm, if_neg fun hle => hn (hreg.2 hle)]
  · obtain ⟨_, _, hs⟩ := hr.exists_step hd
    exact hs.report hj
  · obtain ⟨_, _, hs⟩ := hr.exists_step hd
    exact hs.other ho
  · rw [hreg, batches_of_reports hr hj]
  · rw [hreg, batches_of_reports hr fun d hd => ⟨1, hj d hd⟩, passed_of_paced hr hj]

/-- An executor whose layers have found a cell, and then been asked to attach. -/
def underway (delay : Nat) : Executor SimLayers Callback :=
  .ofLayers (((ofSettings { attachDelayTicks := delay }).after (.selectDone true)).after (.attach .standard)) {}

theorem attaching_underway (delay : Nat) : Attaching (underway delay).layers := ⟨rfl, rfl, rfl⟩

theorem exists_step_report (tti jump : UInt32) (s : Shared Callback)
    (h : (outcome (Work.perform (.tick tti jump)) (e, s)).1.isOk = true) :
    ∃ d, d.Reports jump ∧ Step e d (e.run ⟨.tick tti jump, none⟩ s).1 := by
  refine ⟨_, ⟨⟨tti, rfl⟩, ?_⟩, .run ⟨.tick tti jump, none⟩ s⟩
  simp only [h, Bool.not_true]

theorem exists_run_singly : ∃ d d' e, d.Reports 1 ∧ d'.Reports 1 ∧ Run Step (underway 2) [d, d'] e := by
  obtain ⟨d, hd, hs⟩ := exists_step_report (e := underway 2) 1 1 (.ofConfig {}) (by decide +kernel)
  obtain ⟨d', hd', hs'⟩ := exists_step_report (e := ((underway 2).run ⟨.tick 1 1, none⟩ (.ofConfig {})).1)
    2 1 (.ofConfig {}) (by decide +kernel)
  exact ⟨d, d', _, hd, hd', .cons hs (.cons hs' .nil)⟩

theorem exists_run_together : ∃ d e, d.Reports 2 ∧ Run Step (underway 2) [d] e := by
  obtain ⟨d, hd, hs⟩ := exists_step_report (e := underway 2) 2 2 (.ofConfig {}) (by decide +kernel)
  exact ⟨d, _, hd, .cons hs .nil⟩

theorem Deed.Reports.sparing {jump : UInt32} (h : d.Reports jump) : Sparing d.command := by
  obtain ⟨⟨tti, h⟩, -⟩ := h
  rw [h]
  trivial

theorem attach_counts_batches_of_two :
    Attaching (underway 2).layers ∧ ∃ d d' e, Run Step (underway 2) [d, d'] e ∧
      (∀ d₁ ∈ [d, d'], Sparing d₁.command) ∧ BatchesCounted (underway 2) [d, d'] e := by
  obtain ⟨d, d', e, hd, hd', hr⟩ := exists_run_singly
  have ht : ∀ d₁ ∈ [d, d'], Sparing d₁.command := by
    simp [hd.sparing, hd'.sparing]
  exact ⟨attaching_underway 2, d, d', e, hr, ht, attach_counts_batches (attaching_underway 2) hr ht⟩

/-- With a delay of two ticks, two reports of one tick each complete an attach, and one report of both ticks
does not. -/
theorem attach_depends_on_reports :
    Attaching (underway 2).layers ∧ (underway 2).layers.settings.attachDelayTicks = 2 ∧
      (∃ d d' e, d.Reports 1 ∧ d'.Reports 1 ∧ Run Step (underway 2) [d, d'] e ∧ passed [d, d'] = 2 ∧
        e.layers.emm = .registered) ∧
      ∃ d e, d.Reports 2 ∧ Run Step (underway 2) [d] e ∧ passed [d] = 2 ∧
        e.layers.emm = .registeredInitiated := by
  refine ⟨attaching_underway 2, rfl, ?_, ?_⟩
  · obtain ⟨d, d', e, hd, hd', hr⟩ := exists_run_singly
    have hc := counts_of_run (attaching_underway 2) hr (by simp [hd.sparing, hd'.sparing])
    have hb := batches_of_reports hr (by simpa using ⟨⟨1, hd⟩, ⟨1, hd'⟩⟩)
    have hp := passed_of_paced hr (by simp [hd, hd'])
    rw [hb] at hc
    exact ⟨d, d', e, hd, hd', hr, hp, hc.emm⟩
  · obtain ⟨d, e, hd, hr⟩ := exists_run_together
    have hc := counts_of_run (attaching_underway 2) hr (by simp [hd.sparing])
    obtain ⟨hb, hp⟩ := (run_singleton_iff.1 hr).report hd
    rw [hb] at hc
    exact ⟨d, e, hd, hr, hp, hc.emm⟩

end LteUe.SimLayers
