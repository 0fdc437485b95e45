import LteUe.Proofs.Executor.Frame
import LteUe.Proofs.Executor.Reports
import LteUe.Proofs.Tick.Statistics
import LteUe.Proofs.Timer.Faults

/-!
# What the executor counts

A batch that works counts as many ticks as its report covers, and steps the timers that often
(`Work.processed_batch`). A report that took too long is counted twice, by the executor and
by the profiler. The two counts rise together whatever becomes of the report (`Work.warned_runTti`), and no other
task touches them (`Work.still_perform`).
-/

namespace LteUe

variable {L κ α : Type}

namespace TickProfiler

/-- The end of a measurement counts a late batch if the duration is above the threshold. A total out of range
faults before that. -/
inductive Stopped (p : TickProfiler) :
    EStateM.Result Fault TickProfiler (Option (Span × Option TickStats)) → Prop
  | idle : Stopped p (.ok none p)
  | measured {d : Span} {r : Option TickStats} {q : TickProfiler} : q.threshold = p.threshold →
      q.late = p.late + (if p.threshold < d then 1 else 0) → Stopped p (.ok (some (d, r)) q)
  | overflow {f : Fault} {q : TickProfiler} : q.late = p.late → Stopped p (.error f q)

theorem stopped_stop (now : Span) (p : TickProfiler) : Stopped p (stop now p) := by
  rw [stop, get_bind]
  cases p.started with
  | none => exact .idle
  | some begun =>
    dsimp only
    rw [modify_bind]
    show Stopped p (EStateM.bind (record (now - begun)) _ { p with started := none })
    unfold EStateM.bind
    rw [record_eq]
    dsimp only
    cases p.total.add? (now - begun) with
    | none => exact .overflow rfl
    | some total =>
      have hlate : (if p.threshold < now - begun then p.late + 1 else p.late) =
          p.late + (if p.threshold < now - begun then 1 else 0) := by
        split <;> rfl
      dsimp only
      by_cases hp : p.period ≤ p.batches + 1
      · rw [if_pos hp]
        exact .measured rfl hlate
      · rw [if_neg hp]
        exact .measured rfl hlate

end TickProfiler

/-- The report that a command is about, given by its tick and its jump. -/
def Command.report? : Command → Option (UInt32 × UInt32)
  | .tick tti jump => some (tti, jump)
  | _ => none

namespace Work

/-! ## Books that stay -/

/-- Neither tasks nor ticks have been counted, nor anything about batches. -/
structure Still (y y' : Executor L κ × Shared κ) : Prop where
  books : books y'.1 = books y.1
  ticks : y'.1.ticksProcessed = y.1.ticksProcessed
  executed : y'.1.tasksExecuted = y.1.tasksExecuted
  faulted : y'.1.tasksFaulted = y.1.tasksFaulted

theorem composes_still : Composes (Still (L := L) (κ := κ)) where
  refl _ := ⟨rfl, rfl, rfl, rfl⟩
  trans h h' := ⟨h'.books.trans h.books, h'.ticks.trans h.ticks, h'.executed.trans h.executed,
    h'.faulted.trans h.faulted⟩

theorem still_hook (h : Hook L κ α) : Moves Still (hook h) := by
  rintro ⟨e, s⟩
  obtain ⟨l, r, ho⟩ := outcome_hook h e s
  rw [ho]
  exact ⟨rfl, rfl, rfl, rfl⟩

variable [Layers L κ]

theorem still_stepTimers : Moves Still (stepTimers : Work L κ Nat) := by
  rintro ⟨e, s⟩
  obtain ⟨t, l, r, ho⟩ := outcome_stepTimers e s
  rw [ho]
  exact ⟨rfl, rfl, rfl, rfl⟩

theorem still_teardown : Moves Still (teardown : Work L κ Unit) := by
  have hc : Composes (@Still L κ) := composes_still
  exact hc.bind (moves_modify fun _ => ⟨rfl, rfl, rfl, rfl⟩) fun _ =>
    hc.bind (still_hook _) fun _ => hc.bind (still_hook _) fun _ => hc.bind (still_hook _) fun _ =>
    hc.bind (still_hook _) fun _ => hc.bind (still_hook _) fun _ => hc.bind (still_hook _) fun _ =>
    moves_modify fun _ => ⟨rfl, rfl, rfl, rfl⟩

theorem still_perform {c : Command} (h : c.report? = none) :
    Moves Still (perform c : Work L κ Reply) := by
  have hc : Composes (@Still L κ) := composes_still
  cases c with
  | tick tti jump => cases h
  | attach => exact hc.bind (still_hook _) fun _ => hc.pure _
  | detach switchOff => exact hc.bind (still_hook _) fun _ => hc.pure _
  | hasData lcid => exact hc.bind (still_hook _) fun _ => hc.pure _
  | metrics => exact hc.bind hc.get fun _ => hc.pure _
  | ask v fault =>
    cases fault with
    | none => exact hc.pure _
    | some text => exact hc.throw _
  | uplink lcid sdu blocking => exact hc.bind (still_hook _) fun _ => hc.pure _
  | sync inSync => exact hc.bind (still_hook _) fun _ => hc.pure _
  | note label faulty =>
    refine hc.bind (hc.bind hc.get fun _ => hc.bind (moves_modify fun _ => ⟨rfl, rfl, rfl, rfl⟩) fun _ => ?_)
      fun _ => hc.pure _
    cases faulty with
    | true => exact hc.throw _
    | false => exact hc.pure _
  | searchDone result cell => exact hc.bind (still_hook _) fun _ => hc.pure _
  | selectDone selected => exact hc.bind (still_hook _) fun _ => hc.pure _
  | idle => exact hc.pure _
  | teardown => exact hc.bind still_teardown fun _ => hc.pure _

/-! ## Late batches -/

omit [Layers L κ] in
/-- The executor and the profiler have counted as many late batches, and no backlog is forgotten. -/
def Warned (y y' : Executor L κ × Shared κ) : Prop :=
  ∃ n, y'.1.longTickWarnings = y.1.longTickWarnings + n ∧ y'.1.profiler.late = y.1.profiler.late + n ∧
    y.1.backlogWarnings ≤ y'.1.backlogWarnings

omit [Layers L κ] in
theorem composes_warned : Composes (Warned (L := L) (κ := κ)) where
  refl _ := ⟨0, rfl, rfl, Nat.le_refl _⟩
  trans := by
    rintro y y' y'' ⟨n, h₁, h₂, h₃⟩ ⟨m, h₁', h₂', h₃'⟩
    exact ⟨n + m, by omega, by omega, by omega⟩

omit [Layers L κ] in
theorem SameBooks.warned {y y' : Executor L κ × Shared κ} (h : SameBooks y y') : Warned y y' := by
  unfold SameBooks books at h
  simp only [Prod.mk.injEq] at h
  obtain ⟨hp, -, hl, hw⟩ := h
  exact ⟨0, hl, by rw [hp]; rfl, Nat.le_of_eq hw.symm⟩

omit [Layers L κ] in
theorem Still.warned {y y' : Executor L κ × Shared κ} (h : Still y y') : Warned y y' :=
  SameBooks.warned h.books

omit [Layers L κ] in
theorem warned_startMeasuring : Moves Warned (startMeasuring : Work L κ Unit) := by
  refine moves_modify ?_
  rintro ⟨e, s⟩
  dsimp only
  split
  · exact ⟨0, rfl, rfl, Nat.le_refl _⟩
  · exact composes_warned.refl _

theorem warned_batch (tti jump : UInt32) : Moves Warned (batch tti jump : Work L κ Unit) := by
  have hc : Composes (@Warned L κ) := composes_warned
  exact hc.bind warned_startMeasuring fun _ =>
    hc.bind (moves_modify fun _ => ⟨0, rfl, rfl, Nat.le_refl _⟩) fun _ =>
    hc.bind ((moves_subTicks _).mono SameBooks.warned) fun _ =>
    hc.bind (moves_hook.mono SameBooks.warned) fun _ => moves_hook.mono SameBooks.warned

omit [Layers L κ] in
theorem warned_checkBacklog : Moves Warned (checkBacklog : Work L κ Unit) := by
  refine moves_modify ?_
  rintro ⟨e, s⟩
  dsimp only
  split
  · exact ⟨0, rfl, rfl, Nat.le_succ _⟩
  · exact composes_warned.refl _

omit [Layers L κ] in
theorem stopMeasuring_ok {e : Executor L κ} {s : Shared κ} {elapsed : Option Span} {z : Executor L κ × Shared κ}
    (h : stopMeasuring (e, s) = .ok elapsed z) : ∃ q s', z = ({ e with profiler := q }, s') ∧
      q.threshold = e.profiler.threshold ∧
      q.late = e.profiler.late + (if elapsed.any fun d => decide (e.profiler.threshold < d) then 1 else 0) := by
  unfold stopMeasuring at h
  dsimp only at h
  have hs := TickProfiler.stopped_stop s.world.readClock.1 e.profiler
  generalize TickProfiler.stop s.world.readClock.1 e.profiler = r at hs h
  cases hs with
  | idle =>
    cases h
    exact ⟨_, _, rfl, rfl, rfl⟩
  | measured ht hl =>
    cases h
    exact ⟨_, _, rfl, ht, by simpa using hl⟩
  | overflow => cases h

omit [Layers L κ] in
theorem stopMeasuring_error {e : Executor L κ} {s : Shared κ} {f : Fault} {z : Executor L κ × Shared κ}
    (h : stopMeasuring (e, s) = .error f z) :
    ∃ q s', z = ({ e with profiler := q }, s') ∧ q.late = e.profiler.late := by
  unfold stopMeasuring at h
  dsimp only at h
  have hs := TickProfiler.stopped_stop s.world.readClock.1 e.profiler
  generalize TickProfiler.stop s.world.readClock.1 e.profiler = r at hs h
  cases hs with
  | idle => cases h
  | measured => cases h
  | overflow hl =>
    cases h
    exact ⟨_, _, rfl, hl⟩

omit [Layers L κ] in
theorem checkDuration_eq (tti jump : UInt32) (elapsed : Option Span) (e : Executor L κ) (s : Shared κ) :
    ∃ s', checkDuration tti jump elapsed (e, s) = .ok () ({ e with longTickWarnings := e.longTickWarnings +
      (if elapsed.any fun d => decide (e.profiler.threshold < d) then 1 else 0) }, s') := by
  by_cases hd : (elapsed.any fun d => decide (e.profiler.threshold < d)) = true
  · refine ⟨s.report (longTick tti jump), ?_⟩
    show EStateM.Result.ok () (if _ then _ else _) = _
    rw [if_pos hd, if_pos hd]
  · refine ⟨s, ?_⟩
    show EStateM.Result.ok () (if _ then _ else _) = _
    rw [if_neg hd, if_neg hd]
    rfl

omit [Layers L κ] in
theorem warned_finish (tti jump : UInt32) : Moves Warned (do
    let elapsed ← stopMeasuring
    checkDuration tti jump elapsed
    checkBacklog : Work L κ Unit) := by
  rintro ⟨e, s⟩
  cases hs : (stopMeasuring : Work L κ (Option Span)) (e, s) with
  | error f z =>
    obtain ⟨q, s', rfl, hl⟩ := stopMeasuring_error hs
    rw [outcome_bind_of_error hs]
    exact ⟨0, rfl, hl, Nat.le_refl _⟩
  | ok elapsed z =>
    obtain ⟨q, s', rfl, ht, hl⟩ := stopMeasuring_ok hs
    obtain ⟨s'', hd⟩ := checkDuration_eq tti jump elapsed { e with profiler := q } s'
    rw [outcome_bind_of_ok hs, outcome_bind_of_ok hd]
    have hlate : Warned (e, s) ({ e with
        profiler := q
        longTickWarnings := e.longTickWarnings +
          (if elapsed.any fun d => decide (q.threshold < d) then 1 else 0) }, s'') :=
      ⟨_, rfl, by rw [ht]; exact hl, Nat.le_refl _⟩
    exact composes_warned.trans hlate (warned_checkBacklog _)

theorem warned_runTti (tti jump : UInt32) : Moves Warned (runTti tti jump : Work L κ Unit) := by
  rw [runTti_eq]
  exact composes_warned.bind (warned_batch tti jump) fun _ => warned_finish tti jump

theorem warned_perform (c : Command) : Moves Warned (perform c : Work L κ Reply) := by
  cases c with
  | tick tti jump => exact composes_warned.bind (warned_runTti tti jump) fun _ => composes_warned.pure _
  | _ => exact (still_perform rfl).mono Still.warned

/-! ## Ticks -/

section Ticks

variable {tti jump : UInt32} {ttis : List UInt32} {u : Unit} {y z : Executor L κ × Shared κ}

/-- How often these ticks step the timers, up to one that faults. -/
def stepsIn : List UInt32 → Executor L κ × Shared κ → Nat
  | [], _ => 0
  | tti :: ttis, y =>
    match (hook (Layers.macTick tti) : Work L κ Unit) y with
    | .error _ _ => 0
    | .ok _ z =>
      match (tickTimers : Work L κ Unit) z with
      | .error _ _ => 1
      | .ok _ z => stepsIn ttis z + 1

/-- How often a task steps the timers. Only a report does. -/
def stepsOf : Command → Executor L κ × Shared κ → Nat
  | .tick tti jump, y =>
    let (e, s) := (outcome startMeasuring y).2
    stepsIn (Tti.subTicks tti jump) ({ e with currentTti := some (tti % Tti.wrap) }, s)
  | _, _ => 0

theorem processed_tickTimers (h : tickTimers y = .ok u z) : z.1.ticksProcessed = y.1.ticksProcessed + 1 := by
  obtain ⟨_, v, hv, h⟩ := bind_eq_ok_iff.1 h
  obtain ⟨_, w, hw, hz⟩ := bind_eq_ok_iff.1 h
  cases hv
  cases hz
  exact congrArg (· + 1) (still_stepTimers.of_ok hw).ticks

theorem processed_tickTimers_of_error {f : Fault} (h : (tickTimers : Work L κ Unit) y = .error f z) :
    z.1.ticksProcessed = y.1.ticksProcessed := by
  obtain h | ⟨_, v, hv, h⟩ := bind_eq_error_iff.1 h
  · cases h
  · cases hv
    obtain h | ⟨_, w, _, h⟩ := bind_eq_error_iff.1 h
    · exact (still_stepTimers.of_error h).ticks
    · cases h

theorem processed_subTick (h : subTick tti y = .ok u z) : z.1.ticksProcessed = y.1.ticksProcessed + 1 := by
  rw [subTick_eq] at h
  obtain ⟨_, w, hw, hz⟩ := bind_eq_ok_iff.1 h
  rw [processed_tickTimers hz, ((still_hook _).of_ok hw).ticks]

theorem processed_subTicks (h : ttis.forM subTick y = .ok u z) :
    z.1.ticksProcessed = y.1.ticksProcessed + ttis.length := by
  induction ttis generalizing y with
  | nil =>
    cases h
    rfl
  | cons tti ttis ih =>
    obtain ⟨_, w, hw, hz⟩ := bind_eq_ok_iff.1 h
    rw [ih hz, processed_subTick hw, List.length_cons]
    omega

theorem stepsIn_of_ok (h : ttis.forM subTick y = .ok u z) : stepsIn ttis y = ttis.length := by
  induction ttis generalizing y with
  | nil => rfl
  | cons tti ttis ih =>
    obtain ⟨_, w, hw, hz⟩ := bind_eq_ok_iff.1 h
    rw [subTick_eq] at hw
    obtain ⟨_, v, hv, hw⟩ := bind_eq_ok_iff.1 hw
    rw [stepsIn, hv]
    dsimp only
    rw [hw, List.length_cons, ← ih hz]

/-- A batch that works has counted the ticks of its report, has stepped the timers that often, and has set the
current tick. -/
theorem processed_batch (h : batch tti jump y = .ok u z) :
    z.1.ticksProcessed = y.1.ticksProcessed + jump.toNat ∧ z.1.currentTti = some (tti % Tti.wrap) ∧
      stepsOf (.tick tti jump) y = jump.toNat := by
  obtain ⟨_, y₁, h₁, h⟩ := bind_eq_ok_iff.1 h
  obtain ⟨_, y₂, h₂, h⟩ := bind_eq_ok_iff.1 h
  cases h₂
  obtain ⟨_, w, hw, h⟩ := bind_eq_ok_iff.1 h
  obtain ⟨_, v, hv, hz⟩ := bind_eq_ok_iff.1 h
  have h₁' := (booked_startMeasuring.of_ok h₁).quiet.ticks
  have hw' := processed_subTicks hw
  have hv' := (still_hook _).of_ok hv
  have hz' := (still_hook _).of_ok hz
  refine ⟨?_, ?_, ?_⟩
  · rw [hz'.ticks, hv'.ticks, hw', Tti.length_subTicks, ← h₁']
  · have htti := congrArg (·.2.1) ((moves_subTicks _).of_ok hw)
    exact (congrArg (·.2.1) (hz'.books.trans hv'.books)).trans htti
  · rw [← Tti.length_subTicks tti jump, ← stepsIn_of_ok hw, stepsOf, outcome, h₁]

/-! ## Faults of a batch -/

/-- A call of a report faults somewhere. -/
def Raises (L : Type) {κ : Type} [Layers L κ] (tti jump : UInt32) (f : Fault) : Prop :=
  ∃ c : Call κ, Call.Of (.tick tti jump) c ∧ ∃ y z, (c.hook : Hook L κ Unit) y = .error f z

variable {f : Fault}

omit [Layers L κ] in
theorem hook_eq_error {h : Hook L κ α} (hy : hook h y = .error f z) : ∃ v w, h v = .error f w := by
  obtain ⟨e, s⟩ := y
  unfold hook at hy
  dsimp only at hy
  cases hh : h (e.layers, s.toSurroundings) with
  | ok a v =>
    rw [hh] at hy
    cases hy
  | error f' v =>
    rw [hh] at hy
    cases hy
    exact ⟨_, _, hh⟩

theorem raises_of_hook {c : Call κ} (hc : Call.Of (.tick tti jump) c) (h : hook c.hook y = .error f z) :
    Raises (κ := κ) L tti jump f := by
  obtain ⟨v, w, hv⟩ := hook_eq_error h
  exact ⟨c, hc, v, w, hv⟩

theorem raises_of_stepTimers (h : (stepTimers : Work L κ Nat) y = .error f z) :
    Raises (κ := κ) L tti jump f := by
  obtain ⟨e, s⟩ := y
  unfold stepTimers at h
  dsimp only at h
  cases hs : TimerTable.stepAll (Layers.fire : κ → Hook L κ κ) (e.timers, e.layers, s.toSurroundings) with
  | ok n v =>
    rw [hs] at h
    cases h
  | error f' v =>
    rw [hs] at h
    cases h
    obtain ⟨i, kept, hcut⟩ := TimerTable.stepAll_error hs
    obtain ⟨_, k, x, -, -, -, -, hk⟩ := hcut.fault
    refine ⟨.fire k, .tick tti jump rfl, x, v.2, ?_⟩
    show EStateM.map _ (Layers.fire k : Hook L κ κ) x = _
    rw [EStateM.map, hk]

theorem raises_of_subTicks (h : (ttis.forM subTick : Work L κ Unit) y = .error f z) :
    Raises (κ := κ) L tti jump f := by
  induction ttis generalizing y with
  | nil => cases h
  | cons id ttis ih =>
    obtain h | ⟨_, w, -, h⟩ := bind_eq_error_iff.1 h
    · rw [subTick_eq] at h
      obtain h | ⟨_, w, -, h⟩ := bind_eq_error_iff.1 h
      · exact raises_of_hook (c := .macTick id) (.tick tti jump rfl) h
      · obtain h | ⟨_, v, -, h⟩ := bind_eq_error_iff.1 h
        · cases h
        · obtain h | ⟨_, v', -, h⟩ := bind_eq_error_iff.1 h
          · exact raises_of_stepTimers h
          · cases h
    · exact ih h

theorem raises_of_batch (h : (batch tti jump : Work L κ Unit) y = .error f z) :
    Raises (κ := κ) L tti jump f := by
  obtain h | ⟨_, y₁, -, h⟩ := bind_eq_error_iff.1 h
  · cases h
  obtain h | ⟨_, y₂, -, h⟩ := bind_eq_error_iff.1 h
  · cases h
  obtain h | ⟨_, w, -, h⟩ := bind_eq_error_iff.1 h
  · exact raises_of_subTicks h
  obtain h | ⟨_, v, -, h⟩ := bind_eq_error_iff.1 h
  · exact raises_of_hook (c := .rrcBatch) (.rrcBatch tti jump) h
  · exact raises_of_hook (c := .nasBatch) (.nasBatch tti jump) h

end Ticks

/-! ## Tasks -/

omit [Layers L κ] in
/-- What an executor has counted in the course of these reports. -/
structure Counts (rs : List (UInt32 × UInt32)) (e e' : Executor L κ) : Prop where
  ticks : e'.ticksProcessed = e.ticksProcessed + Tti.total (rs.map (·.2))
  currentTti : e'.currentTti = (rs.getLast?.map fun r => r.1 % Tti.wrap).or e.currentTti
  late : ∃ n, e'.longTickWarnings = e.longTickWarnings + n ∧ e'.profiler.late = e.profiler.late + n
  backlog : e.backlogWarnings ≤ e'.backlogWarnings

section Counts

omit [Layers L κ]

variable {rs rs' : List (UInt32 × UInt32)} {e e' e'' : Executor L κ}

theorem Counts.trans (h : Counts rs e e') (h' : Counts rs' e' e'') : Counts (rs ++ rs') e e'' where
  ticks := by
    rw [h'.ticks, h.ticks, List.map_append, Tti.total_append]
    omega
  currentTti := by
    rw [h'.currentTti, h.currentTti, List.getLast?_append, Option.map_or, Option.or_assoc]
  late := by
    obtain ⟨n, hl, hp⟩ := h.late
    obtain ⟨n', hl', hp'⟩ := h'.late
    exact ⟨n + n', by omega, by omega⟩
  backlog := h.backlog.trans h'.backlog

theorem Still.counts {y y' : Executor L κ × Shared κ} (h : Still y y') : Counts [] y.1 y'.1 where
  ticks := h.ticks
  currentTti := congrArg (·.2.1) h.books
  late := by
    obtain ⟨n, hl, hp, -⟩ := h.warned
    exact ⟨n, hl, hp⟩
  backlog := by
    obtain ⟨-, -, -, hb⟩ := h.warned
    exact hb

end Counts

theorem outcome_tick (tti jump : UInt32) (y : Executor L κ × Shared κ) :
    (outcome (perform (.tick tti jump)) y).2 = (outcome (runTti tti jump) y).2 := by
  show (outcome (EStateM.bind (runTti tti jump) _) y).2 = _
  unfold outcome EStateM.bind
  cases runTti tti jump y <;> rfl

/-- A report whose batch works is counted, whatever becomes of its measurement. -/
theorem counts_tick {tti jump : UInt32} {u : Unit} {y z : Executor L κ × Shared κ}
    (h : batch tti jump y = .ok u z) :
    Counts [(tti, jump)] y.1 (outcome (perform (.tick tti jump)) y).2.1 := by
  obtain ⟨hticks, htti, -⟩ := processed_batch h
  have hb := booked_runTti tti jump y
  obtain ⟨n, hl, hp, hw⟩ := warned_perform (.tick tti jump) y
  refine ⟨?_, ?_, ⟨n, hl, hp⟩, hw⟩
  · rw [outcome_tick, hb.quiet.ticks, outcome, h, hticks]
    rfl
  · obtain ⟨_, _, _, _, _, hb⟩ := hb
    rw [outcome_tick, hb, outcome, h, htti]
    rfl

variable {c : Command} {y : Executor L κ × Shared κ}

/-- The batch of a task works, if it has one. -/
def BatchWorks (c : Command) (y : Executor L κ × Shared κ) : Prop :=
  ∀ tti jump, c = .tick tti jump → ∃ z, batch tti jump y = .ok () z

/-- A batch that does not work faults with the fault of a hook or of a callback. -/
theorem batchWorks_or_raises (c : Command) (y : Executor L κ × Shared κ) : BatchWorks c y ∨
    ∃ tti jump f z, c = .tick tti jump ∧ batch tti jump y = .error f z ∧ Raises (κ := κ) L tti jump f := by
  cases hc : c.report? with
  | none =>
    refine .inl fun tti jump h => ?_
    rw [h] at hc
    cases hc
  | some r =>
    cases c with
    | tick tti jump =>
      cases hb : (batch tti jump : Work L κ Unit) y with
      | ok u z =>
        refine .inl fun tti' jump' h => ?_
        cases h
        exact ⟨z, hb⟩
      | error f z => exact .inr ⟨tti, jump, f, z, rfl, hb, raises_of_batch hb⟩
    | _ => cases hc

theorem counts_perform (h : BatchWorks c y) : Counts c.report?.toList y.1 (outcome (perform c) y).2.1 := by
  cases c with
  | tick tti jump =>
    obtain ⟨z, hz⟩ := h tti jump rfl
    exact counts_tick hz
  | _ => exact (still_perform rfl y).counts

theorem stepsOf_eq (h : BatchWorks c y) : stepsOf c y = Tti.total (c.report?.toList.map (·.2)) := by
  cases c with
  | tick tti jump =>
    obtain ⟨z, hz⟩ := h tti jump rfl
    exact (processed_batch hz).2.2
  | _ => rfl

end Work

end LteUe
