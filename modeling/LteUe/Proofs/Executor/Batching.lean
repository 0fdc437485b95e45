import LteUe.Layers.Observed
import LteUe.Proofs.Executor.Recording
import LteUe.Proofs.Tti

/-!
# Reports may be batched

The radio clock may report its ticks one by one or many at a time. As long as the hooks of a batch keep away
from medium access control, the timers and the deferrals (`Layers.Separate`), a report does to these what
its single ticks do (`Work.exists_ticks`). So it makes no difference to them where one report ends and
the next begins (`Work.batching`).
-/

namespace LteUe

variable {L κ M : Type}

/-- The hooks of a batch are separate from medium access control, the timers and the deferrals: `ρ` relates
layers in their surroundings that medium access control and the timer callbacks cannot tell apart, and
neither a hook of a batch nor the clock nor the log leads out of what it relates. `mac` is the state of
medium access control. -/
structure Layers.Separate [Layers L κ] (ρ : L × Surroundings κ → L × Surroundings κ → Prop) (mac : L → M) :
    Prop extends Layers.Couples ρ where
  symm {y y' : L × Surroundings κ} : ρ y y' → ρ y' y
  trans {y y' y'' : L × Surroundings κ} : ρ y y' → ρ y' y'' → ρ y y''
  mac {y y' : L × Surroundings κ} : ρ y y' → mac y.1 = mac y'.1
  rrcBatch {y y' z : L × Surroundings κ} : ρ y y' → Layers.rrcBatch y = .ok () z → ρ z y'
  nasBatch {y y' z : L × Surroundings κ} : ρ y y' → Layers.nasBatch y = .ok () z → ρ z y'
  clock {l : L} {r : Surroundings κ} {y' : L × Surroundings κ} (now : Span) (log : Array Log.Event) :
    ρ (l, r) y' → ρ (l, { r with world := { r.world with now := now, log := log } }) y'

namespace Work

variable {α : Type} {y y' z z' w : Executor L κ × Shared κ} {tti jump : UInt32} {u : Unit}

/-! ## The parts of a report -/

variable [Layers L κ]

/-- Processes reports one after the other, each given by its tick and its jump. -/
def runReports (rs : List (UInt32 × UInt32)) : Work L κ Unit := rs.forM fun r => runTti r.1 r.2

/-- A report consists of its ticks and the two hooks of the batch, with bookkeeping before and after. -/
theorem runTti_ok (h : runTti tti jump y = .ok u z) :
    ∃ y₁ w w₁ w₂, Booked y y₁ ∧
      (Tti.subTicks tti jump).forM subTick ({ y₁.1 with currentTti := some (tti % Tti.wrap) }, y₁.2) =
        .ok () w ∧
      hook Layers.rrcBatch w = .ok () w₁ ∧ hook Layers.nasBatch w₁ = .ok () w₂ ∧ Booked w₂ z := by
  unfold runTti at h
  obtain ⟨_, y₁, h₁, h⟩ := bind_eq_ok_iff.1 h
  obtain ⟨_, y₂, h₂, h⟩ := bind_eq_ok_iff.1 h
  cases h₂
  obtain ⟨_, w, h₃, h⟩ := bind_eq_ok_iff.1 h
  obtain ⟨_, w₁, h₄, h⟩ := bind_eq_ok_iff.1 h
  obtain ⟨_, w₂, h₅, h⟩ := bind_eq_ok_iff.1 h
  refine ⟨y₁, w, w₁, w₂, booked_startMeasuring.of_ok h₁, h₃, h₄, h₅, ?_⟩
  refine Moves.of_ok ?_ h
  exact composes_booked.bind booked_stopMeasuring fun _ =>
    composes_booked.bind (booked_checkDuration _ _ _) fun _ => booked_checkBacklog

theorem currentTti_runTti (h : runTti tti jump y = .ok u z) : z.1.currentTti = some (tti % Tti.wrap) := by
  obtain ⟨y₁, w, w₁, w₂, -, h₁, h₂, h₃, _, _, _, _, _, rfl⟩ := runTti_ok h
  have hw := congrArg (·.2.1) ((moves_subTicks _).of_ok h₁)
  have hw₁ := congrArg (·.2.1) (moves_hook.of_ok h₂)
  have hw₂ := congrArg (·.2.1) (moves_hook.of_ok h₃)
  exact hw₂.trans (hw₁.trans hw)

theorem Booked.alongside {ρ : L × Surroundings κ → L × Surroundings κ → Prop} {mac : L → M}
    (hρ : Layers.Separate ρ mac) (h : Booked y z) (hy : Alongside ρ y w) : Alongside ρ z w := by
  obtain ⟨p, l, b, now, log, rfl⟩ := h
  exact { hy with context := hρ.clock now log hy.context }

section Separate

variable {ρ : L × Surroundings κ → L × Surroundings κ → Prop} {mac : L → M} (hρ : Layers.Separate ρ mac)

include hρ

theorem Alongside.symm (h : Alongside ρ y z) : Alongside ρ z y :=
  ⟨hρ.symm h.context, h.timers.symm, h.ticks.symm, h.executed.symm, h.faulted.symm, h.running.symm,
    h.state.symm, h.radio.symm, h.config.symm, h.dispatcher.symm, h.uplinkDropped.symm, h.slots.symm⟩

theorem Alongside.trans (h : Alongside ρ y z) (h' : Alongside ρ z w) : Alongside ρ y w :=
  ⟨hρ.trans h.context h'.context, h.timers.trans h'.timers, h.ticks.trans h'.ticks,
    h.executed.trans h'.executed, h.faulted.trans h'.faulted, h.running.trans h'.running,
    h.state.trans h'.state, h.radio.trans h'.radio, h.config.trans h'.config,
    h.dispatcher.trans h'.dispatcher, h.uplinkDropped.trans h'.uplinkDropped, h.slots.trans h'.slots⟩

/-- A hook that does not lead out of what `ρ` relates leads no executor away from another. -/
theorem Alongside.hook_left {h : Hook L κ Unit} (hh : ∀ {y y' z}, ρ y y' → h y = .ok () z → ρ z y')
    (hy : Alongside ρ y w) (hz : hook h y = .ok () z) : Alongside ρ z w := by
  obtain ⟨e, s⟩ := y
  obtain ⟨l, r, hx, rfl⟩ := hook_eq_ok_iff.1 hz
  exact hy.leave hρ.toCouples (hh hy.context hx) hy.timers

theorem exists_ticks (hy : Alongside ρ y y) (h : runTti tti jump y = .ok u z) :
    ∃ w, (Tti.subTicks tti jump).forM subTick y = .ok () w ∧ Alongside ρ w z := by
  obtain ⟨y₁, w, w₁, w₂, hb, h₁, h₂, h₃, hb'⟩ := runTti_ok h
  have hy₁ : Alongside ρ ({ y₁.1 with currentTti := some (tti % Tti.wrap) }, y₁.2) y :=
    { hb.alongside hρ hy with }
  obtain ⟨v, hv, hwv⟩ := (relates_subTicks hρ.toCouples _).of_ok hy₁ h₁
  have h₁v := hwv.hook_left hρ hρ.rrcBatch h₂
  have h₂v := h₁v.hook_left hρ hρ.nasBatch h₃
  exact ⟨v, hv, (hb'.alongside hρ h₂v).symm hρ⟩

theorem exists_ticks_of_reports {rs : List (UInt32 × UInt32)} (hy : Alongside ρ y y)
    (h : runReports rs y = .ok u z) :
    ∃ w, (rs.flatMap fun r => Tti.subTicks r.1 r.2).forM subTick y = .ok () w ∧ Alongside ρ w z := by
  induction rs generalizing y with
  | nil =>
    cases h
    exact ⟨_, rfl, hy⟩
  | cons r rs ih =>
    obtain ⟨_, z₁, h₁, h₂⟩ := bind_eq_ok_iff.1 h
    obtain ⟨w₁, hw₁, h₁z⟩ := exists_ticks hρ hy h₁
    obtain ⟨w₂, hw₂, h₂z⟩ := ih ((h₁z.symm hρ).trans hρ h₁z) h₂
    -- The remaining ticks do after the ticks of the first report what they do after the report itself.
    obtain ⟨w₃, hw₃, h₂₃⟩ := (relates_subTicks hρ.toCouples _).of_ok (h₁z.symm hρ) hw₂
    refine ⟨w₃, ?_, (h₂₃.symm hρ).trans hρ h₂z⟩
    rw [List.flatMap_cons]
    exact (congrFun List.forM_append y).trans (bind_eq_ok_iff.2 ⟨(), w₁, hw₁, hw₃⟩)

theorem alongside_of_reports {rs rs' : List (UInt32 × UInt32)} (hy : Alongside ρ y y)
    (hrs : (rs.flatMap fun r => Tti.subTicks r.1 r.2) = rs'.flatMap fun r => Tti.subTicks r.1 r.2)
    (h : runReports rs y = .ok u z) (h' : runReports rs' y = .ok u z') : Alongside ρ z z' := by
  obtain ⟨w, hw, hz⟩ := exists_ticks_of_reports hρ hy h
  obtain ⟨w', hw', hz'⟩ := exists_ticks_of_reports hρ hy h'
  rw [hrs, hw'] at hw
  cases hw
  exact (hz.symm hρ).trans hρ hz'

end Separate

theorem currentTti_runReports {jumps : List UInt32} (hj : jumps ≠ [])
    (h : runReports (Tti.reports tti jumps) y = .ok u z) : z.1.currentTti = some (tti % Tti.wrap) := by
  induction jumps generalizing y with
  | nil => exact absurd rfl hj
  | cons jump jumps ih =>
    obtain ⟨_, z₁, h₁, h₂⟩ := bind_eq_ok_iff.1 h
    by_cases hjs : jumps = []
    · subst hjs
      cases h₂
      exact currentTti_runTti h₁
    · exact ih hjs h₂

end Work

/-! ## On the record -/

/-- Recorded layers that medium access control and the timer callbacks cannot tell apart, and of which the
calls of single ticks have been the same. -/
def Layers.SameRecord (ρ : L × Surroundings κ → L × Surroundings κ → Prop)
    (y y' : Recorded L κ × Surroundings κ) : Prop :=
  ρ (y.1.layers, y.2) (y'.1.layers, y'.2) ∧ y.1.calls.filter (·.isTick) = y'.1.calls.filter (·.isTick)

section Record

variable {α : Type} {ρ : L × Surroundings κ → L × Surroundings κ → Prop} {c : Call κ}

theorem relates_sameRecord {h : Hook L κ α} (hh : Relates ρ h h) :
    Relates (Layers.SameRecord ρ) (Hook.recorded c h) (Hook.recorded c h) := by
  rintro ⟨l, r⟩ ⟨l', r'⟩ ⟨hy, hc⟩
  have hm := hh _ _ hy
  have hc : (l.calls ++ [c]).filter (·.isTick) = (l'.calls ++ [c]).filter (·.isTick) := by
    rw [List.filter_append, List.filter_append, hc]
  unfold Hook.recorded
  dsimp only at hm ⊢
  generalize h (l.layers, r) = z at hm ⊢
  generalize h (l'.layers, r') = z' at hm ⊢
  cases hm with
  | ok hz => exact .ok ⟨hz, hc⟩
  | error hz => exact .error ⟨hz, hc⟩

theorem recorded_eq_ok {h : Hook L κ α} {a : α} {y z : Recorded L κ × Surroundings κ}
    (hz : Hook.recorded c h y = .ok a z) :
    h (y.1.layers, y.2) = .ok a (z.1.layers, z.2) ∧ z.1.calls = y.1.calls ++ [c] := by
  obtain ⟨l, r⟩ := y
  unfold Hook.recorded at hz
  dsimp only at hz
  cases hx : h (l.layers, r) with
  | error f x => simp [hx] at hz
  | ok b x =>
    rw [hx] at hz
    cases hz
    exact ⟨rfl, rfl⟩

theorem sameRecord_left {h : Hook L κ Unit} (hc : c.isTick = false)
    (hh : ∀ {y y' z}, ρ y y' → h y = .ok () z → ρ z y') {y y' z : Recorded L κ × Surroundings κ}
    (hy : Layers.SameRecord ρ y y') (hz : Hook.recorded c h y = .ok () z) : Layers.SameRecord ρ z y' := by
  obtain ⟨hz, hcalls⟩ := recorded_eq_ok hz
  refine ⟨hh hy.1 hz, ?_⟩
  rw [hcalls, List.filter_append, List.filter_cons_of_neg (by simp [hc]), List.filter_nil, List.append_nil]
  exact hy.2

theorem Layers.Separate.recorded [Layers L κ] {mac : L → M} (h : Layers.Separate ρ mac) :
    Layers.Separate (Layers.SameRecord ρ) fun l => mac l.layers where
  macTick tti := relates_sameRecord (h.macTick tti)
  fire c := relates_sameRecord (h.fire c)
  deferred hy := h.deferred hy.1
  taken hy := ⟨h.taken hy.1, hy.2⟩
  putBack state radio hy := ⟨h.putBack state radio hy.1, hy.2⟩
  symm hy := ⟨h.symm hy.1, hy.2.symm⟩
  trans hy hy' := ⟨h.trans hy.1 hy'.1, hy.2.trans hy'.2⟩
  mac hy := h.mac hy.1
  rrcBatch := sameRecord_left rfl h.rrcBatch
  nasBatch := sameRecord_left rfl h.nasBatch
  clock now log hy := ⟨h.clock now log hy.1, hy.2⟩

end Record

namespace Work

variable {tti jump : UInt32} {u : Unit} {y z z' : Executor (Recorded L κ) κ × Shared κ}

/-- The executor with its layers on a record that is still empty. -/
def record (y : Executor L κ × Shared κ) : Executor (Recorded L κ) κ × Shared κ :=
  ({ y.1 with layers := ⟨y.1.layers, []⟩ }, y.2)

/-- The calls on record that single ticks made: of medium access control, and of timer callbacks. -/
def tickCalls (y : Executor (Recorded L κ) κ × Shared κ) : List (Call κ) :=
  y.1.layers.calls.filter (·.isTick)

/-- All other calls on record. -/
def otherCalls (y : Executor (Recorded L κ) κ × Shared κ) : List (Call κ) :=
  y.1.layers.calls.filter (!·.isTick)

theorem otherCalls_hook {c : Call κ} (hc : c.isTick = false) {h : Hook L κ Unit}
    (hz : hook (Hook.recorded c h) y = .ok u z) : otherCalls z = otherCalls y ++ [c] := by
  obtain ⟨l, r, hr, rfl⟩ := hook_eq_ok_iff.1 hz
  rw [otherCalls, (recorded_eq_ok hr).2, List.filter_append, List.filter_cons_of_pos (by simp [hc]),
    List.filter_nil]
  rfl

variable [Layers L κ]

theorem otherCalls_subTicks {ttis : List UInt32} (h : ttis.forM subTick y = .ok u z) :
    otherCalls z = otherCalls y := by
  have hc : Layers.Couples (Forgets fun l => l.filter (!·.isTick) = otherCalls y :
      Recorded L κ × Surroundings κ → L × Surroundings κ → Prop) :=
    couples_forgets fun l c hc hl => by
      rw [List.filter_append, List.filter_cons_of_neg (by simp [hc]), List.filter_nil, List.append_nil, hl]
  obtain ⟨_, -, hz⟩ := (relates_subTicks hc ttis).of_ok (alongside_forget rfl) h
  exact hz.context.calls

/-- Besides the calls of its ticks a report makes one call of each hook of the batch. -/
theorem otherCalls_runTti (h : runTti tti jump y = .ok u z) :
    otherCalls z = otherCalls y ++ [.rrcBatch, .nasBatch] := by
  obtain ⟨y₁, w, w₁, w₂, ⟨_, _, _, _, _, rfl⟩, h₁, h₂, h₃, ⟨_, _, _, _, _, rfl⟩⟩ := runTti_ok h
  have hticks := otherCalls_subTicks h₁
  change otherCalls w = otherCalls y at hticks
  have hrrc : otherCalls w₁ = otherCalls w ++ [.rrcBatch] := otherCalls_hook rfl h₂
  have hnas : otherCalls w₂ = otherCalls w₁ ++ [.nasBatch] := otherCalls_hook rfl h₃
  show otherCalls w₂ = _
  rw [hnas, hrrc, hticks, List.append_assoc]
  rfl

theorem otherCalls_runReports {rs : List (UInt32 × UInt32)} (h : runReports rs y = .ok u z) :
    otherCalls z = otherCalls y ++ rs.flatMap fun _ => [.rrcBatch, .nasBatch] := by
  induction rs generalizing y with
  | nil =>
    cases h
    exact (List.append_nil _).symm
  | cons r rs ih =>
    obtain ⟨_, z₁, h₁, h₂⟩ := bind_eq_ok_iff.1 h
    rw [ih h₂, otherCalls_runTti h₁, List.append_assoc, List.flatMap_cons]

/-- Two ways of reporting ticks have come to the same: medium access control and the timer callbacks have
got the same calls in the same order, and nothing that ticks reach is different. -/
structure SameTicks (mac : L → M) (z z' : Executor (Recorded L κ) κ × Shared κ) : Prop where
  calls : tickCalls z = tickCalls z'
  mac : mac z.1.layers.layers = mac z'.1.layers.layers
  timers : z.1.timers = z'.1.timers
  deferred : z.2.deferred = z'.2.deferred
  ticks : z.1.ticksProcessed = z'.1.ticksProcessed
  currentTti : z.1.currentTti = z'.1.currentTti
  tasks : z.1.tasksExecuted = z'.1.tasksExecuted ∧ z.1.tasksFaulted = z'.1.tasksFaulted ∧
    z.1.running = z'.1.running
  shared : z.2.config = z'.2.config ∧ z.2.dispatcher = z'.2.dispatcher ∧
    z.2.uplinkDropped = z'.2.uplinkDropped ∧ z.2.slots = z'.2.slots ∧ z.2.state = z'.2.state ∧
    z.2.radio = z'.2.radio

section Theorem

variable {ρ : L × Surroundings κ → L × Surroundings κ → Prop} {mac : L → M} {y₀ : Executor L κ × Shared κ}

theorem sameTicks_of_reports (hρ : Layers.Separate ρ mac)
    (hy : ρ (y₀.1.layers, y₀.2.toSurroundings) (y₀.1.layers, y₀.2.toSurroundings)) {jumps jumps' : List UInt32}
    (hj : jumps ≠ []) (hj' : jumps' ≠ []) (ht : Tti.total jumps = Tti.total jumps')
    (h : runReports (Tti.reports tti jumps) (record y₀) = .ok u z)
    (h' : runReports (Tti.reports tti jumps') (record y₀) = .ok u z') : SameTicks mac z z' := by
  have hy : Alongside (Layers.SameRecord ρ) (record y₀) (record y₀) := by
    refine ⟨⟨hy, rfl⟩, ?_, ?_, ?_, ?_, ?_, ?_, ?_, ?_, ?_, ?_, ?_⟩ <;> rfl
  have hcover : ((Tti.reports tti jumps).flatMap fun r => Tti.subTicks r.1 r.2) =
      (Tti.reports tti jumps').flatMap fun r => Tti.subTicks r.1 r.2 := by
    rw [Tti.flatMap_reports, Tti.flatMap_reports, ht]
  have hz := alongside_of_reports hρ.recorded hy hcover h h'
  exact {
    calls := hz.context.2
    mac := hρ.mac hz.context.1
    timers := hz.timers
    deferred := hρ.deferred hz.context.1
    ticks := hz.ticks
    currentTti := (currentTti_runReports hj h).trans (currentTti_runReports hj' h').symm
    tasks := ⟨hz.executed, hz.faulted, hz.running⟩
    shared := ⟨hz.config, hz.dispatcher, hz.uplinkDropped, hz.slots, hz.state, hz.radio⟩ }

theorem runReports_singleton {r : UInt32 × UInt32} (h : runTti r.1 r.2 y = .ok u z) :
    runReports [r] y = .ok u z :=
  bind_eq_ok_iff.2 ⟨u, z, h, rfl⟩

theorem relates_forget_runReports (rs : List (UInt32 × UInt32)) : Relates (fun y y' => forget y = y')
    (runReports rs : Work (Recorded L κ) κ Unit) (runReports rs : Work L κ Unit) :=
  .forM fun r => relates_forget_runTti r.1 r.2

/-- Batching equivalence. Let the hooks of a batch be separate from medium access control, the timers and
the deferrals. Then one report of `a + b` ticks comes to the same as a report of the first `a` and one of
the last `b` of them, if no work faults; only the hooks of a batch are called once in the one case and
twice in the other. Likewise any two ways of dividing ticks into reports come to the same. All this is
told of layers on record, of which the executor makes the calls that it makes of the layers themselves. -/
theorem batching (hρ : Layers.Separate ρ mac)
    (hy : ρ (y₀.1.layers, y₀.2.toSurroundings) (y₀.1.layers, y₀.2.toSurroundings)) :
    (∀ tti a b : UInt32, a.toNat + b.toNat < 2 ^ 32 → ∀ z z',
      runTti tti (a + b) (record y₀) = .ok () z →
      (do runTti (Tti.sub tti b) a; runTti tti b) (record y₀) = .ok () z' →
      SameTicks mac z z' ∧ otherCalls z = [.rrcBatch, .nasBatch] ∧
        otherCalls z' = [.rrcBatch, .nasBatch, .rrcBatch, .nasBatch]) ∧
    (∀ (tti : UInt32) (jumps jumps' : List UInt32), jumps ≠ [] → jumps' ≠ [] →
      Tti.total jumps = Tti.total jumps' → ∀ z z',
      runReports (Tti.reports tti jumps) (record y₀) = .ok () z →
      runReports (Tti.reports tti jumps') (record y₀) = .ok () z' → SameTicks mac z z') ∧
    ∀ rs : List (UInt32 × UInt32),
      Matches (fun z z₀ => forget z = z₀) (runReports rs (record y₀)) (runReports rs y₀) := by
  refine ⟨fun tti a b hab z z' h h' => ?_, fun tti jumps jumps' hj hj' ht z z' h h' => ?_, fun rs => ?_⟩
  · have hsum : (a + b).toNat = a.toNat + b.toNat := by rw [UInt32.toNat_add, Nat.mod_eq_of_lt hab]
    have h₁ : runReports (Tti.reports tti [a + b]) (record y₀) = .ok () z := runReports_singleton h
    have h₂ : runReports (Tti.reports tti [a, b]) (record y₀) = .ok () z' := by
      obtain ⟨_, w, hw, h'⟩ := bind_eq_ok_iff.1 h'
      exact bind_eq_ok_iff.2 ⟨_, w, hw, runReports_singleton (r := (tti, b)) h'⟩
    refine ⟨?_, otherCalls_runReports h₁, otherCalls_runReports h₂⟩
    exact sameTicks_of_reports hρ hy (by simp) (by simp) (by simp [hsum]) h₁ h₂
  · exact sameTicks_of_reports hρ hy hj hj' ht h h'
  · exact relates_forget_runReports rs (record y₀) y₀ rfl

end Theorem

end Work

/-! ## Observed layers -/

namespace ObservedLayers

/-- Observed layers whose batches post no deferral, and that differ at most in what no tick goes by. -/
structure Like (y y' : ObservedLayers × Surroundings Callback) : Prop where
  plan : y.1.plan = y'.1.plan
  batchDeferral : y.1.plan.batchDeferral = none
  ticks : y.1.ticks = y'.1.ticks
  macCaptured : y.1.macCaptured = y'.1.macCaptured
  state : y.2.state = y'.2.state
  deferred : y.2.deferred = y'.2.deferred

theorem relates_note (text : String) : Relates Like (Hook.note text) (Hook.note text) :=
  relates_modify fun _ _ h => ⟨h.plan, h.batchDeferral, h.ticks, h.macCaptured, h.state, h.deferred⟩

theorem relates_capture (layer : CapturedLayer) (pdu : Bytes) :
    Relates Like (Hook.capture layer pdu) (Hook.capture layer pdu) :=
  relates_modify fun _ _ h => ⟨h.plan, h.batchDeferral, h.ticks, h.macCaptured, h.state, h.deferred⟩

theorem relates_defer (ticks : Nat) (c : Callback) :
    Relates Like (Hook.withHandle (·.defer ticks c)) (Hook.withHandle (·.defer ticks c)) := by
  rintro ⟨l, r⟩ ⟨l', r'⟩ h
  show Matches Like (.ok (r.defer ticks c).1 (l, (r.defer ticks c).2))
    (.ok (r'.defer ticks c).1 (l', (r'.defer ticks c).2))
  have hstate : r.state = r'.state := h.state
  have hdeferred : r.deferred = r'.deferred := h.deferred
  unfold Surroundings.defer
  rw [← hstate]
  split
  · exact .ok ⟨h.plan, h.batchDeferral, h.ticks, h.macCaptured, h.state, h.deferred⟩
  · exact .ok ⟨h.plan, h.batchDeferral, h.ticks, h.macCaptured, rfl, by simp only [hdeferred]⟩

theorem relates_run (tx : Nat) (c : Callback) : Relates Like (c.run tx) (c.run tx) := by
  cases c with
  | deferral label ticks chain faulty =>
    have hrest : ∀ c c' : Callback, Relates Like
        (if chain ≠ 0 then (do let _ ← Hook.withHandle (·.defer ticks c); return c') else return c')
        (if chain ≠ 0 then (do let _ ← Hook.withHandle (·.defer ticks c); return c') else return c') :=
      fun c c' => .ite ((relates_defer ticks c).bind fun _ => .pure c') (.pure c')
    exact (relates_note _).bind fun _ => .ite ((Relates.throw _).bind fun _ => hrest _ _) (hrest _ _)
  | alarm name faulty =>
    exact (relates_note _).bind fun _ => .ite ((Relates.throw _).bind fun _ => .pure _) (.pure _)

theorem relates_macTick (tti : UInt32) : Relates Like (macTick tti) (macTick tti) := by
  have htick : Relates Like (Hook.modifyLayers fun l => { l with ticks := l.ticks + 1 })
      (Hook.modifyLayers fun l => { l with ticks := l.ticks + 1 }) := relates_modify fun _ _ h =>
    ⟨h.plan, h.batchDeferral, congrArg (· + 1) h.ticks, h.macCaptured, h.state, h.deferred⟩
  refine htick.bind fun _ => (relates_note _).bind fun _ => ?_
  rintro ⟨l, r⟩ ⟨l', r'⟩ h
  have hplan : l.plan = l'.plan := h.plan
  have hcaptured : l.macCaptured = l'.macCaptured := h.macCaptured
  show Matches Like ((if l.macCaptured then _ else _ : Act Unit) (l, r))
    ((if l'.macCaptured then _ else _ : Act Unit) (l', r'))
  rw [hplan, hcaptured]
  have hfault : Relates Like (if l'.plan.macFaults.contains tti.toNat then
      throw (.raised s!"mac tti {tti.toNat}") else return () : Act Unit) _ := .ite (.throw _) (.pure ())
  exact Relates.ite ((relates_capture _ _).bind fun _ => hfault) hfault _ _ h

theorem separate : Layers.Separate Like ObservedLayers.ticks where
  macTick := relates_macTick
  fire c := by
    rintro ⟨l, r⟩ ⟨l', r'⟩ h
    show Matches Like (c.run l.ticks (l, r)) (c.run l'.ticks (l', r'))
    have ht : l.ticks = l'.ticks := h.ticks
    rw [← ht]
    exact relates_run _ c _ _ h
  deferred h := h.deferred
  taken h := ⟨h.plan, h.batchDeferral, h.ticks, h.macCaptured, h.state, rfl⟩
  putBack state radio h := ⟨h.plan, h.batchDeferral, h.ticks, h.macCaptured, rfl, h.deferred⟩
  symm h := ⟨h.plan.symm, h.plan ▸ h.batchDeferral, h.ticks.symm, h.macCaptured.symm, h.state.symm, h.deferred.symm⟩
  trans h h' := ⟨h.plan.trans h'.plan, h.batchDeferral, h.ticks.trans h'.ticks,
    h.macCaptured.trans h'.macCaptured, h.state.trans h'.state, h.deferred.trans h'.deferred⟩
  mac h := h.ticks
  rrcBatch := by
    rintro ⟨l, r⟩ y' z h hz
    have hnone : l.plan.batchDeferral = none := h.batchDeferral
    have hbatch : rrcBatch (l, r) = deferNote "rrc.tti" l.plan.batchDeferral (l, r.note "rrc.tti") := rfl
    rw [hnone] at hbatch
    cases hbatch.symm.trans hz
    exact ⟨h.plan, h.batchDeferral, h.ticks, h.macCaptured, h.state, h.deferred⟩
  nasBatch := by
    rintro ⟨l, r⟩ y' z h hz
    have hz : nasBatch (l, r) = .ok () z := hz
    obtain ⟨_, _, h₁, hz⟩ := bind_eq_ok_iff.1 hz
    obtain ⟨_, _, h₂, hz⟩ := bind_eq_ok_iff.1 hz
    obtain ⟨_, _, h₃, hz⟩ := bind_eq_ok_iff.1 hz
    cases h₁
    cases h₂
    cases h₃
    dsimp only at hz
    split at hz
    · cases hz
    · cases hz
      exact ⟨h.plan, h.batchDeferral, h.ticks, h.macCaptured, h.state, h.deferred⟩
  clock now log h := ⟨h.plan, h.batchDeferral, h.ticks, h.macCaptured, h.state, h.deferred⟩

end ObservedLayers

namespace Work

/-- An executor with a deferral that waits and will post itself again. -/
def chained : Executor ObservedLayers Callback × Shared Callback :=
  (.ofLayers { plan := {} } { timerCapacity := 1 },
    { (Shared.ofConfig { timerCapacity := 1 } : Shared Callback) with
      state := .running, deferred := [(1, .deferral "a" 1 1 false)] })

theorem exists_ok {x : Work L κ Unit} {y : Executor L κ × Shared κ} (h : (outcome x y).1.isOk = true) :
    ∃ z, x y = .ok () z := by
  unfold outcome at h
  cases hx : x y with
  | ok u z => exact ⟨z, rfl⟩
  | error f z =>
    rw [hx] at h
    cases h

theorem batching_of_three :
    ∃ z z', runTti 1 3 (record chained) = .ok () z ∧
      (do runTti (Tti.sub 1 2) 1; runTti 1 2) (record chained) = .ok () z' ∧
      SameTicks ObservedLayers.ticks z z' := by
  have h : ∃ z, runTti 1 (1 + 2) (record chained) = .ok () z :=
    exists_ok (by decide +kernel)
  have h' : ∃ z, (do runTti (Tti.sub 1 2) 1; runTti 1 2) (record chained) = .ok () z :=
    exists_ok (by decide +kernel)
  obtain ⟨z, hz⟩ := h
  obtain ⟨z', hz'⟩ := h'
  have hy : ObservedLayers.Like (chained.1.layers, chained.2.toSurroundings)
      (chained.1.layers, chained.2.toSurroundings) := ⟨rfl, rfl, rfl, rfl, rfl, rfl⟩
  exact ⟨z, z', hz, hz', ((batching ObservedLayers.separate hy).1 1 1 2 (by decide) z z' hz hz').1⟩

end Work

end LteUe
