import LteUe.Proofs.Executor.Replay
import LteUe.Sim.Layers
import LteUe.Stack.Basic

/-!
# What calls make of the simulated layers

The hooks of the simulated layers look at the layers only to decide what they make of them, and a hook that
faults has done all that it does to them. So what a call makes of the layers is a function of them
(`SimLayers.after`, `SimLayers.knownBy_after`).
-/

namespace LteUe.SimLayers

/-- The word of the tick before has no successor, so that the next tick ends at once. -/
def Stuck (l : SimLayers) : Prop := l.lastTti.any fun last => (Tti.next? last).isNone

instance (l : SimLayers) : Decidable l.Stuck := inferInstanceAs (Decidable (_ = true))

/-- What is reported of a tick that does not follow the one before. -/
def gap (tti expected : UInt32) : Log.Event where
  level := .warn
  target := .mac
  message := "sub-tick out of sequence"
  fields := [("tti", .num tti.toNat), ("expected", .num expected.toNat)]

/-- The gap that a tick reports, if it does not follow the last one. -/
def gapAt (last : Option UInt32) (tti : UInt32) : List Log.Event :=
  match last.bind Tti.next? with
  | some expected => if tti = expected then [] else [gap tti expected]
  | none => []

/-- The layers after a tick. -/
def tick (tti : UInt32) (l : SimLayers) : SimLayers :=
  if l.Stuck then l
  else
    { l with
      lastTti := some tti
      ticks := l.ticks + 1
      bearers := if l.bearers.connected then (l.bearers.transmit l.settings.grantPerTick).2 else l.bearers }

/-- The layers after a batch. -/
def batch (l : SimLayers) : SimLayers :=
  match l.emm with
  | .registeredInitiated =>
    if l.bearers.connected then
      { l with
        ticksConnected := l.ticksConnected + 1
        emm :=
          if l.settings.attachDelayTicks ≤ l.ticksConnected + 1 then .registered else .registeredInitiated }
    else l
  | .deregisteredInitiated => if l.bearers.hasData Lcid.srb1 then l else { l with emm := .deregistered }
  | .deregistered | .registered => l

/-- The layers after a call. -/
def after (l : SimLayers) : Call Callback → SimLayers
  | .nasInit => { l with nasHandle := true }
  | .rrcInit => { l with rrcHandle := true }
  | .captureBegun .mac => { l with macCaptured := true }
  | .captureBegun .nas => { l with nasCaptured := true }
  | .macTick tti => l.tick tti
  | .writeSdu lcid sdu _ => { l with bearers := l.bearers.push lcid sdu }
  | .attach _ =>
    if l.emm = .deregistered then { l with emm := .registeredInitiated, ticksConnected := 0 } else l
  | .detach switchOff =>
    if l.emm = .deregistered then l
    else
      { l with
        bearers := l.bearers.push Lcid.srb1 detachRequest
        emm := if switchOff then .deregistered else .deregisteredInitiated }
  | .nasBatch => l.batch
  | .inSync => { l with inSyncs := l.inSyncs + 1 }
  | .outOfSync => { l with outOfSyncs := l.outOfSyncs + 1 }
  | .selectDone selected => { l with bearers := { l.bearers with connected := selected } }
  | .nasStop => { l with nasHandle := false }
  | .rrcStop => { l with rrcHandle := false, bearers := { l.bearers with connected := false } }
  | .usimInit | .macInit | .rlcInit | .pdcpInit | .hasData _ | .rrcBatch | .searchDone _ _ | .usimStop
  | .macStop | .rlcStop | .pdcpStop | .fire _ => l

/-! ## The hooks -/

/-- The layers are the same. -/
def Same (y y' : SimLayers × Surroundings Callback) : Prop := y'.1 = y.1

theorem composes_same : Composes Same := ⟨fun _ => rfl, fun h h' => h'.trans h⟩

theorem same_layers : Moves Same (Hook.layers : Act SimLayers) := fun _ => rfl

theorem same_modifySurroundings (f : Surroundings Callback → Surroundings Callback) :
    Moves Same (Hook.modifySurroundings f : Act Unit) := fun _ => rfl

theorem same_withHandle {α : Type} (f : Surroundings Callback → α × Surroundings Callback) :
    Moves Same (Hook.withHandle f : Act α) := fun _ => rfl

theorem same_captures (layer : CapturedLayer) (pdus : List Bytes) :
    Moves Same (pdus.forM fun pdu => Hook.capture layer pdu : Act Unit) :=
  composes_same.forM fun _ => same_modifySurroundings _

theorem same_searchDone (result : SearchResult) (cell : Cell) : Moves Same (searchDone result cell) := by
  have hc := composes_same
  refine hc.bind (same_modifySurroundings _) fun _ => Moves.ite ?_ (hc.pure ())
  exact hc.bind same_layers fun l => Moves.ite (hc.bind (same_withHandle _) fun _ => hc.pure ()) (hc.pure ())

theorem same_note (text : String) : Moves Same (Hook.note text : Act Unit) := same_modifySurroundings _

theorem same_fire (c : Callback) : Moves Same (Layers.fire c : Act Callback) :=
  composes_same.bind same_layers fun _ => c.moves_run composes_same same_note (fun _ _ => same_withHandle _) _

variable (l : SimLayers) (r : Surroundings Callback)

theorem layers_bind {α : Type} (f : SimLayers → Act α) : (Hook.layers >>= f) (l, r) = f l (l, r) := rfl

theorem outcome_layers_bind {α : Type} (f : SimLayers → Act α) :
    outcome (Hook.layers >>= f) (l, r) = outcome (f l) (l, r) := rfl

theorem layers_usimInit : (outcome usimInit (l, r)).2.1 = l := by
  rw [usimInit, outcome_layers_bind]
  dsimp only
  split <;> rfl

theorem checkSequence_eq_error (tti : UInt32) (h : l.Stuck) :
    checkSequence tti (l, r) = .error .wordOverflow (l, r) := by
  rw [checkSequence, layers_bind]
  cases hl : l.lastTti with
  | none => simp [Stuck, hl] at h
  | some last =>
    have hn : Tti.next? last = none := by simpa [Stuck, hl] using h
    simp only [hn]
    rfl

theorem checkSequence_eq (tti : UInt32) (h : ¬ l.Stuck) :
    checkSequence tti (l, r) = .ok () (l, (gapAt l.lastTti tti).foldl .report r) := by
  rw [checkSequence, layers_bind, gapAt]
  cases hl : l.lastTti with
  | none => rfl
  | some last =>
    obtain ⟨expected, hn⟩ : ∃ expected, Tti.next? last = some expected :=
      Option.ne_none_iff_exists'.1 (by simpa [Stuck, hl] using h)
    simp only [hn, Option.bind_some]
    by_cases he : tti = expected
    · rw [if_neg (not_not.2 he), if_pos he]
      rfl
    · rw [if_pos he, if_neg he]
      rfl

theorem checkSequence_eq_ok (tti : UInt32) (h : ¬ l.Stuck) :
    ∃ events : List Log.Event, checkSequence tti (l, r) = .ok () (l, events.foldl .report r) :=
  ⟨_, checkSequence_eq l r tti h⟩

theorem layers_macTick (tti : UInt32) : (outcome (macTick tti) (l, r)).2.1 = l.tick tti := by
  rw [tick]
  split
  · rename_i h
    show (outcome (EStateM.bind (checkSequence tti) _) (l, r)).2.1 = _
    rw [outcome, EStateM.bind, checkSequence_eq_error l r tti h]
  · rename_i h
    obtain ⟨events, hr⟩ := checkSequence_eq_ok l r tti h
    show (outcome (EStateM.bind (checkSequence tti) _) (l, r)).2.1 = _
    rw [outcome, EStateM.bind, hr]
    obtain ⟨settings, ⟨queues, bytes, packets, connected⟩, _, ticks, captured, _, _, _, _, _, _, _⟩ := l
    cases connected with
    | false => rfl
    | true =>
      cases captured with
      | false => rfl
      | true => exact same_captures .mac _ _

theorem layers_attach (cause : EstablishmentCause) :
    (outcome (attach cause) (l, r)).2.1 = l.after (.attach cause) := by
  obtain ⟨_, ⟨_, _, _, connected⟩, _, _, _, captured, handle, _, emm, _, _, _⟩ := l
  cases emm <;> cases captured <;> cases connected <;> cases handle <;> rfl

theorem layers_detach (switchOff : Bool) :
    (outcome (detach switchOff) (l, r)).2.1 = l.after (.detach switchOff) := by
  obtain ⟨_, _, _, _, _, captured, _, _, emm, _, _, _⟩ := l
  cases emm <;> cases captured <;> rfl

theorem layers_nasBatch : (outcome nasBatch (l, r)).2.1 = l.batch := by
  obtain ⟨settings, ⟨queues, bytes, packets, connected⟩, _, _, _, _, _, _, emm, ticks, _, _⟩ := l
  rw [nasBatch, outcome_layers_bind, batch]
  cases emm with
  | deregistered => rfl
  | registered => rfl
  | registeredInitiated =>
    cases connected with
    | false => rfl
    | true =>
      dsimp only [if_pos]
      by_cases hd : settings.attachDelayTicks ≤ ticks + 1
      · simp only [if_pos hd]
        rfl
      · simp only [if_neg hd]
        rfl
  | deregisteredInitiated =>
    dsimp only
    split <;> rfl

theorem knownBy_after : Layers.KnownBy after := by
  intro c l r
  cases c with
  | usimInit => exact (congrArg Prod.fst (outcome_discard ..)).trans (layers_usimInit l r)
  | macTick tti => exact layers_macTick l r tti
  | attach cause => exact layers_attach l r cause
  | detach switchOff => exact (congrArg Prod.fst (outcome_discard ..)).trans (layers_detach l r switchOff)
  | nasBatch => exact layers_nasBatch l r
  | searchDone result cell => exact same_searchDone result cell (l, r)
  | fire c => exact (congrArg Prod.fst (outcome_discard ..)).trans (same_fire c (l, r))
  | captureBegun layer => cases layer <;> rfl
  | _ => rfl

/-! ## Bringing the layers up -/

/-- Layers of a network with these settings, as a stack has brought them up. -/
def BroughtUp (settings : SimSettings) (l : SimLayers) : Prop :=
  ∃ (radio : Radio) (sinks : Sinks) (c : StackConfig) (s s' : Shared Callback)
    (e : Executor SimLayers Callback),
    Stack.bringUp radio sinks (.ofLayers (.ofSettings settings) c, s) = .ok (.ok ()) (e, s') ∧ e.layers = l

/-- The network, the bearers and the state of mobility management are the same. -/
def Unmoved (l l' : SimLayers) : Prop :=
  l'.settings = l.settings ∧ l'.bearers = l.bearers ∧ l'.emm = l.emm

theorem composes_unmoved : Composes Unmoved where
  refl _ := ⟨rfl, rfl, rfl⟩
  trans h h' := ⟨h'.1.trans h.1, h'.2.1.trans h.2.1, h'.2.2.trans h.2.2⟩

/-- And so are those of an executor. -/
def Kept (y y' : Executor SimLayers Callback × Shared Callback) : Prop := Unmoved y.1.layers y'.1.layers

theorem composes_kept : Composes Kept := ⟨fun _ => composes_unmoved.refl _, composes_unmoved.trans⟩

theorem kept_hook (c : Call Callback) (h : ∀ l, Unmoved l (after l c)) : Moves Kept (Work.hook c.hook) := by
  refine Work.moves_layers_hook (R := Unmoved) ?_
  rintro ⟨l, r⟩
  rw [knownBy_after c l r]
  exact h l

theorem kept_usimInit : Moves Kept (Work.hook Layers.usimInit) := by
  refine Work.moves_layers_hook (R := Unmoved) ?_
  rintro ⟨l, r⟩
  show Unmoved l (outcome usimInit (l, r)).2.1
  rw [layers_usimInit]
  exact composes_unmoved.refl l

theorem kept_startCapture (sinks : Sinks) (enabled : Bool) (path : String) (layer : CapturedLayer) :
    Moves Kept (Work.startCapture sinks enabled path layer) := by
  refine composes_kept.bind (fun _ => composes_unmoved.refl _) fun started => ?_
  cases started with
  | true => exact kept_hook (.captureBegun layer) fun l => by cases layer <;> exact ⟨rfl, rfl, rfl⟩
  | false => exact composes_kept.pure ()

theorem kept_bringUp (radio : Radio) (sinks : Sinks) : Moves Kept (Stack.bringUp radio sinks) := by
  have hc := composes_kept
  refine hc.bind kept_usimInit fun r => ?_
  cases r with
  | error causes => exact hc.pure _
  | ok u =>
    exact hc.bind (kept_hook .macInit composes_unmoved.refl) fun _ =>
      hc.bind (kept_hook .rlcInit composes_unmoved.refl) fun _ =>
      hc.bind (kept_hook .pdcpInit composes_unmoved.refl) fun _ =>
      hc.bind (kept_hook .nasInit fun _ => ⟨rfl, rfl, rfl⟩) fun _ =>
      hc.bind (kept_hook .rrcInit fun _ => ⟨rfl, rfl, rfl⟩) fun _ =>
      hc.bind (moves_modify fun _ => composes_unmoved.refl _) fun _ =>
      hc.bind (hc.bind hc.get fun _ => hc.bind (kept_startCapture _ _ _ _) fun _ => kept_startCapture _ _ _ _)
      fun _ => hc.pure _

/-- Layers that have been brought up have nothing to send, and are not attached. -/
theorem BroughtUp.unmoved {settings : SimSettings} {l : SimLayers} (h : BroughtUp settings l) :
    Unmoved (.ofSettings settings) l := by
  obtain ⟨radio, sinks, c, s, s', e, hb, rfl⟩ := h
  exact (kept_bringUp radio sinks).of_ok hb

end LteUe.SimLayers
