import LteUe.Layers.Observed
import LteUe.Proofs.Executor.Moves
import LteUe.Sim.Layers
import Mathlib.Logic.Relation

/-!
# Layers and their handles

Layers reach what lies around them by handles: to the log, to their captures, and to the stack, which lets them
post deferrals and hand jobs to the workers (`Surroundings.Use`). Observed layers and simulated ones do nothing
else (`ObservedLayers.handled`, `SimLayers.handled`).
-/

namespace LteUe

variable {L κ α : Type}

/-- One use of a handle. -/
inductive Surroundings.Use : Surroundings κ → Surroundings κ → Prop
  | note (r : Surroundings κ) (text : String) : Use r (r.note text)
  | report (r : Surroundings κ) (e : Log.Event) : Use r (r.report e)
  | capture (r : Surroundings κ) (layer : CapturedLayer) (pdu : Bytes) : Use r (r.capture layer pdu)
  | defer (r : Surroundings κ) (ticks : Nat) (c : κ) : Use r (r.defer ticks c).2
  | startSearch (r : Surroundings κ) : Use r r.startSearch.2
  | startSelect (r : Surroundings κ) (cell : Cell) : Use r (r.startSelect cell).2

/-- Handles have been used, one after the other, and the layers may have changed in any way. -/
def Handled (y y' : L × Surroundings κ) : Prop := Relation.ReflTransGen Surroundings.Use y.2 y'.2

theorem composes_handled : Composes (Handled : L × Surroundings κ → L × Surroundings κ → Prop) where
  refl _ := .refl
  trans h h' := h.trans h'

/-- What every use of a handle keeps, and composes, all of them keep. -/
theorem Handled.keeps {R : L × Surroundings κ → L × Surroundings κ → Prop} (hR : Composes R)
    (hl : ∀ l l' r, R (l, r) (l', r)) (hr : ∀ l {r r'}, Surroundings.Use r r' → R (l, r) (l, r'))
    {y y' : L × Surroundings κ} (h : Handled y y') : R y y' := by
  obtain ⟨l, r⟩ := y
  obtain ⟨l', r'⟩ := y'
  refine hR.trans (hl l l' r) ?_
  unfold Handled at h
  dsimp only at h
  induction h with
  | refl => exact hR.refl _
  | tail _ hu ih => exact hR.trans ih (hr l' hu)

/-! ## What hooks are made of -/

namespace Hook

theorem handled_modifyLayers (f : L → L) : Moves Handled (modifyLayers f : Hook L κ Unit) :=
  moves_modify fun _ => .refl

theorem handled_layers : Moves Handled (layers : Hook L κ L) := fun _ => .refl

theorem handled_surroundings : Moves Handled (surroundings : Hook L κ (Surroundings κ)) := fun _ => .refl

theorem handled_modifySurroundings {f : Surroundings κ → Surroundings κ} (hf : ∀ r, Surroundings.Use r (f r)) :
    Moves Handled (modifySurroundings f : Hook L κ Unit) := moves_modify fun y => .single (hf y.2)

theorem handled_withHandle {f : Surroundings κ → α × Surroundings κ} (hf : ∀ r, Surroundings.Use r (f r).2) :
    Moves Handled (withHandle f : Hook L κ α) := fun y => .single (hf y.2)

theorem handled_note (text : String) : Moves Handled (note text : Hook L κ Unit) :=
  handled_modifySurroundings fun r => .note r text

theorem handled_report {level : Log.Level} {target : Log.Target} {message : String}
    {fields : List (String × Log.Value)} :
    Moves Handled (report level target message fields : Hook L κ Unit) :=
  handled_modifySurroundings fun r => .report r _

theorem handled_capture (layer : CapturedLayer) (pdu : Bytes) :
    Moves Handled (capture layer pdu : Hook L κ Unit) :=
  handled_modifySurroundings fun r => .capture r layer pdu

theorem handled_defer (ticks : Nat) (c : κ) : Moves Handled (withHandle (·.defer ticks c) : Hook L κ Bool) :=
  handled_withHandle fun r => .defer r ticks c

theorem handled_startSearch : Moves Handled (withHandle (·.startSearch) : Hook L κ Bool) :=
  handled_withHandle .startSearch

theorem handled_startSelect (cell : Cell) : Moves Handled (withHandle (·.startSelect cell) : Hook L κ Bool) :=
  handled_withHandle fun r => .startSelect r cell

end Hook

open Hook

theorem Callback.handled_run (tx : Nat) (c : Callback) : Moves Handled (c.run tx : Hook L Callback Callback) :=
  c.moves_run composes_handled handled_note handled_defer tx

/-! ## Observed layers -/

namespace ObservedLayers

section Hooks

variable (h : Composes (Handled : ObservedLayers × Surroundings Callback → _ → Prop))

include h

theorem handled_deferNote (label : String) (ticks : Option Nat) : Moves Handled (deferNote label ticks) := by
  cases ticks with
  | none => exact h.pure ()
  | some ticks =>
    exact h.bind handled_layers fun _ => .ite (h.bind (handled_defer ticks _) fun _ => h.pure _) (h.pure _)

theorem handled_noteState (what : String) : Moves Handled (noteState what) :=
  h.bind handled_surroundings fun _ => handled_note _

theorem handled_captureBegun (layer : CapturedLayer) : Moves Handled (captureBegun layer) := by
  refine h.bind handled_surroundings fun s => ?_
  cases s.captures.get layer with
  | none => exact h.pure ()
  | some c => cases layer <;> exact h.bind (handled_modifyLayers _) fun _ => handled_note _

theorem handled_macTick (tti : UInt32) : Moves Handled (macTick tti) :=
  h.bind (handled_modifyLayers _) fun _ => h.bind (handled_note _) fun _ => h.bind handled_layers fun l =>
    have hk : Moves Handled (if l.plan.macFaults.contains tti.toNat then
        throw (.raised s!"mac tti {tti.toNat}") else return () : Act Unit) :=
      .ite (h.throw _) (h.pure _)
    .ite (h.bind (handled_capture .mac _) fun _ => hk) hk

theorem handled_hasData (lcid : Lcid) : Moves Handled (hasData lcid) :=
  .ite (h.bind handled_layers fun _ => h.bind (handled_modifyLayers _) fun _ => h.pure _) (h.pure _)

theorem handled_writeSdu (lcid : Lcid) (sdu : Bytes) (blocking : Bool) :
    Moves Handled (writeSdu lcid sdu blocking) :=
  h.bind (handled_note _) fun _ => h.bind handled_layers fun _ => .ite (h.throw _) (h.pure _)

theorem handled_attach (cause : EstablishmentCause) : Moves Handled (attach cause) :=
  h.bind (handled_note _) fun _ => h.bind handled_layers fun l =>
    have hk : Moves Handled (do
        Hook.modifyLayers fun l => { l with emm := l.plan.attachState }
        if l.plan.searchOnAttach && l.nasHandle then
          let _ ← Hook.withHandle (·.startSearch) : Act Unit) :=
      h.bind (handled_modifyLayers _) fun _ => .ite (h.bind handled_startSearch fun _ => h.pure _) (h.pure _)
    .ite (h.bind (handled_capture .nas _) fun _ => hk) hk

theorem handled_detach (switchOff : Bool) : Moves Handled (detach switchOff) :=
  h.bind (handled_note _) fun _ => h.bind handled_layers fun _ =>
    .ite (h.bind (handled_modifyLayers _) fun _ => h.pure _) (h.pure _)

theorem handled_nasBatch : Moves Handled nasBatch :=
  h.bind (handled_modifyLayers _) fun _ => h.bind (handled_note _) fun _ => h.bind handled_layers fun _ =>
    .ite (h.throw _) (h.pure _)

theorem handled_rrcBatch : Moves Handled rrcBatch :=
  h.bind (handled_note _) fun _ => h.bind handled_layers fun _ => handled_deferNote h _ _

theorem handled_inSync : Moves Handled inSync :=
  h.bind (handled_note _) fun _ => h.bind (handled_modifyLayers _) fun _ =>
    h.bind handled_layers fun _ => handled_deferNote h _ _

theorem handled_outOfSync : Moves Handled outOfSync :=
  h.bind (handled_note _) fun _ => handled_modifyLayers _

theorem handled_searchDone (result : SearchResult) (cell : Cell) : Moves Handled (searchDone result cell) :=
  h.bind (handled_note _) fun _ => h.bind handled_layers fun _ =>
    .ite (h.bind (handled_startSelect cell) fun _ => h.pure _) (h.pure _)

theorem handled_selectDone (selected : Bool) : Moves Handled (selectDone selected) :=
  h.bind (handled_note _) fun _ => .ite (handled_modifyLayers _) (h.pure _)

theorem handled_macStop : Moves Handled macStop := by
  refine h.bind handled_layers fun l => h.bind handled_surroundings fun s => ?_
  cases (if l.macCaptured then s.captures.mac else none : Option _) with
  | none => exact handled_note _
  | some c => exact handled_note _

end Hooks

theorem handled : Layers.Within ObservedLayers Handled := by
  have h := composes_handled (L := ObservedLayers) (κ := Callback)
  refine {
    usim := h.bind (handled_note _) fun _ => h.bind handled_layers fun _ => h.pure _
    raised := fun hr => ?_
    called := fun hc => ?_
    fire := fun c => h.bind handled_layers fun _ => c.handled_run _ }
  · cases hr with
    | macInit | rlcInit | pdcpInit => exact handled_note _
    | nasInit | rrcInit => exact h.bind (handled_modifyLayers _) fun _ => handled_noteState h _
    | captureBegun layer => exact handled_captureBegun h layer
  · cases hc with
    | macTick tti => exact handled_macTick h tti
    | hasData lcid => exact handled_hasData h lcid
    | writeSdu lcid sdu blocking => exact handled_writeSdu h lcid sdu blocking
    | attach cause => exact handled_attach h cause
    | detach switchOff => exact handled_detach h switchOff
    | nasBatch => exact handled_nasBatch h
    | rrcBatch => exact handled_rrcBatch h
    | inSync => exact handled_inSync h
    | outOfSync => exact handled_outOfSync h
    | searchDone result cell => exact handled_searchDone h result cell
    | selectDone selected => exact handled_selectDone h selected
    | macStop => exact handled_macStop h
    | usimStop | rlcStop | pdcpStop => exact handled_note _
    | nasStop | rrcStop => exact h.bind (handled_modifyLayers _) fun _ => handled_note _

end ObservedLayers

/-! ## Simulated layers -/

namespace SimLayers

theorem handled_onBearers (f : Bearers → Bearers) : Moves Handled (onBearers f) := handled_modifyLayers _

section Hooks

variable (h : Composes (Handled : SimLayers × Surroundings Callback → _ → Prop))

include h

theorem handled_usimInit : Moves Handled usimInit :=
  h.bind handled_layers fun _ => .ite (h.bind handled_report fun _ => h.pure _) (h.pure _)

theorem handled_checkSequence (tti : UInt32) : Moves Handled (checkSequence tti) := by
  refine h.bind handled_layers fun l => ?_
  cases l.lastTti with
  | none => exact h.pure ()
  | some last =>
    dsimp only
    cases Tti.next? last with
    | none => exact h.throw _
    | some expected => exact .ite handled_report (h.pure ())

theorem handled_macTick (tti : UInt32) : Moves Handled (macTick tti) :=
  h.bind (handled_checkSequence h tti) fun _ => h.bind (handled_modifyLayers _) fun _ =>
    h.bind handled_layers fun _ => .ite (h.bind (handled_modifyLayers _) fun _ =>
      .ite (h.forM fun pdu => handled_capture .mac pdu) (h.pure ())) (h.pure ())

theorem handled_captureNas (pdu : Bytes) : Moves Handled (captureNas pdu) :=
  h.bind handled_layers fun _ => .ite (handled_capture .nas pdu) (h.pure ())

theorem handled_attach (cause : EstablishmentCause) : Moves Handled (attach cause) :=
  h.bind handled_layers fun _ => .ite handled_report <| h.bind handled_report fun _ =>
    h.bind (handled_captureNas h _) fun _ => h.bind (handled_modifyLayers _) fun _ =>
    .ite (h.bind handled_startSearch fun _ => h.pure _) (h.pure ())

theorem handled_detach (switchOff : Bool) : Moves Handled (detach switchOff) :=
  h.bind handled_layers fun _ => .ite (h.pure _) <| h.bind handled_report fun _ =>
    h.bind (handled_captureNas h _) fun _ => h.bind (handled_modifyLayers _) fun _ =>
    h.bind (handled_modifyLayers _) fun _ => h.pure _

theorem handled_nasBatch : Moves Handled nasBatch := by
  refine h.bind handled_layers fun l => ?_
  cases l.emm with
  | registeredInitiated =>
    exact .ite (h.bind (handled_modifyLayers _) fun _ => .ite (h.bind handled_report fun _ =>
      handled_modifyLayers _) (h.pure ())) (h.pure ())
  | deregisteredInitiated => exact .ite (h.pure ()) (handled_modifyLayers _)
  | deregistered | registered => exact h.pure ()

theorem handled_outOfSync : Moves Handled outOfSync :=
  h.bind (handled_modifyLayers _) fun _ => h.bind handled_layers fun _ => handled_report

theorem handled_rrcStop : Moves Handled rrcStop :=
  h.bind (handled_modifyLayers _) fun _ => h.bind handled_layers fun _ => handled_report

theorem handled_selectDone (selected : Bool) : Moves Handled (selectDone selected) :=
  h.bind handled_report fun _ => handled_onBearers _

theorem handled_searchDone (result : SearchResult) (cell : Cell) : Moves Handled (searchDone result cell) :=
  h.bind handled_report fun _ => .ite (h.bind handled_layers fun _ =>
    .ite (h.bind (handled_startSelect cell) fun _ => h.pure _) (h.pure ())) (h.pure ())

end Hooks

theorem handled : Layers.Within SimLayers Handled := by
  have h := composes_handled (L := SimLayers) (κ := Callback)
  refine {
    usim := handled_usimInit h
    raised := fun hr => ?_
    called := fun hc => ?_
    fire := fun c => h.bind handled_layers fun _ => c.handled_run _ }
  · cases hr with
    | macInit | rlcInit | pdcpInit => exact h.pure ()
    | nasInit | rrcInit => exact handled_modifyLayers _
    | captureBegun layer => cases layer <;> exact handled_modifyLayers _
  · cases hc with
    | macTick tti => exact handled_macTick h tti
    | hasData lcid => exact h.bind handled_layers fun _ => h.pure _
    | writeSdu lcid sdu blocking => exact handled_onBearers (·.push lcid sdu)
    | attach cause => exact handled_attach h cause
    | detach switchOff => exact handled_detach h switchOff
    | nasBatch => exact handled_nasBatch h
    | rrcBatch => exact h.pure ()
    | inSync => exact handled_modifyLayers _
    | outOfSync => exact handled_outOfSync h
    | searchDone result cell => exact handled_searchDone h result cell
    | selectDone selected => exact handled_selectDone h selected
    | usimStop | rlcStop | pdcpStop => exact handled_report
    | macStop => exact h.bind handled_layers fun _ => handled_report
    | nasStop => exact h.bind (handled_modifyLayers _) fun _ => handled_report
    | rrcStop => exact handled_rrcStop h

end SimLayers

end LteUe
