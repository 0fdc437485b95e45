import LteUe.Proofs.Sim.Calls
import Mathlib.Data.List.Induction

/-!
# The capture of medium access control

Of the hooks of the simulated layers only the tick writes to the capture of medium access control
(`SimLayers.steady_hook`), and it writes the packets that it sends (`SimLayers.macTick_eq_ok`). A capture that is
open at the end has been open all the time, and has taken each packet that it was given
(`took_captured`).
-/

namespace LteUe

/-- The open capture has been made from another one by writing these packets, one after the other. -/
inductive Took (cap : Capture Sink) : List Bytes → Capture Sink → Prop
  | nil : Took cap [] cap
  | snoc {pdus : List Bytes} {pdu : Bytes} {cap' : Capture Sink} {w : World} :
      Took cap pdus cap' → (cap'.write pdu w).1.isOpen = true → Took cap (pdus ++ [pdu]) (cap'.write pdu w).1

variable {cap cap' cap'' : Capture Sink} {l m : List Bytes}

theorem Took.append (h : Took cap l cap') (h' : Took cap' m cap'') : Took cap (l ++ m) cap'' := by
  induction h' with
  | nil => rwa [List.append_nil]
  | snoc _ ho ih =>
    rw [← List.append_assoc]
    exact ih.snoc ho

theorem Capture.isOpen_of_write {pdu : Bytes} {w : World} (h : (cap.write pdu w).1.isOpen = true) :
    cap.isOpen = true := by
  by_contra hc
  rw [Capture.write, if_neg hc] at h
  exact hc h

namespace Surroundings

variable {κ : Type} {r : Surroundings κ} {pdus : List Bytes}

/-- The surroundings after medium access control has written packets to its capture. -/
def captureAll (r : Surroundings κ) (pdus : List Bytes) : Surroundings κ :=
  pdus.foldl (fun r pdu => r.capture .mac pdu) r

theorem captures_capture_mac (pdu : Bytes) :
    (r.capture .mac pdu).captures.mac = r.captures.mac.map fun cap => (cap.write pdu r.world).1 := by
  obtain ⟨_, _, _, _, ⟨mac, _⟩, _⟩ := r
  cases mac <;> rfl

theorem captures_capture_nas (pdu : Bytes) : (r.capture .nas pdu).captures.mac = r.captures.mac := by
  obtain ⟨_, _, _, _, ⟨_, nas⟩, _⟩ := r
  cases nas <;> rfl

/-- The capture that is open after some packets has taken these since it was the one before them. -/
theorem took_captureAll (h : (r.captureAll pdus).captures.mac = some cap') (ho : cap'.isOpen = true) :
    ∃ cap, r.captures.mac = some cap ∧ cap.isOpen = true ∧ Took cap pdus cap' := by
  induction pdus using List.reverseRecOn generalizing cap' with
  | nil => exact ⟨cap', h, ho, .nil⟩
  | append_singleton pdus pdu ih =>
    rw [captureAll, List.foldl_append, List.foldl_cons, List.foldl_nil, captures_capture_mac,
      Option.map_eq_some_iff] at h
    obtain ⟨cap'', hc, rfl⟩ := h
    obtain ⟨cap, hr, hcap, ht⟩ := ih hc (Capture.isOpen_of_write ho)
    exact ⟨cap, hr, hcap, ht.snoc ho⟩

end Surroundings

namespace SimLayers

/-! ## What leaves the capture alone -/

/-- The capture of medium access control is the same. -/
def Steady (y y' : SimLayers × Surroundings Callback) : Prop := y'.2.captures.mac = y.2.captures.mac

theorem composes_steady : Composes Steady := ⟨fun _ => rfl, fun h h' => h'.trans h⟩

theorem steady_layers : Moves Steady (Hook.layers : Act SimLayers) := fun _ => rfl

theorem steady_modifyLayers (f : SimLayers → SimLayers) : Moves Steady (Hook.modifyLayers f : Act Unit) :=
  fun _ => rfl

theorem steady_report (level : Log.Level) (target : Log.Target) (message : String)
    (fields : List (String × Log.Value)) : Moves Steady (Hook.report level target message fields : Act Unit) :=
  fun _ => rfl

theorem steady_note (text : String) : Moves Steady (Hook.note text : Act Unit) := fun _ => rfl

theorem steady_submitRadio (j : Job) :
    Moves Steady (Hook.withHandle (·.submitRadio j) : Act Bool) :=
  fun y => congrArg Captures.mac (y.2.apart_submitRadio j).1

theorem steady_defer (ticks : Nat) (c : Callback) :
    Moves Steady (Hook.withHandle (·.defer ticks c) : Act Bool) := by
  rintro ⟨l, r⟩
  show (r.defer ticks c).2.captures.mac = r.captures.mac
  unfold Surroundings.defer
  split <;> rfl

theorem steady_captureNas (pdu : Bytes) : Moves Steady (captureNas pdu) := by
  have hc := composes_steady
  refine hc.bind steady_layers fun l => Moves.ite ?_ (hc.pure ())
  exact fun y => y.2.captures_capture_nas pdu

theorem steady_usimInit : Moves Steady usimInit := by
  have hc := composes_steady
  exact hc.bind steady_layers fun l =>
    Moves.ite (hc.bind (steady_report _ _ _ _) fun _ => hc.pure _) (hc.pure _)

theorem steady_attach (cause : EstablishmentCause) : Moves Steady (attach cause) := by
  have hc := composes_steady
  refine hc.bind steady_layers fun l => Moves.ite (steady_report _ _ _ _) ?_
  refine hc.bind (steady_report _ _ _ _) fun _ => hc.bind (steady_captureNas _) fun _ =>
    hc.bind (steady_modifyLayers _) fun _ => Moves.ite ?_ (hc.pure ())
  exact hc.bind (steady_submitRadio .search) fun _ => hc.pure ()

theorem steady_detach (switchOff : Bool) : Moves Steady (detach switchOff) := by
  have hc := composes_steady
  have hrest : Moves Steady (do
      Hook.report .info .nas "sending detach request" [("switch_off", .flag switchOff)]
      captureNas detachRequest
      onBearers (·.push Lcid.srb1 detachRequest)
      Hook.modifyLayers fun l =>
        { l with emm := if switchOff then .deregistered else .deregisteredInitiated }
      return true : Act Bool) :=
    hc.bind (steady_report _ _ _ _) fun _ => hc.bind (steady_captureNas _) fun _ =>
      hc.bind (steady_modifyLayers _) fun _ => hc.bind (steady_modifyLayers _) fun _ => hc.pure _
  exact hc.bind steady_layers fun l => Moves.ite (hc.pure _) hrest

theorem steady_nasBatch : Moves Steady nasBatch := by
  have hc := composes_steady
  refine hc.bind steady_layers fun l => ?_
  cases l.emm with
  | registeredInitiated =>
    exact Moves.ite (hc.bind (steady_modifyLayers _) fun _ =>
      Moves.ite (hc.bind (steady_report _ _ _ _) fun _ => steady_modifyLayers _) (hc.pure ())) (hc.pure ())
  | deregisteredInitiated => exact Moves.ite (hc.pure ()) (steady_modifyLayers _)
  | deregistered | registered => exact hc.pure ()

theorem steady_searchDone (result : SearchResult) (cell : Cell) : Moves Steady (searchDone result cell) := by
  have hc := composes_steady
  refine hc.bind (steady_report _ _ _ _) fun _ => Moves.ite ?_ (hc.pure ())
  refine hc.bind steady_layers fun l => Moves.ite ?_ (hc.pure ())
  exact hc.bind (steady_submitRadio (.select cell)) fun _ => hc.pure ()

theorem steady_fire (c : Callback) : Moves Steady (Layers.fire c : Act Callback) :=
  composes_steady.bind steady_layers fun _ => c.moves_run composes_steady steady_note steady_defer _

theorem steady_discard {α : Type} {x : Act α} (h : Moves Steady x) : Moves Steady (discard x) := by
  intro y
  rw [outcome_discard]
  exact h y

/-- No hook but the tick writes to the capture of medium access control. -/
theorem steady_hook {c : Call Callback} (h : ∀ tti, c ≠ .macTick tti) : Moves Steady (c.hook : Act Unit) := by
  have hc := composes_steady
  cases c with
  | macTick tti => exact absurd rfl (h tti)
  | usimInit => exact steady_discard steady_usimInit
  | attach cause => exact steady_attach cause
  | detach switchOff => exact steady_discard (steady_detach switchOff)
  | nasBatch => exact steady_nasBatch
  | searchDone result cell => exact steady_searchDone result cell
  | fire c => exact steady_discard (steady_fire c)
  | hasData lcid => exact steady_discard (hc.bind steady_layers fun _ => hc.pure _)
  | captureBegun layer => cases layer <;> exact fun _ => rfl
  | _ => exact fun _ => rfl

/-! ## The tick -/

variable {l : SimLayers} {r : Surroundings Callback} {tti : UInt32}

/-- What a tick with a connection sends. -/
def due (l : SimLayers) : List Bytes :=
  if l.bearers.connected then (l.bearers.transmit l.settings.grantPerTick).1 else []

theorem forM_capture (pdus : List Bytes) :
    (pdus.forM fun pdu => Hook.capture .mac pdu : Act Unit) (l, r) = .ok () (l, r.captureAll pdus) := by
  induction pdus generalizing r with
  | nil => rfl
  | cons pdu pdus ih => exact ih

/-- A tick that does not fault may report that it is out of sequence. Then it sends what is due, and writes
that to the capture, if there is one. -/
theorem macTick_eq (tti : UInt32) (h : ¬ l.Stuck) : macTick tti (l, r) = .ok () (l.tick tti,
    ((gapAt l.lastTti tti).foldl .report r).captureAll (if l.macCaptured then l.due else [])) := by
  show EStateM.bind (checkSequence tti) _ (l, r) = _
  rw [EStateM.bind, checkSequence_eq l r tti h, tick, if_neg h]
  obtain ⟨settings, ⟨queues, bytes, packets, connected⟩, _, ticks, captured, _, _, _, _, _, _, _⟩ := l
  cases connected with
  | false => cases captured <;> rfl
  | true =>
    cases captured with
    | false => rfl
    | true => exact forM_capture _

theorem macTick_eq_ok (tti : UInt32) (h : ¬ l.Stuck) : ∃ events : List Log.Event,
    macTick tti (l, r) = .ok () (l.tick tti,
      (events.foldl .report r).captureAll (if l.macCaptured then l.due else [])) :=
  ⟨_, macTick_eq tti h⟩

theorem macTick_eq_error (tti : UInt32) (h : l.Stuck) :
    macTick tti (l, r) = .error .wordOverflow (l, r) := by
  show EStateM.bind (checkSequence tti) _ (l, r) = _
  rw [EStateM.bind, checkSequence_eq_error l r tti h]

end SimLayers

end LteUe
