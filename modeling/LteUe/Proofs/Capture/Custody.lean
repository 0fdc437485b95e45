import LteUe.Config.Basic
import LteUe.Proofs.Capture.Protocol
import LteUe.Proofs.Capture.Writing

/-!
# Sinks in custody

A stack opens the sinks that it is given, and shares those that it could open, as captures, with the layers. Each
sink can be watched meanwhile: it is in the custody of the stack (`Custody`), and the captures of the stack are those
in its custody (`Vault.Mirrors`).
-/

namespace LteUe

open Function

/-- What has become of the sink of a layer. -/
inductive Custody where
  /-- If there is one, it has not been asked for anything. -/
  | untouched
  /-- It could not be opened. -/
  | refused (s : Watched Sink)
  | opened (c : Capture (Watched Sink))

namespace Custody

/-- The capture that is shared. -/
def capture? : Custody → Option (Capture Sink)
  | opened c => some c.unwatched
  | _ => none

/-- What becomes of a sink when it is asked for. -/
def ofStart (sink : Option Sink) (enabled : Bool) (path : String) (layer : CapturedLayer) (w : World) :
    Custody :=
  if enabled then
    match sink with
    | none => untouched
    | some sink => match CaptureSink.start ({ sink := sink } : Watched Sink) path w with
      | (.ok (), s, _) => opened { layer := layer.name, sink := s }
      | (.error _, s, _) => refused s
  else untouched

/-- A packet is written. -/
def write (pdu : Bytes) (w : World) : Custody → Custody
  | opened c => opened (c.write pdu w).1
  | k => k

/-- The capture is closed. -/
def close (w : World) : Custody → Custody
  | opened c => opened (c.close w).1
  | k => k

/-- A sink that is watched has been asked to open with this path at most, and once it is open what a capture
asks. -/
inductive Sound (path : String) : Custody → Prop
  | untouched : Sound path untouched
  | refused {s : Watched Sink} : s.asked = [.start path false] → Sound path (refused s)
  | opened {b d : Capture (Watched Sink)} {l : List Capture.Event} : b.isOpen = true →
      b.sink.asked = [.start path true] → Run Capture.Step b l d → Sound path (opened d)

variable {k : Custody} {path : String}

theorem capture?_ofStart (sink : Option Sink) (enabled : Bool) (path : String) (layer : CapturedLayer)
    (w : World) :
    (ofStart sink enabled path layer w).capture? = (Captures.start sink enabled path layer w).1 := by
  unfold ofStart Captures.start
  cases enabled with
  | false => rfl
  | true =>
    cases sink with
    | none => rfl
    | some sink =>
      rw [if_pos rfl, if_pos rfl]
      dsimp only
      rw [Watched.start_eq]
      dsimp only
      generalize CaptureSink.start sink path w = r
      obtain ⟨r, s, w'⟩ := r
      cases r <;> rfl

theorem sound_ofStart (sink : Option Sink) (enabled : Bool) (path : String) (layer : CapturedLayer)
    (w : World) : (ofStart sink enabled path layer w).Sound path := by
  unfold ofStart
  cases enabled with
  | false => exact .untouched
  | true =>
    cases sink with
    | none => exact .untouched
    | some sink =>
      rw [if_pos rfl]
      dsimp only
      rw [Watched.start_eq]
      dsimp only
      generalize CaptureSink.start sink path w = r
      obtain ⟨r, s, w'⟩ := r
      cases r with
      | ok _ => exact .opened rfl rfl .nil
      | error _ => exact .refused rfl

theorem Sound.write (h : k.Sound path) (pdu : Bytes) (w : World) : (k.write pdu w).Sound path := by
  cases h with
  | untouched => exact .untouched
  | refused hs => exact .refused hs
  | opened ho hs hr => exact .opened ho hs (hr.snoc (.write pdu w))

theorem Sound.close (h : k.Sound path) (w : World) : (k.close w).Sound path := by
  cases h with
  | untouched => exact .untouched
  | refused hs => exact .refused hs
  | opened ho hs hr => exact .opened ho hs (hr.snoc (.close w))

/-- If the sink has been opened, its capture is closed by now. -/
def IsClosed (k : Custody) : Prop := ∀ d, k = opened d → d.isOpen = false

theorem isClosed_write (h : k.IsClosed) (pdu : Bytes) (w : World) : (k.write pdu w).IsClosed := by
  intro d hd
  cases k with
  | opened c =>
    cases hd
    rw [Capture.write, if_neg (by simp [h c rfl])]
    exact h c rfl
  | _ => cases hd

theorem isClosed_close (k : Custody) (w : World) : (k.close w).IsClosed := by
  intro d hd
  cases k with
  | opened c =>
    cases hd
    rw [Capture.close]
    split
    · rfl
    · rename_i ho
      simpa using ho
  | _ => cases hd

theorem capture?_write (k : Custody) (pdu : Bytes) (w : World) :
    (k.write pdu w).capture? = k.capture?.map fun c => (c.write pdu w).1 := by
  cases k with
  | opened c => exact congrArg some (c.unwatched_write pdu w)
  | _ => rfl

theorem capture?_close (k : Custody) (w : World) :
    (k.close w).capture? = k.capture?.map fun c => (c.close w).1 := by
  cases k with
  | opened c => exact congrArg some (c.unwatched_close w)
  | _ => rfl

end Custody

namespace CaptureConfig

/-- Whether the capture of a layer is to be opened. -/
def enabled (c : CaptureConfig) : CapturedLayer → Bool
  | .mac => c.macEnabled
  | .nas => c.nasEnabled

/-- Its file. -/
def file (c : CaptureConfig) : CapturedLayer → String
  | .mac => c.macFile
  | .nas => c.nasFile

end CaptureConfig

namespace Captures

theorem get_set (c : Captures) (layer : CapturedLayer) (x : Option (Capture Sink)) :
    (c.set layer x).get = update c.get layer x := by
  funext layer'
  cases layer <;> cases layer' <;> rfl

theorem get_write (c : Captures) (layer : CapturedLayer) (pdu : Bytes) (w : World) :
    (c.write layer pdu w).1.get = update c.get layer ((c.get layer).map fun x => (x.write pdu w).1) := by
  unfold write
  cases h : c.get layer with
  | none =>
    have hself := update_eq_self layer c.get
    rw [h] at hself
    exact hself.symm
  | some x => exact get_set ..

theorem get_closeOne (c : Captures) (layer : CapturedLayer) (w : World) :
    (c.closeOne layer w).1.get = update c.get layer ((c.get layer).map fun x => (x.close w).1) := by
  unfold closeOne
  cases h : c.get layer with
  | none =>
    have hself := update_eq_self layer c.get
    rw [h] at hself
    exact hself.symm
  | some x => exact get_set ..

theorem get_close (c : Captures) (w : World) : ∃ ws : CapturedLayer → World, ∀ layer,
    (c.close w).1.get layer = (c.get layer).map fun x => (x.close (ws layer)).1 := by
  refine ⟨fun | .mac => w | .nas => (c.closeOne .mac w).2, fun layer => ?_⟩
  show ((c.closeOne .mac w).1.closeOne .nas (c.closeOne .mac w).2).1.get layer = _
  rw [get_closeOne, get_closeOne]
  cases layer <;> rfl

end Captures

/-- The sinks of a stack. -/
abbrev Vault := CapturedLayer → Custody

namespace Vault

variable {v v' : Vault} {c c' : Captures}

/-- The captures are those of the sinks that have been opened. -/
def Mirrors (v : Vault) (c : Captures) : Prop := ∀ layer, c.get layer = (v layer).capture?

/-- Packets have been written, by whichever layer. -/
def Written : Vault → Vault → Prop :=
  Relation.ReflTransGen fun v v' => ∃ layer pdu w, v' = update v layer ((v layer).write pdu w)

/-- All captures are closed. -/
def close (v : Vault) (ws : CapturedLayer → World) : Vault := fun layer => (v layer).close (ws layer)

theorem Written.keeps {P : Custody → Prop} (h : v.Written v') (hP : ∀ k pdu w, P k → P (k.write pdu w))
    {layer : CapturedLayer} (hv : P (v layer)) : P (v' layer) := by
  induction h with
  | refl => exact hv
  | tail _ hw ih =>
    obtain ⟨layer', pdu, w, rfl⟩ := hw
    by_cases hl : layer = layer'
    · subst hl
      rw [update_self]
      exact hP _ _ _ ih
    · rwa [update_of_ne hl]

theorem Mirrors.write (h : v.Mirrors c) (layer : CapturedLayer) (pdu : Bytes) (w : World) :
    Mirrors (update v layer ((v layer).write pdu w)) (c.write layer pdu w).1 := by
  intro layer'
  rw [Captures.get_write]
  by_cases hl : layer' = layer
  · subst hl
    rw [update_self, update_self, Custody.capture?_write, h layer']
  · rw [update_of_ne hl, update_of_ne hl, h layer']

theorem Mirrors.written (h : v.Mirrors c) (hc : c.Written c') : ∃ v', v.Written v' ∧ v'.Mirrors c' := by
  induction hc with
  | refl => exact ⟨v, .refl, h⟩
  | tail _ hw ih =>
    obtain ⟨u, hu, hm⟩ := ih
    obtain ⟨layer, pdu, w, rfl⟩ := hw
    exact ⟨_, hu.tail ⟨layer, pdu, w, rfl⟩, hm.write layer pdu w⟩

theorem Mirrors.close (h : v.Mirrors c) (w : World) : ∃ ws, (v.close ws).Mirrors (c.close w).1 := by
  obtain ⟨ws, hws⟩ := c.get_close w
  refine ⟨ws, fun layer => ?_⟩
  rw [hws, h layer]
  exact (Custody.capture?_close ..).symm

theorem Mirrors.set (h : v.Mirrors c) (layer : CapturedLayer) {k : Custody} {x : Option (Capture Sink)}
    (hx : k.capture? = x) : Mirrors (update v layer k) (c.set layer x) := by
  intro layer'
  rw [Captures.get_set]
  by_cases hl : layer' = layer
  · subst hl
    rw [update_self, update_self, hx]
  · rw [update_of_ne hl, update_of_ne hl, h layer']

end Vault

end LteUe
