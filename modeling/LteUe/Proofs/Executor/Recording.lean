import LteUe.Proofs.Executor.Coupling

/-!
# Recorded layers

Layers of any kind can be made to keep a list of the calls that they get (`Recorded`). An executor does
with them what it does with the layers as they are (`Work.relates_forget_runTti`), so what the list says of
a report of the clock holds of the layers themselves.
-/

namespace LteUe

variable {L κ α : Type}

/-- What layers are asked for. -/
inductive Call (κ : Type) where
  | usimInit
  | macInit
  | rlcInit
  | pdcpInit
  | nasInit
  | rrcInit
  | captureBegun (layer : CapturedLayer)
  | macTick (tti : UInt32)
  | hasData (lcid : Lcid)
  | writeSdu (lcid : Lcid) (sdu : Bytes) (blocking : Bool)
  | attach (cause : EstablishmentCause)
  | detach (switchOff : Bool)
  | nasBatch
  | rrcBatch
  | inSync
  | outOfSync
  | searchDone (result : SearchResult) (cell : Cell)
  | selectDone (selected : Bool)
  | usimStop
  | macStop
  | rlcStop
  | pdcpStop
  | nasStop
  | rrcStop
  | fire (callback : κ)

namespace Call

/-- The calls of a single tick. -/
def isTick : Call κ → Bool
  | macTick _ | fire _ => true
  | _ => false

end Call

/-- Layers with the calls that they have got, oldest first. -/
structure Recorded (L κ : Type) where
  layers : L
  calls : List (Call κ) := []

/-- A hook that is put on record. -/
def Hook.recorded (c : Call κ) (h : Hook L κ α) : Hook (Recorded L κ) κ α := fun (l, r) =>
  match h (l.layers, r) with
  | .ok a (l', r) => .ok a (⟨l', l.calls ++ [c]⟩, r)
  | .error f (l', r) => .error f (⟨l', l.calls ++ [c]⟩, r)

instance [Layers L κ] : Layers (Recorded L κ) κ where
  usimInit := Hook.recorded .usimInit Layers.usimInit
  macInit := Hook.recorded .macInit Layers.macInit
  rlcInit := Hook.recorded .rlcInit Layers.rlcInit
  pdcpInit := Hook.recorded .pdcpInit Layers.pdcpInit
  nasInit := Hook.recorded .nasInit Layers.nasInit
  rrcInit := Hook.recorded .rrcInit Layers.rrcInit
  captureBegun layer := Hook.recorded (.captureBegun layer) (Layers.captureBegun layer)
  macTick tti := Hook.recorded (.macTick tti) (Layers.macTick tti)
  hasData lcid := Hook.recorded (.hasData lcid) (Layers.hasData lcid)
  writeSdu lcid sdu blocking :=
    Hook.recorded (.writeSdu lcid sdu blocking) (Layers.writeSdu lcid sdu blocking)
  attach cause := Hook.recorded (.attach cause) (Layers.attach cause)
  detach switchOff := Hook.recorded (.detach switchOff) (Layers.detach switchOff)
  nasBatch := Hook.recorded .nasBatch Layers.nasBatch
  rrcBatch := Hook.recorded .rrcBatch Layers.rrcBatch
  inSync := Hook.recorded .inSync Layers.inSync
  outOfSync := Hook.recorded .outOfSync Layers.outOfSync
  searchDone result cell := Hook.recorded (.searchDone result cell) (Layers.searchDone result cell)
  selectDone selected := Hook.recorded (.selectDone selected) (Layers.selectDone selected)
  usimStop := Hook.recorded .usimStop Layers.usimStop
  macStop := Hook.recorded .macStop Layers.macStop
  rlcStop := Hook.recorded .rlcStop Layers.rlcStop
  pdcpStop := Hook.recorded .pdcpStop Layers.pdcpStop
  nasStop := Hook.recorded .nasStop Layers.nasStop
  rrcStop := Hook.recorded .rrcStop Layers.rrcStop
  metrics l := Layers.metrics l.layers
  fire c := Hook.recorded (.fire c) (Layers.fire c)

variable {P : List (Call κ) → Prop} {c : Call κ}

/-- Recorded layers beside the layers themselves. `P` holds of the record. -/
structure Forgets (P : List (Call κ) → Prop) (y : Recorded L κ × Surroundings κ)
    (y' : L × Surroundings κ) : Prop where
  layers : y.1.layers = y'.1
  surroundings : y.2 = y'.2
  calls : P y.1.calls

theorem relates_recorded (hP : ∀ l, P l → P (l ++ [c])) (h : Hook L κ α) :
    Relates (Forgets P) (Hook.recorded c h) h := by
  rintro ⟨l, r⟩ ⟨_, _⟩ ⟨rfl, rfl, hl⟩
  unfold Hook.recorded
  dsimp only
  cases h (l.layers, r) with
  | ok a z => exact .ok ⟨rfl, rfl, hP _ hl⟩
  | error f z => exact .error ⟨rfl, rfl, hP _ hl⟩

/-- If the calls of a tick do not spoil what is said of the record, it makes no difference to ticks. -/
theorem couples_forgets [Layers L κ] (hP : ∀ l (c : Call κ), c.isTick = true → P l → P (l ++ [c])) :
    Layers.Couples (Forgets P : Recorded L κ × Surroundings κ → L × Surroundings κ → Prop) where
  macTick tti := relates_recorded (fun l => hP l _ rfl) _
  fire c := relates_recorded (fun l => hP l _ rfl) _
  deferred h := congrArg _ h.surroundings
  taken h := by
    obtain ⟨rfl, rfl, hc⟩ := h
    exact ⟨rfl, rfl, hc⟩
  putBack state radio h := by
    obtain ⟨rfl, rfl, hc⟩ := h
    exact ⟨rfl, rfl, hc⟩

namespace Work

/-- The executor with the layers as they are, off the record. -/
def forget (y : Executor (Recorded L κ) κ × Shared κ) : Executor L κ × Shared κ :=
  ({ y.1 with layers := y.1.layers.layers }, y.2)

theorem alongside_forget {y : Executor (Recorded L κ) κ × Shared κ} (h : P y.1.layers.calls) :
    Alongside (Forgets P) y (forget y) := by
  refine ⟨⟨rfl, rfl, h⟩, ?_, ?_, ?_, ?_, ?_, ?_, ?_, ?_, ?_, ?_, ?_⟩ <;> rfl

theorem Alongside.forget_eq {y : Executor (Recorded L κ) κ × Shared κ} {y' : Executor L κ × Shared κ}
    (h : Alongside (Forgets P) y y') (hb : books y.1 = books y'.1) : forget y = y' := by
  obtain ⟨e, s⟩ := y
  obtain ⟨e', s'⟩ := y'
  obtain ⟨⟨hl, hr, -⟩, ht, hn, he, hf, hrun, -, -, hc, hd, hu, hs⟩ := h
  cases e
  cases e'
  cases s
  cases s'
  simp only [books, Prod.mk.injEq] at *
  simp only [forget, *]

/-! ## The record makes no difference -/

/-- The executor off the record. `P` holds of the record. -/
def Forgotten (P : List (Call κ) → Prop) (y : Executor (Recorded L κ) κ × Shared κ)
    (y' : Executor L κ × Shared κ) : Prop := forget y = y' ∧ P y.1.layers.calls

theorem forgotten_true : Forgotten (L := L) (fun _ : List (Call κ) => True) = fun y y' => forget y = y' := by
  funext y y'
  exact propext (and_iff_left trivial)

theorem relates_forgotten {x : Work (Recorded L κ) κ α} {x' : Work L κ α}
    (h : Relates (Alongside (Forgets P)) x x') (hb : Moves SameBooks x) (hb' : Moves SameBooks x') :
    Relates (Forgotten P) x x' := by
  rintro y _ ⟨rfl, hP⟩
  have hm := h y (forget y) (alongside_forget hP)
  have h₁ := hb y
  have h₂ := hb' (forget y)
  unfold SameBooks outcome at h₁ h₂
  generalize x y = r at hm h₁ ⊢
  generalize x' (forget y) = r' at hm h₂ ⊢
  cases hm with
  | ok hr => exact .ok ⟨hr.forget_eq (h₁.trans h₂.symm), hr.context.calls⟩
  | error hr => exact .error ⟨hr.forget_eq (h₁.trans h₂.symm), hr.context.calls⟩

theorem relates_forgotten_hook (hP : ∀ l, P l → P (l ++ [c])) (h : Hook L κ α) :
    Relates (Forgotten P) (hook (Hook.recorded c h)) (hook h) := by
  rintro ⟨e, s⟩ _ ⟨rfl, hl⟩
  unfold hook Hook.recorded
  dsimp only [forget]
  cases h (e.layers.layers, s.toSurroundings) with
  | ok a z => exact .ok ⟨rfl, hP _ hl⟩
  | error f z => exact .error ⟨rfl, hP _ hl⟩

theorem relates_forgotten_modify {f : Executor (Recorded L κ) κ × Shared κ → Executor (Recorded L κ) κ × Shared κ}
    {f' : Executor L κ × Shared κ → Executor L κ × Shared κ} (hf : ∀ y, forget (f y) = f' (forget y))
    (hl : ∀ y, (f y).1.layers = y.1.layers) :
    Relates (Forgotten P) (modify f : Work (Recorded L κ) κ PUnit) (modify f' : Work L κ PUnit) := by
  refine relates_modify ?_
  rintro y _ ⟨rfl, hP⟩
  exact ⟨hf y, hl y ▸ hP⟩

theorem relates_stopMeasuring : Relates (Forgotten P)
    (stopMeasuring : Work (Recorded L κ) κ (Option Span)) (stopMeasuring : Work L κ (Option Span)) := by
  rintro ⟨e, s⟩ _ ⟨rfl, hl⟩
  unfold stopMeasuring
  dsimp only [forget]
  cases TickProfiler.stop s.world.readClock.1 e.profiler with
  | ok ended p => exact .ok ⟨rfl, hl⟩
  | error f p => exact .error ⟨rfl, hl⟩

theorem relates_batch [Layers L κ] (hP : ∀ l (c : Call κ), c.isTick = true ∨ c = .rrcBatch ∨ c = .nasBatch →
    P l → P (l ++ [c])) (tti jump : UInt32) : Relates (Forgotten P)
    (batch tti jump : Work (Recorded L κ) κ Unit) (batch tti jump : Work L κ Unit) := by
  have hc : Layers.Couples (Forgets P : Recorded L κ × Surroundings κ → L × Surroundings κ → Prop) :=
    couples_forgets fun l c hc => hP l c (.inl hc)
  refine Relates.bind (relates_forgotten_modify ?_ ?_) fun _ => Relates.bind (relates_forgotten_modify ?_ ?_) fun _ =>
    Relates.bind (relates_forgotten (relates_subTicks hc _) (moves_subTicks _) (moves_subTicks _)) fun _ =>
    Relates.bind (relates_forgotten_hook (fun l => hP l _ (.inr (.inl rfl))) _) fun _ =>
    relates_forgotten_hook (fun l => hP l _ (.inr (.inr rfl))) _
  · rintro ⟨e, s⟩
    dsimp only [forget]
    split <;> rfl
  · rintro ⟨e, s⟩
    dsimp only
    split <;> rfl
  · exact fun _ => rfl
  · exact fun _ => rfl

theorem relates_runTti [Layers L κ] (hP : ∀ l (c : Call κ), c.isTick = true ∨ c = .rrcBatch ∨ c = .nasBatch →
    P l → P (l ++ [c])) (tti jump : UInt32) : Relates (Forgotten P)
    (runTti tti jump : Work (Recorded L κ) κ Unit) (runTti tti jump : Work L κ Unit) := by
  rw [runTti_eq, runTti_eq]
  refine Relates.bind (relates_batch hP tti jump) fun _ =>
    relates_stopMeasuring.bind fun elapsed => Relates.bind (relates_forgotten_modify ?_ ?_) fun _ =>
    relates_forgotten_modify ?_ ?_
  · rintro ⟨e, s⟩
    dsimp only [forget]
    split <;> rfl
  · rintro ⟨e, s⟩
    dsimp only
    split <;> rfl
  · rintro ⟨e, s⟩
    dsimp only [forget]
    split <;> rfl
  · rintro ⟨e, s⟩
    dsimp only
    split <;> rfl

theorem relates_forget_runTti [Layers L κ] (tti jump : UInt32) : Relates (fun y y' => forget y = y')
    (runTti tti jump : Work (Recorded L κ) κ Unit) (runTti tti jump : Work L κ Unit) := by
  have h := relates_runTti (L := L) (P := fun _ : List (Call κ) => True) (fun _ _ _ => id) tti jump
  rwa [forgotten_true] at h

end Work

end LteUe
