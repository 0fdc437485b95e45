import LteUe.Proofs.Executor.Replay

/-!
# The calls of a report

A report of the clock calls medium access control for the ids that it covers, in their order, and the callbacks
of the timers that expire in between. Then it calls each hook of a batch once (`Work.calls_batch_of_ok`). A report
that covers no id has a batch like any other.
-/

namespace LteUe

variable {L κ α : Type}

namespace Call

/-- The id with which medium access control is called. -/
def macTick? : Call κ → Option UInt32
  | macTick tti => some tti
  | _ => none

/-- A call of the hook that the non-access stratum has in a batch. -/
def isNasBatch : Call κ → Bool
  | nasBatch => true
  | _ => false

/-- A call of the hook that radio resource control has in a batch. -/
def isRrcBatch : Call κ → Bool
  | rrcBatch => true
  | _ => false

theorem not_isBatch {c : Call κ} (h : c.isTick = true) : c.isRrcBatch = false ∧ c.isNasBatch = false := by
  cases c with
  | rrcBatch | nasBatch => cases h
  | _ => exact ⟨rfl, rfl⟩

end Call

/-- The ids with which medium access control has been called. -/
def ticked (l : List (Call κ)) : List UInt32 := l.filterMap (·.macTick?)

theorem ticked_append (l m : List (Call κ)) : ticked (l ++ m) = ticked l ++ ticked m :=
  List.filterMap_append

theorem ticked_eq_nil {l : List (Call κ)} (h : ∀ c ∈ l, c.macTick? = none) : ticked l = [] :=
  List.filterMap_eq_nil_iff.2 h

namespace Work

/-! ## Calls that come to a record -/

/-- The calls on record. -/
def calls (y : Executor (Recorded L κ) κ × Shared κ) : List (Call κ) := y.1.layers.calls

/-- Calls have come to the record, all of this kind. -/
def Grown (P : Call κ → Prop) (y y' : Executor (Recorded L κ) κ × Shared κ) : Prop :=
  ∃ m, calls y' = calls y ++ m ∧ ∀ c ∈ m, P c

/-- One call has come to the record. -/
def Noted (c : Call κ) (y y' : Executor (Recorded L κ) κ × Shared κ) : Prop := calls y' = calls y ++ [c]

variable {P Q : Call κ → Prop} {y z : Executor (Recorded L κ) κ × Shared κ} {u : Unit} {c : Call κ}

theorem composes_grown : Composes (Grown (L := L) P) where
  refl y := ⟨[], (List.append_nil _).symm, by simp⟩
  trans := by
    rintro y y' y'' ⟨m, hm, hP⟩ ⟨m', hm', hP'⟩
    exact ⟨m ++ m', by rw [hm', hm, List.append_assoc], List.forall_mem_append.2 ⟨hP, hP'⟩⟩

theorem Grown.mono (h : Grown P y z) (hPQ : ∀ c, P c → Q c) : Grown Q y z :=
  h.imp fun _ h => ⟨h.1, fun c hc => hPQ c (h.2 c hc)⟩

theorem Noted.grown (h : Noted c y z) (hc : P c) : Grown P y z :=
  ⟨[c], h, List.forall_mem_singleton.2 hc⟩

theorem Booked.calls_eq (h : Booked y z) : calls z = calls y :=
  congrArg Recorded.calls h.quiet.layers

theorem noted_hook (c : Call κ) (h : Hook L κ α) : Moves (Noted c) (hook (Hook.recorded c h)) := by
  refine moves_layers_hook (R := fun l l' : Recorded L κ => l'.calls = l.calls ++ [c]) ?_
  rintro ⟨l, r⟩
  unfold outcome Hook.recorded
  dsimp only
  cases h (l.layers, r) <;> rfl

variable [Layers L κ]

theorem grown_tickTimers :
    Moves (Grown fun c : Call κ => ∃ k, c = .fire k) (tickTimers : Work (Recorded L κ) κ Unit) := by
  refine moves_layers_tickTimers
    (R := fun l l' : Recorded L κ => ∃ m, l'.calls = l.calls ++ m ∧ ∀ c ∈ m, ∃ k, c = .fire k) ?_ ?_
  · refine ⟨fun l => ⟨[], (List.append_nil _).symm, by simp⟩, ?_⟩
    rintro l l' l'' ⟨m, hm, hP⟩ ⟨m', hm', hP'⟩
    exact ⟨m ++ m', by rw [hm', hm, List.append_assoc], List.forall_mem_append.2 ⟨hP, hP'⟩⟩
  · rintro k ⟨l, r⟩
    refine ⟨[.fire k], ?_, by simp⟩
    show (outcome (Hook.recorded (.fire k) (Layers.fire k)) (l, r)).2.1.calls = _
    unfold outcome Hook.recorded
    dsimp only
    cases (Layers.fire k : Hook L κ κ) (l.layers, r) <;> rfl

theorem grown_subTick (tti : UInt32) :
    Moves (Grown fun c : Call κ => c.isTick = true) (subTick tti : Work (Recorded L κ) κ Unit) :=
  composes_grown.bind ((noted_hook (.macTick tti) _).mono fun h => h.grown rfl) fun _ =>
    grown_tickTimers.mono fun h => h.mono fun c hc => by
      obtain ⟨k, rfl⟩ := hc
      rfl

theorem ticked_subTick {tti : UInt32} (h : subTick tti y = .ok u z) :
    ticked (calls z) = ticked (calls y) ++ [tti] := by
  rw [subTick_eq] at h
  obtain ⟨_, w, h₁, h₂⟩ := bind_eq_ok_iff.1 h
  have hw : calls w = calls y ++ [.macTick tti] := (noted_hook (.macTick tti) _).of_ok h₁
  obtain ⟨m, hz, hm⟩ := grown_tickTimers.of_ok h₂
  have hnone : ticked m = [] := ticked_eq_nil fun c hc => by
    obtain ⟨k, rfl⟩ := hm c hc
    rfl
  rw [hz, hw, ticked_append, ticked_append, hnone, List.append_nil]
  rfl

theorem ticked_subTicks {ttis : List UInt32} (h : ttis.forM subTick y = .ok u z) :
    ticked (calls z) = ticked (calls y) ++ ttis := by
  induction ttis generalizing y with
  | nil =>
    cases h
    exact (List.append_nil _).symm
  | cons tti ttis ih =>
    obtain ⟨_, w, h₁, h₂⟩ := bind_eq_ok_iff.1 h
    rw [ih h₂, ticked_subTick h₁, List.append_assoc]
    rfl

/-! ## The calls of a batch -/

/-- The ticks of a batch come before its hooks. -/
def ticksOf (tti jump : UInt32) : Work L κ Unit := do
  startMeasuring
  modifyExecutor fun e => { e with currentTti := some (tti % Tti.wrap) }
  (Tti.subTicks tti jump).forM subTick

theorem batch_eq (tti jump : UInt32) : (batch tti jump : Work L κ Unit) = (do
    ticksOf tti jump
    hook Layers.rrcBatch
    hook Layers.nasBatch) := by
  simp only [batch, ticksOf, bind_assoc]

theorem grown_ticksOf (tti jump : UInt32) :
    Moves (Grown fun c : Call κ => c.isTick = true) (ticksOf tti jump : Work (Recorded L κ) κ Unit) :=
  composes_grown.bind (booked_startMeasuring.mono fun h => ⟨[], by simp [h.calls_eq], by simp⟩) fun _ =>
    composes_grown.bind (moves_modify fun _ => ⟨[], (List.append_nil _).symm, by simp⟩) fun _ =>
    composes_grown.forM grown_subTick

theorem ticked_ticksOf {tti jump : UInt32} (h : ticksOf tti jump y = .ok u z) :
    ticked (calls z) = ticked (calls y) ++ Tti.subTicks tti jump := by
  obtain ⟨_, y₁, h₁, h⟩ := bind_eq_ok_iff.1 h
  obtain ⟨_, y₂, h₂, h⟩ := bind_eq_ok_iff.1 h
  cases h₂
  have hticked := ticked_subTicks h
  rw [← (booked_startMeasuring.of_ok h₁).calls_eq]
  exact hticked

/-- A batch that works ticks through all the ids of its report, and calls each hook once. -/
theorem calls_batch_of_ok {tti jump : UInt32} (h : batch tti jump y = .ok u z) :
    ∃ ticks, calls z = calls y ++ (ticks ++ [.rrcBatch, .nasBatch]) ∧ (∀ c ∈ ticks, c.isTick = true) ∧
      ticked ticks = Tti.subTicks tti jump := by
  rw [batch_eq] at h
  obtain ⟨_, w, h₁, h⟩ := bind_eq_ok_iff.1 h
  obtain ⟨_, w', h₂, h₃⟩ := bind_eq_ok_iff.1 h
  obtain ⟨ticks, hw, hticks⟩ := (grown_ticksOf tti jump).of_ok h₁
  have hw' : calls w' = calls w ++ [.rrcBatch] := (noted_hook .rrcBatch _).of_ok h₂
  have hz : calls z = calls w' ++ [.nasBatch] := (noted_hook .nasBatch _).of_ok h₃
  refine ⟨ticks, by rw [hz, hw', hw, List.append_assoc, List.append_assoc]; rfl, hticks, ?_⟩
  have hids := ticked_ticksOf h₁
  rw [hw, ticked_append] at hids
  exact List.append_cancel_left hids

/-! ## The calls of a report -/

variable {tti jump : UInt32} {y₀ z₀ : Executor L κ × Shared κ}

theorem callsOf_tick_eq (tti jump : UInt32) (y₀ : Executor L κ × Shared κ) :
    callsOf (.tick tti jump) y₀ = calls (outcome (batch tti jump) (record y₀)).2 := by
  rw [← (booked_runTti tti jump (record y₀)).calls_eq]
  show calls (outcome (EStateM.bind (runTti tti jump) _) (record y₀)).2 = _
  unfold outcome EStateM.bind
  cases runTti tti jump (record y₀) <;> rfl

theorem callsOf_tick_of_ok (h : batch tti jump y₀ = .ok u z₀) :
    ∃ ticks, callsOf (.tick tti jump) y₀ = ticks ++ [.rrcBatch, .nasBatch] ∧ (∀ c ∈ ticks, c.isTick = true) ∧
      ticked ticks = Tti.subTicks tti jump := by
  have hr : Relates (Forgotten fun _ : List (Call κ) => True)
      (batch tti jump : Work (Recorded L κ) κ Unit) (batch tti jump : Work L κ Unit) :=
    relates_batch (fun _ _ _ => id) tti jump
  have hm := hr (record y₀) y₀ ⟨rfl, trivial⟩
  rw [h] at hm
  rw [callsOf_tick_eq]
  unfold outcome
  cases hx : batch tti jump (record y₀) with
  | error f z =>
    rw [hx] at hm
    cases hm
  | ok u z => exact calls_batch_of_ok hx

theorem exists_batch_of_perform (h : (outcome (perform (.tick tti jump)) y₀).1.isOk = true) :
    ∃ u z, batch tti jump y₀ = .ok u z := by
  unfold outcome at h
  cases hp : (perform (.tick tti jump) : Work L κ Reply) y₀ with
  | error f z =>
    rw [hp] at h
    cases h
  | ok r z =>
    obtain ⟨_, w, hw, -⟩ := bind_eq_ok_iff.1 hp
    rw [runTti_eq] at hw
    obtain ⟨u, v, hv, -⟩ := bind_eq_ok_iff.1 hw
    exact ⟨u, v, hv⟩

end Work

end LteUe
