import LteUe.Proofs.Executor.Batching

/-!
# The calls that a task makes

The layers get from a task the calls that are in its command, and no other (`Call.Of`). The calls are read
off layers on record, of which a task asks what it asks of the layers as they are
(`Work.relates_perform`). A packet goes to packet data convergence in one call, from the task that carries
it, whether or not the call faults (`Work.written_callsOf`).
-/

namespace LteUe

variable {L κ : Type}

/-- A packet on its way up: its channel, its bytes, and whether its sender waits for room. -/
structure Packet where
  lcid : Lcid
  sdu : Bytes
  blocking : Bool
deriving DecidableEq

/-- What is to be done with a packet. -/
def Packet.command (p : Packet) : Command := .uplink p.lcid p.sdu p.blocking

/-- The task that carries a packet. -/
def Packet.task (p : Packet) : Task := { command := p.command }

/-- The packet that a command hands to packet data convergence. -/
def Command.packet? : Command → Option Packet
  | .uplink lcid sdu blocking => some ⟨lcid, sdu, blocking⟩
  | _ => none

/-- The packet that a call hands to packet data convergence. -/
def Call.packet? : Call κ → Option Packet
  | .writeSdu lcid sdu blocking => some ⟨lcid, sdu, blocking⟩
  | _ => none

/-- The packets that packet data convergence has been handed. -/
def written (l : List (Call κ)) : List Packet := l.filterMap (·.packet?)

/-- The calls that may come in the course of a task. -/
inductive Call.Of : Command → Call κ → Prop
  | attach : Of .attach (.attach .standard)
  | detach (switchOff : Bool) : Of (.detach switchOff) (.detach switchOff)
  | hasData (lcid : Lcid) : Of (.hasData lcid) (.hasData lcid)
  | uplink (lcid : Lcid) (sdu : Bytes) (blocking : Bool) :
      Of (.uplink lcid sdu blocking) (.writeSdu lcid sdu blocking)
  | inSync : Of (.sync true) .inSync
  | outOfSync : Of (.sync false) .outOfSync
  | tick (tti jump : UInt32) {c : Call κ} : c.isTick = true → Of (.tick tti jump) c
  | rrcBatch (tti jump : UInt32) : Of (.tick tti jump) .rrcBatch
  | nasBatch (tti jump : UInt32) : Of (.tick tti jump) .nasBatch
  | searchDone (result : SearchResult) (cell : Cell) : Of (.searchDone result cell) (.searchDone result cell)
  | selectDone (selected : Bool) : Of (.selectDone selected) (.selectDone selected)
  | usimStop : Of .teardown .usimStop
  | nasStop : Of .teardown .nasStop
  | rrcStop : Of .teardown .rrcStop
  | rlcStop : Of .teardown .rlcStop
  | pdcpStop : Of .teardown .pdcpStop
  | macStop : Of .teardown .macStop

theorem Call.Of.packet? {c : Command} {a : Call κ} (h : Of c a) {p : Packet} (hp : a.packet? = some p) :
    c = p.command := by
  cases h with
  | uplink lcid sdu blocking =>
    cases hp
    rfl
  | @tick tti jump a ha =>
    cases a with
    | writeSdu => cases ha
    | _ => cases hp
  | _ => cases hp

namespace Work

variable [Layers L κ] {P : List (Call κ) → Prop}

theorem relates_teardown (hP : ∀ l (a : Call κ), Call.Of .teardown a → P l → P (l ++ [a])) :
    Relates (Forgotten P) (teardown : Work (Recorded L κ) κ Unit) (teardown : Work L κ Unit) := by
  refine Relates.bind (relates_forgotten_modify (fun _ => rfl) fun _ => rfl) fun _ =>
    Relates.bind (relates_forgotten_hook (fun l => hP l _ .usimStop) _) fun _ =>
    Relates.bind (relates_forgotten_hook (fun l => hP l _ .nasStop) _) fun _ =>
    Relates.bind (relates_forgotten_hook (fun l => hP l _ .rrcStop) _) fun _ =>
    Relates.bind (relates_forgotten_hook (fun l => hP l _ .rlcStop) _) fun _ =>
    Relates.bind (relates_forgotten_hook (fun l => hP l _ .pdcpStop) _) fun _ =>
    Relates.bind (relates_forgotten_hook (fun l => hP l _ .macStop) _) fun _ =>
    relates_forgotten_modify (fun _ => rfl) fun _ => rfl

omit [Layers L κ] in
theorem relates_noteTask (label : String) (faulty : Bool) :
    Relates (Forgotten P) (noteTask label faulty : Work (Recorded L κ) κ Unit) (noteTask label faulty) := by
  rintro ⟨e, s⟩ _ ⟨rfl, hl⟩
  cases faulty with
  | true => exact .error ⟨rfl, hl⟩
  | false => exact .ok ⟨rfl, hl⟩

/-- A task does with layers on record what it does with the layers as they are. What is said of the record
holds on if the calls of the task do not spoil it. -/
theorem relates_perform (c : Command) (hP : ∀ l (a : Call κ), Call.Of c a → P l → P (l ++ [a])) :
    Relates (Forgotten P) (perform c : Work (Recorded L κ) κ Reply) (perform c : Work L κ Reply) := by
  have hhook : ∀ {α : Type} {a : Call κ} (h : Hook L κ α) (f : α → Reply), Call.Of c a →
      Relates (Forgotten P) (do return f (← hook (Hook.recorded a h))) (do return f (← hook h)) :=
    fun h f ha => (relates_forgotten_hook (fun l => hP l _ ha) h).bind fun _ => .pure _
  cases c with
  | attach => exact hhook _ (fun _ => .done) .attach
  | detach switchOff => exact hhook _ .flag (.detach switchOff)
  | hasData lcid => exact hhook _ .flag (.hasData lcid)
  | metrics =>
    rintro y _ ⟨rfl, hl⟩
    exact .ok ⟨rfl, hl⟩
  | ask v fault =>
    cases fault with
    | none => exact .pure _
    | some text => exact .throw _
  | uplink lcid sdu blocking => exact hhook _ (fun _ => .done) (.uplink lcid sdu blocking)
  | sync inSync =>
    cases inSync with
    | true => exact hhook _ (fun _ => .done) .inSync
    | false => exact hhook _ (fun _ => .done) .outOfSync
  | tick tti jump =>
    refine Relates.bind (relates_runTti (fun l a ha => ?_) tti jump) fun _ => .pure _
    obtain ha | rfl | rfl := ha
    · exact hP l a (.tick tti jump ha)
    · exact hP l _ (.rrcBatch tti jump)
    · exact hP l _ (.nasBatch tti jump)
  | note label faulty => exact (relates_noteTask label faulty).bind fun _ => .pure _
  | searchDone result cell => exact hhook _ (fun _ => .done) (.searchDone result cell)
  | selectDone selected => exact hhook _ (fun _ => .done) (.selectDone selected)
  | idle => exact .pure _
  | teardown => exact (relates_teardown hP).bind fun _ => .pure _

/-- The calls that the layers get while a task does what it is for. -/
def callsOf (c : Command) (y : Executor L κ × Shared κ) : List (Call κ) :=
  (outcome (perform c) (record y)).2.1.layers.calls

/-- The record makes no difference to what a task comes to, and to what it leaves. -/
theorem outcome_record (c : Command) (y : Executor L κ × Shared κ) :
    outcome (perform c) y =
      ((outcome (perform c) (record y)).1, forget (outcome (perform c) (record y)).2) := by
  have h : Relates (Forgotten fun _ : List (Call κ) => True)
      (perform c : Work (Recorded L κ) κ Reply) (perform c : Work L κ Reply) :=
    relates_perform c fun _ _ _ => id
  have hm := h (record y) y ⟨rfl, trivial⟩
  unfold outcome
  generalize perform c (record y) = r at hm ⊢
  generalize perform c y = r' at hm ⊢
  cases hm with
  | ok hr => rw [← hr.1]
  | error hr => rw [← hr.1]

theorem callsOf_of {P : List (Call κ) → Prop} (c : Command) (y : Executor L κ × Shared κ) (h₀ : P [])
    (hP : ∀ l (a : Call κ), Call.Of c a → P l → P (l ++ [a])) : P (callsOf c y) := by
  have hm := relates_perform (L := L) c hP (record y) y ⟨rfl, h₀⟩
  unfold callsOf outcome
  generalize perform c (record y) = r at hm ⊢
  generalize perform c y = r' at hm
  cases hm with
  | ok hr => exact hr.2
  | error hr => exact hr.2

theorem of_mem_callsOf {c : Command} {y : Executor L κ × Shared κ} {a : Call κ} (h : a ∈ callsOf c y) :
    Call.Of c a := by
  refine callsOf_of (P := fun l => ∀ a ∈ l, Call.Of c a) c y (by simp) (fun l a ha hl b hb => ?_) a h
  obtain hb | hb := List.mem_append.1 hb
  · exact hl b hb
  · exact List.mem_singleton.1 hb ▸ ha

omit [Layers L κ] in
theorem calls_hook {α : Type} (a : Call κ) (h : Hook L κ α) (f : α → Reply) (y : Executor L κ × Shared κ) :
    (outcome (do return f (← hook (Hook.recorded a h))) (record y)).2.1.layers.calls = [a] := by
  obtain ⟨e, s⟩ := y
  simp only [outcome, record, bind, EStateM.bind, hook, Hook.recorded]
  cases h (e.layers, s.toSurroundings) with
  | ok b z => rfl
  | error b z => rfl

/-- A task that carries a packet hands it to packet data convergence, once, and no other task does. -/
theorem written_callsOf (c : Command) (y : Executor L κ × Shared κ) :
    written (callsOf c y) = c.packet?.toList := by
  cases hc : c.packet? with
  | none =>
    refine List.filterMap_eq_nil_iff.2 fun a ha => Option.eq_none_iff_forall_ne_some.2 fun p hp => ?_
    rw [(of_mem_callsOf ha).packet? hp] at hc
    cases hc
  | some p =>
    cases c with
    | uplink lcid sdu blocking =>
      cases hc
      exact congrArg written (calls_hook (.writeSdu lcid sdu blocking) _ (fun _ => .done) y)
    | _ => cases hc

end Work

end LteUe
