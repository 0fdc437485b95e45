import LteUe.Executor.Basic
import LteUe.Proofs.Dispatcher.Queues
import LteUe.Proofs.Executor.Moves

/-!
# What the threads of a stack do to its tasks and answers

Each operation on `Shared` is described by what it does to the dispatcher, to the slots of the answers
and to the state of the stack. Whatever leaves these three alone goes on beside the questions
(`Shared.Beside`). A task that was accepted is run or dropped, and its slot is settled by that
(`Fate.settle`).
-/

namespace LteUe

variable {L κ : Type}

/-- What became of a task. -/
inductive Fate where
  | ran (r : Except Fault Reply)
  | dropped

/-- The slot of an answer once its task has met its fate. -/
def Fate.settle : Fate → ResultSlot Reply → ResultSlot Reply
  | .ran (.ok v), s => (s.put v).2
  | .ran (.error _), s | .dropped, s => s.dropWriter

/-- The slot of an answer after some fates. -/
def settleAll (l : List Fate) (s : ResultSlot Reply) : ResultSlot Reply :=
  l.foldl (fun s f => f.settle s) s

/-- The fates of the tasks that are to answer under ticket `i`. -/
def fatesUnder (i : Nat) (l : List (Task × Fate)) : List Fate :=
  l.filterMap fun e => if e.1.ticket = some i then some e.2 else none

theorem fatesUnder_append (i : Nat) (l m : List (Task × Fate)) :
    fatesUnder i (l ++ m) = fatesUnder i l ++ fatesUnder i m := List.filterMap_append

theorem length_fatesUnder (i : Nat) (l : List (Task × Fate)) :
    (fatesUnder i l).length = (l.map (·.1)).countP (fun t => t.ticket = some i) := by
  rw [fatesUnder, List.length_filterMap_eq_countP, List.countP_map]
  congr 1
  funext e
  by_cases h : e.1.ticket = some i <;> simp [h]

theorem settleAll_append (l m : List Fate) (s : ResultSlot Reply) :
    settleAll (l ++ m) s = settleAll m (settleAll l s) := List.foldl_append

namespace Shared

variable {s s' : Shared κ} {i : Nat} {c : Command} {k : QueueKind}

/-- What has changed from `s` to `s'` concerns neither tasks nor answers nor the state of the stack. -/
structure Beside (s s' : Shared κ) : Prop where
  dispatcher : s'.dispatcher = s.dispatcher
  slots : s'.slots = s.slots
  state : s'.state = s.state

theorem Beside.closed (h : Beside s s') : s'.dispatcher.closed = s.dispatcher.closed := by
  rw [h.dispatcher]

theorem Beside.trans {t : Shared κ} (h : Beside s t) (h' : Beside t s') : Beside s s' :=
  ⟨h'.dispatcher.trans h.dispatcher, h'.slots.trans h.slots, h'.state.trans h.state⟩

/-- Only what the slots hold has changed from `s` to `s'`. -/
structure Refilled (s s' : Shared κ) : Prop where
  dispatcher : s'.dispatcher = s.dispatcher
  state : s'.state = s.state
  size : s'.slots.size = s.slots.size

theorem Beside.refilled (h : Beside s s') : Refilled s s' :=
  ⟨h.dispatcher, h.state, congrArg Array.size h.slots⟩

theorem Refilled.trans {t : Shared κ} (h : Refilled s t) (h' : Refilled t s') : Refilled s s' :=
  ⟨h'.dispatcher.trans h.dispatcher, h'.state.trans h.state, h'.size.trans h.size⟩

/-- A task meets its fate. -/
def settle (s : Shared κ) (t : Task) : Fate → Shared κ
  | .ran (.ok v) => s.deliver t.ticket v
  | .ran (.error _) | .dropped => s.abandon t.ticket

theorem refilled_settle (s : Shared κ) (t : Task) (f : Fate) : s.Refilled (s.settle t f) := by
  obtain ⟨c, _ | i⟩ := t
  · rcases f with (_ | _) | _ <;> exact ⟨rfl, rfl, rfl⟩
  · rcases f with (_ | _) | _ <;> exact ⟨rfl, rfl, Array.size_modify ..⟩

theorem getElem?_settle (s : Shared κ) (t : Task) (f : Fate) (i : Nat) :
    (s.settle t f).slots[i]? = s.slots[i]?.map (settleAll (fatesUnder i [(t, f)])) := by
  have keep : ∀ o : Option (ResultSlot Reply), o = o.map (settleAll []) := fun o => by
    cases o <;> rfl
  obtain ⟨c, _ | j⟩ := t
  · have h : fatesUnder i [(⟨c, none⟩, f)] = [] := rfl
    rw [h, ← keep]
    rcases f with (_ | _) | _ <;> rfl
  · by_cases hj : j = i
    · subst hj
      have h : fatesUnder j [(⟨c, some j⟩, f)] = [f] := by simp [fatesUnder]
      rw [h]
      rcases f with (_ | _) | _ <;> exact (Array.getElem?_modify ..).trans (if_pos rfl)
    · have h : fatesUnder i [(⟨c, some j⟩, f)] = [] := by simp [fatesUnder, hj]
      rw [h, ← keep]
      rcases f with (_ | _) | _ <;> exact (Array.getElem?_modify ..).trans (if_neg hj)

/-! ## Tasks that are dropped -/

/-- Some tasks are dropped, one after the other. -/
def dropAll (s : Shared κ) (l : List Task) : Shared κ := l.foldl (fun s t => s.abandon t.ticket) s

theorem dropAll_cons (s : Shared κ) (t : Task) (l : List Task) :
    s.dropAll (t :: l) = (s.settle t .dropped).dropAll l := rfl

theorem refilled_dropAll (s : Shared κ) (l : List Task) : s.Refilled (s.dropAll l) := by
  induction l generalizing s with
  | nil => exact ⟨rfl, rfl, rfl⟩
  | cons t l ih => exact (s.refilled_settle t .dropped).trans (ih _)

theorem getElem?_dropAll (s : Shared κ) (l : List Task) (i : Nat) :
    (s.dropAll l).slots[i]? =
      s.slots[i]?.map (settleAll (fatesUnder i (l.map fun t => (t, .dropped)))) := by
  induction l generalizing s with
  | nil => cases h : s.slots[i]? <;> simp [dropAll, fatesUnder, settleAll, h]
  | cons t l ih =>
    have h : ∀ m, settleAll m ∘ settleAll (fatesUnder i [(t, .dropped)]) =
        settleAll (fatesUnder i [(t, .dropped)] ++ m) := fun m => funext fun x =>
      (settleAll_append ..).symm
    rw [dropAll_cons, ih, getElem?_settle, Option.map_map, h, ← fatesUnder_append]
    rfl

/-- Closing drops the tasks that wait. Apart from that it is a report at most. -/
theorem beside_closeDispatcher (s : Shared κ) :
    Beside ({ s with dispatcher := s.dispatcher.close.2 }.dropAll s.dispatcher.tasks)
      s.closeDispatcher := by
  show Beside _ (if s.dispatcher.tasks.isEmpty then _ else _)
  split
  · exact ⟨rfl, rfl, rfl⟩
  · exact ⟨rfl, rfl, rfl⟩

theorem refilled_closeDispatcher (s : Shared κ) :
    Refilled { s with dispatcher := s.dispatcher.close.2 } s.closeDispatcher :=
  (refilled_dropAll ..).trans s.beside_closeDispatcher.refilled

theorem closed_closeDispatcher (s : Shared κ) : s.closeDispatcher.dispatcher.closed = true := by
  rw [s.refilled_closeDispatcher.dispatcher]
  rfl

theorem getElem?_closeDispatcher (s : Shared κ) (i : Nat) :
    s.closeDispatcher.slots[i]? =
      s.slots[i]?.map (settleAll (fatesUnder i (s.dispatcher.tasks.map fun t => (t, .dropped)))) := by
  rw [s.beside_closeDispatcher.slots, getElem?_dropAll]

theorem surroundings_dropAll (s : Shared κ) (l : List Task) :
    (s.dropAll l).toSurroundings = s.toSurroundings := by
  induction l generalizing s with
  | nil => rfl
  | cons t l ih =>
    refine (ih _).trans ?_
    obtain ⟨c, _ | i⟩ := t
    · rfl
    · rfl

theorem config_closeDispatcher (s : Shared κ) : s.closeDispatcher.config = s.config := by
  have hdrop : ∀ (l : List Task) (s : Shared κ), (s.dropAll l).config = s.config := by
    intro l
    induction l with
    | nil => exact fun _ => rfl
    | cons t l ih =>
      intro s
      refine (ih _).trans ?_
      obtain ⟨c, _ | i⟩ := t
      · rfl
      · rfl
  show (if s.dispatcher.tasks.isEmpty then _ else _ : Shared κ).config = _
  split
  · exact hdrop ..
  · exact hdrop s.dispatcher.tasks { s with dispatcher := s.dispatcher.close.2 }

theorem surroundings_closeDispatcher (s : Shared κ) :
    ∃ w, s.closeDispatcher.toSurroundings = { s.toSurroundings with world := w } := by
  have hd := surroundings_dropAll { s with dispatcher := s.dispatcher.close.2 } s.dispatcher.tasks
  show ∃ w, (if s.dispatcher.tasks.isEmpty then _ else _ : Shared κ).toSurroundings = _
  split
  · exact ⟨_, hd⟩
  · exact ⟨_, congrArg (·.report (undelivered s.dispatcher.tasks.length)) hd⟩

theorem captures_closeDispatcher (s : Shared κ) : s.closeDispatcher.captures = s.captures := by
  obtain ⟨w, hw⟩ := s.surroundings_closeDispatcher
  exact congrArg (·.captures) hw

/-! ## Questions -/

/-- A question that is accepted waits in its queue, and its answer has a slot of its own with one
writer. -/
theorem pose_eq_asked_iff :
    s.pose c = .asked i s' ↔ i = s.slots.size ∧
      ∃ d, s.offer .ue { command := c, ticket := some i } = .accepted d ∧
        s' = { s with dispatcher := d, slots := s.slots.push ResultSlot.empty.addWriter } := by
  unfold pose
  constructor
  · intro h
    cases ho : s.offer .ue { command := c, ticket := some s.slots.size } with
    | accepted d =>
      simp only [ho, Question.asked.injEq] at h
      obtain ⟨rfl, rfl⟩ := h
      exact ⟨rfl, d, ho, rfl⟩
    | rejected e => simp [ho] at h
    | parked => simp [ho] at h
  · rintro ⟨rfl, d, ho, rfl⟩
    simp only [ho]

theorem pose_eq_refused_iff {e : StackError} :
    s.pose c = .refused e ↔ e = .notRunning ∧
      ∃ f, s.offer .ue { command := c, ticket := some s.slots.size } = .rejected f := by
  unfold pose
  cases ho : s.offer .ue { command := c, ticket := some s.slots.size } <;> simp [ho, eq_comm]

theorem pose_eq_parked_iff :
    s.pose c = .parked ↔ s.offer .ue { command := c, ticket := some s.slots.size } = .parked := by
  unfold pose
  cases ho : s.offer .ue { command := c, ticket := some s.slots.size } <;> simp [ho]

theorem answer?_ne_notRunning (s : Shared κ) (i : Nat) :
    s.answer? i ≠ some (.error .notRunning) := by
  unfold answer?
  split <;> simp

theorem answer?_eq {x : ResultSlot Reply} (h : s.slots[i]? = some x) :
    s.answer? i = match x.value with
      | some v => some (.ok v)
      | none => if x.writers = 0 then some (.error .queryAborted) else none := by
  unfold answer? ResultSlot.wait
  rw [h, Option.getD_some]
  cases x.value with
  | some v => rfl
  | none => by_cases hw : x.writers = 0 <;> simp [hw]

/-- The queues of a stack are its own, so a task is rejected by a closed dispatcher only. -/
theorem closed_of_rejected {t : Task} {e : PushError Task} (hk : k.index < s.dispatcher.queues.length)
    (h : s.offer k t = .rejected e) : s.dispatcher.closed = true := by
  obtain ⟨hc, -⟩ | ⟨-, hq, -⟩ := Dispatcher.offer_eq_rejected_iff.1 h
  · exact hc
  · simp [Dispatcher.queue?, queueId, Nat.not_le_of_lt hk] at hq

end Shared

/-! ## The executor -/

namespace Executor

variable {e e' : Executor L κ} {s s' : Shared κ} {t : Task} {r : Except Fault Reply}

/-- The executor takes a task from the dispatcher; arming what has been posted goes on beside it. -/
theorem begin_spec (h : e.begin s = some (t, e', s')) :
    ∃ d, s.dispatcher.tryPop = some (t, d) ∧ Shared.Beside { s with dispatcher := d } s' ∧
      e'.running = e.running := by
  obtain ⟨d, hp, rfl, rfl⟩ := begin_eq_some_iff.1 h
  exact ⟨d, hp, ⟨rfl, rfl, rfl⟩, rfl⟩

theorem exists_serving_of_begin (h : e.begin s = some (t, e', s')) :
    ∃ i, s.dispatcher.serving? = some i ∧ (s.dispatcher.contents i).head? = some t := by
  obtain ⟨d, hp, -, -⟩ := begin_spec h
  obtain ⟨-, hp⟩ := Dispatcher.tryPop_eq_some_iff.1 hp
  obtain ⟨i, hi, hhead, -⟩ := Dispatcher.popInTurn_eq_some_iff.1 hp
  exact ⟨i, hi, hhead⟩

theorem shared_begin (h : e.begin s = some (t, e', s')) :
    ∃ d, s' = { s with dispatcher := d, deferred := [] } := by
  obtain ⟨d, -, -, hs⟩ := begin_eq_some_iff.1 h
  exact ⟨d, hs⟩

theorem pool_begin (h : e.begin s = some (t, e', s')) : s'.pool = s.pool := by
  obtain ⟨d, rfl⟩ := shared_begin h
  rfl

theorem shared_conclude (t : Task) (r : Except Fault Reply) (e : Executor L κ) (s : Shared κ) :
    ∃ slots world, (conclude t r e s).2 = { s with slots := slots, world := world } := by
  obtain ⟨c, _ | i⟩ := t
  · cases r <;> exact ⟨_, _, rfl⟩
  · cases r <;> exact ⟨_, _, rfl⟩

/-- A task that has come to its end meets its fate; counting and reporting go on beside it. -/
theorem beside_conclude (t : Task) (r : Except Fault Reply) (e : Executor L κ) (s : Shared κ) :
    Shared.Beside (s.settle t (.ran r)) (conclude t r e s).2 := by
  cases r with
  | ok v => exact ⟨rfl, rfl, rfl⟩
  | error f => exact ⟨rfl, rfl, rfl⟩

theorem refilled_conclude (t : Task) (r : Except Fault Reply) (e : Executor L κ) (s : Shared κ) :
    s.Refilled (conclude t r e s).2 :=
  (s.refilled_settle t (.ran r)).trans (beside_conclude t r e s).refilled

end Executor

end LteUe
