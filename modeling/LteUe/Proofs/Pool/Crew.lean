import LteUe.Pool.WorkerPool
import LteUe.Proofs.Runs
import Mathlib.Data.List.Perm.Basic
import Mathlib.Data.List.Nodup

/-!
# The threads of a worker pool

Any number of threads push jobs to a pool and stop it, and so do the jobs themselves. The workers take jobs
from the channel, run them, and leave once the channel has been ended and is empty. A call of stop is made of
several steps: it ends the channel, unless another call has done that, hangs up, and joins the workers one
after the other, but for the one that runs it (`Crew.Step`). A call that finds the channel ended returns at
once. A job that is being run may fault, and then comes to its end like any other.
-/

namespace LteUe

variable {β : Type}

theorem WorkerPool.receive_eq_some_iff {p q : WorkerPool β} {w : Nat} {job : β} :
    p.receive w = some (job, q) ↔ p.IsIdle w ∧ ∃ rest, p.waiting = job :: rest ∧
      q = { p with waiting := rest, working := (w, job) :: p.working } := by
  unfold receive
  constructor
  · intro h
    split at h
    · rename_i hi
      cases hw : p.waiting with
      | nil => simp [hw] at h
      | cons j rest =>
        rw [hw] at h
        cases h
        exact ⟨hi, rest, rfl, rfl⟩
    · cases h
  · rintro ⟨hi, rest, hw, rfl⟩
    rw [if_pos hi, hw]

/-- Who has called for the end of a pool. -/
inductive Stopper where
  | outside
  /-- A worker, in the job that it runs. -/
  | worker (w : Nat)
deriving DecidableEq

/-- How far the call is that has ended the channel. -/
inductive Halting where
  /-- It is to hang up, so that the workers hear of the end. -/
  | hangingUp
  /-- It joins these workers, one after the other. -/
  | joining (rest : List Nat)
  | returned
deriving DecidableEq

/-- The workers of a pool of `n` that are still to be joined. -/
def Halting.rest (n : Nat) : Halting → List Nat
  | hangingUp => List.range n
  | joining rest => rest
  | returned => []

/-- A pool, and the threads that are about it. -/
structure Crew (β : Type) where
  pool : WorkerPool β
  /-- The workers whose threads have come to their ends. -/
  gone : List Nat := []
  /-- The call that has ended the channel: who has made it, and how far it is. -/
  halt : Option (Stopper × Halting) := none

namespace Crew

/-- A new pool of `n` workers. -/
def start (n : Nat) : Crew β where
  pool := .ofSize n

/-- The jobs that are being run. -/
def running (x : Crew β) : List β := x.pool.working.map (·.2)

/-- The workers that take jobs, or will do so when they are done with theirs. -/
def staff (x : Crew β) : List Nat := (List.range x.pool.size).filter (· ∉ x.gone)

/-- A call of stop by this worker is under way. -/
def Halts (x : Crew β) (w : Nat) : Prop := ∃ h, x.halt = some (.worker w, h) ∧ h ≠ .returned

/-- Whoever may call stop: a thread from outside at any time, a worker in the course of a job. -/
def MayCall (x : Crew β) : Stopper → Prop
  | .outside => True
  | .worker w => w ∈ x.pool.working.map (·.1) ∧ ¬ x.Halts w

/-- The workers have heard of the end of the channel. -/
def IsHungUp (x : Crew β) : Prop := ∃ c h, x.halt = some (c, h) ∧ h ≠ .hangingUp

/-- What happens in one step. -/
inductive Event (β : Type) where
  | pushed (job : β) (accepted : Bool)
  | received (w : Nat) (job : β)
  | completed (w : Nat) (job : β) (faulted : Bool)
  | left (w : Nat)
  /-- A call of stop ends the channel. -/
  | ended (c : Stopper)
  /-- A call of stop finds the channel ended, and returns. -/
  | turnedAway (c : Stopper)
  /-- The call that has ended the channel goes on. -/
  | advanced
  | returned (c : Stopper)
deriving DecidableEq

/-- The steps. A thread that has to wait has no step: a worker while the channel is empty and goes on, and a
call of stop while the worker goes on that it is to join. -/
inductive Step : Crew β → Event β → Crew β → Prop
  | push {x : Crew β} (job : β) :
      Step x (.pushed job (x.pool.push job).1) { x with pool := (x.pool.push job).2 }
  | receive {x : Crew β} {w : Nat} {job : β} {p : WorkerPool β} :
      w ∉ x.gone → x.pool.receive w = some (job, p) → Step x (.received w job) { x with pool := p }
  -- A job is not done before the call of stop is that it makes.
  | complete {x : Crew β} {w : Nat} {job : β} (faulted : Bool) :
      (w, job) ∈ x.pool.working → ¬ x.Halts w →
        Step x (.completed w job faulted) { x with pool := x.pool.complete w }
  | leave {x : Crew β} {w : Nat} :
      w < x.pool.size → w ∉ x.gone → x.IsHungUp → x.pool.HasLeft w →
        Step x (.left w) { x with gone := w :: x.gone }
  | halt {x : Crew β} {c : Stopper} :
      x.MayCall c → x.pool.stop.1 = true →
        Step x (.ended c) { x with pool := x.pool.stop.2, halt := some (c, .hangingUp) }
  | turnAway {x : Crew β} {c : Stopper} :
      x.MayCall c → x.pool.stop.1 = false → Step x (.turnedAway c) { x with pool := x.pool.stop.2 }
  | hangUp {x : Crew β} {c : Stopper} :
      x.halt = some (c, .hangingUp) →
        Step x .advanced { x with halt := some (c, .joining (List.range x.pool.size)) }
  | join {x : Crew β} {c : Stopper} {w : Nat} {rest : List Nat} :
      x.halt = some (c, .joining (w :: rest)) → c = .worker w ∨ w ∈ x.gone →
        Step x .advanced { x with halt := some (c, .joining rest) }
  | finish {x : Crew β} {c : Stopper} :
      x.halt = some (c, .joining []) → Step x (.returned c) { x with halt := some (c, .returned) }

/-! ## Histories -/

namespace Event

def pushed? : Event β → Option β
  | pushed job _ => some job
  | _ => none

def accepted? : Event β → Option β
  | pushed job true => some job
  | _ => none

def refused? : Event β → Option β
  | pushed job false => some job
  | _ => none

def received? : Event β → Option (Nat × β)
  | received w job => some (w, job)
  | _ => none

def ran? : Event β → Option (Nat × β)
  | completed w job _ => some (w, job)
  | _ => none

def isEnded : Event β → Bool
  | ended _ => true
  | _ => false

end Event

/-- The jobs that have been pushed. -/
def pushed (t : List (Event β)) : List β := t.filterMap (·.pushed?)

/-- The jobs whose push returned `true`. -/
def accepted (t : List (Event β)) : List β := t.filterMap (·.accepted?)

/-- The jobs whose push returned `false`. -/
def refused (t : List (Event β)) : List β := t.filterMap (·.refused?)

/-- The jobs that workers have taken, each with its worker. -/
def received (t : List (Event β)) : List (Nat × β) := t.filterMap (·.received?)

/-- The jobs that have been run to their ends, each with its worker. -/
def ran (t : List (Event β)) : List (Nat × β) := t.filterMap (·.ran?)

/-- A call of stop has ended the channel. -/
def IsEnded (t : List (Event β)) : Prop := ∃ c, .ended c ∈ t

/-! ## What a step does to the pool -/

variable {x y : Crew β} {e : Event β}

/-- The effect of an event on the pool: jobs go from hand to hand, and none is lost or doubled. -/
structure Effect (p : WorkerPool β) (e : Event β) (q : WorkerPool β) : Prop where
  size : q.size = p.size
  accepting : q.accepting = (p.accepting && !e.isEnded)
  order : p.waiting ++ e.accepted?.toList = (e.received?.toList).map (·.2) ++ q.waiting
  held : (p.working ++ e.received?.toList).Perm (e.ran?.toList ++ q.working)
  ids : ∀ v ∈ e.received?.toList, v.1 < p.size

theorem Effect.of_aside {p q : WorkerPool β} (ha : e.accepted? = none) (hr : e.received? = none)
    (hn : e.ran? = none) (hs : q.size = p.size) (hw : q.waiting = p.waiting) (hb : q.working = p.working)
    (hp : q.accepting = (p.accepting && !e.isEnded)) : Effect p e q where
  size := hs
  accepting := hp
  order := by simp [ha, hr, hw]
  held := by simp [hr, hn, hb]
  ids := by simp [hr]

theorem effect_push (p : WorkerPool β) (job : β) : Effect p (.pushed job (p.push job).1) (p.push job).2 := by
  unfold WorkerPool.push
  split
  · exact ⟨rfl, (Bool.and_true _).symm, rfl, by simp [Event.received?, Event.ran?], by simp [Event.received?]⟩
  · exact .of_aside rfl rfl rfl rfl rfl rfl (Bool.and_true _).symm

theorem effect_receive {p q : WorkerPool β} {w : Nat} {job : β} (h : p.receive w = some (job, q)) :
    Effect p (.received w job) q := by
  obtain ⟨hi, rest, hw, rfl⟩ := WorkerPool.receive_eq_some_iff.1 h
  refine ⟨rfl, (Bool.and_true _).symm, ?_, ?_, ?_⟩
  · rw [hw]
    exact List.append_nil _
  · exact List.perm_append_singleton ..
  · exact List.forall_mem_singleton.2 hi.1

/-- A worker that runs a job runs no other, so that one job comes to its end. -/
theorem effect_complete {p : WorkerPool β} {w : Nat} {job : β} (hd : (p.working.map (·.1)).Nodup)
    (hw : (w, job) ∈ p.working) (faulted : Bool) :
    Effect p (.completed w job faulted) (p.complete w) := by
  refine ⟨rfl, (Bool.and_true _).symm, List.append_nil _, ?_, fun _ hv => absurd hv List.not_mem_nil⟩
  obtain ⟨l, r, hlr⟩ := List.append_of_mem hw
  have hother : ∀ v ∈ l ++ r, v.1 ≠ w := by
    intro v hv hvw
    rw [hlr, List.map_append, List.map_cons, List.nodup_middle, List.nodup_cons, ← List.map_append] at hd
    exact hd.1 (List.mem_map.2 ⟨v, hv, hvw⟩)
  have hq : (p.complete w).working = l ++ r := by
    show p.working.filter (·.1 ≠ w) = l ++ r
    rw [hlr, List.filter_append, List.filter_cons_of_neg (by simp), ← List.filter_append]
    exact List.filter_eq_self.2 fun v hv => decide_eq_true (hother v hv)
  rw [hq, hlr]
  exact (List.append_nil _).symm ▸ List.perm_middle

/-! ## What holds of every crew -/

/-- The order among the threads: no worker runs two jobs, none leaves before the channel is ended and empty,
and the call that has ended it passes over no worker but its own. -/
structure InOrder (x : Crew β) : Prop where
  single : (x.pool.working.map (·.1)).Nodup
  ids : ∀ v ∈ x.pool.working, v.1 < x.pool.size
  resting : ∀ w ∈ x.gone, w ∉ x.pool.working.map (·.1)
  drained : x.gone ≠ [] → x.pool.accepting = false ∧ x.pool.waiting = []
  accepting : x.pool.accepting = true ↔ x.halt = none
  joined : ∀ c h, x.halt = some (c, h) →
    ∀ w < x.pool.size, w ∈ h.rest x.pool.size ∨ c = .worker w ∨ w ∈ x.gone
  busy : ∀ w, x.Halts w → w ∈ x.pool.working.map (·.1)

theorem inOrder_start (n : Nat) : (start n : Crew β).InOrder where
  single := List.nodup_nil
  ids := by simp [start, WorkerPool.ofSize]
  resting := by simp [start]
  drained := by simp [start]
  accepting := by simp [start, WorkerPool.ofSize]
  joined := by simp [start]
  busy := by simp [start, Halts]

theorem InOrder.step (h : x.InOrder) (hs : Step x e y) : y.InOrder := by
  cases hs with
  | push job =>
    unfold WorkerPool.push
    split
    · rename_i hp
      refine { h with drained := fun hg => ?_ }
      rw [(h.drained hg).1] at hp
      cases hp
    · exact h
  | @receive w job p hw hp =>
    obtain ⟨⟨hlt, hidle⟩, rest, hwait, rfl⟩ := WorkerPool.receive_eq_some_iff.1 hp
    refine { h with
      single := List.nodup_cons.2 ⟨hidle, h.single⟩
      ids := List.forall_mem_cons.2 ⟨hlt, h.ids⟩
      resting := fun v hv => List.not_mem_cons_of_ne_of_not_mem (by rintro rfl; exact hw hv) (h.resting v hv)
      drained := fun hg => ?_
      busy := fun v hv => List.mem_cons_of_mem _ (h.busy v hv) }
    rw [(h.drained hg).2] at hwait
    cases hwait
  | @complete w job faulted hw hn =>
    have hsub : (x.pool.complete w).working.Sublist x.pool.working := List.filter_sublist
    refine { h with
      single := h.single.sublist (hsub.map _)
      ids := fun v hv => h.ids v (hsub.subset hv)
      resting := fun v hv hm => h.resting v hv ((hsub.map _).subset hm)
      busy := fun v hv => ?_ }
    -- The worker of a call of stop is not the one whose job ends.
    obtain ⟨u, hu, rfl⟩ := List.mem_map.1 (h.busy v hv)
    refine List.mem_map.2 ⟨u, List.mem_filter.2 ⟨hu, decide_eq_true ?_⟩, rfl⟩
    intro huw
    exact hn (huw ▸ hv)
  | leave hlt hg hu hl =>
    exact { h with
      resting := List.forall_mem_cons.2 ⟨hl.2.2, h.resting⟩
      drained := fun _ => ⟨hl.1, hl.2.1⟩
      joined := fun c k hk w hw => (h.joined c k hk w hw).imp_right (Or.imp_right (List.mem_cons_of_mem _)) }
  | @halt c hc hp =>
    refine { h with
      drained := fun hg => ⟨rfl, (h.drained hg).2⟩
      accepting := by simp [WorkerPool.stop]
      joined := fun c' k hk w hw => ?_
      busy := fun w hw => ?_ }
    · obtain ⟨-, rfl⟩ : c = c' ∧ Halting.hangingUp = k := by simpa using hk
      exact .inl (List.mem_range.2 hw)
    · obtain ⟨k, hk, -⟩ := hw
      obtain ⟨rfl, -⟩ : c = .worker w ∧ Halting.hangingUp = k := by simpa using hk
      exact hc.1
  | turnAway _ hp =>
    have hstop : x.pool.stop.2 = x.pool := by
      have hp : x.pool.accepting = false := hp
      simp [WorkerPool.stop, ← hp]
    rw [hstop]
    exact h
  | @hangUp c hk =>
    refine { h with
      accepting := by simpa [hk] using h.accepting
      joined := fun c' k' hk' => ?_
      busy := fun w hw => ?_ }
    · obtain ⟨rfl, rfl⟩ : c = c' ∧ _ = k' := by simpa using hk'
      exact h.joined c .hangingUp hk
    · obtain ⟨k', hk', -⟩ := hw
      obtain ⟨rfl, -⟩ : c = .worker w ∧ _ = k' := by simpa using hk'
      exact h.busy w ⟨_, hk, by simp⟩
  | @join c v rest hk hv =>
    refine { h with
      accepting := by simpa [hk] using h.accepting
      joined := fun c' k' hk' w hw => ?_
      busy := fun w hw => ?_ }
    · obtain ⟨rfl, rfl⟩ : c = c' ∧ _ = k' := by simpa using hk'
      obtain hm | hm := h.joined c _ hk w hw
      · obtain rfl | hm := List.mem_cons.1 hm
        · exact .inr hv
        · exact .inl hm
      · exact .inr hm
    · obtain ⟨k', hk', -⟩ := hw
      obtain ⟨rfl, -⟩ : c = .worker w ∧ _ = k' := by simpa using hk'
      exact h.busy w ⟨_, hk, by simp⟩
  | @finish c hk =>
    refine { h with
      accepting := by simpa [hk] using h.accepting
      joined := fun c' k' hk' => ?_
      busy := fun w hw => ?_ }
    · obtain ⟨rfl, rfl⟩ : c = c' ∧ _ = k' := by simpa using hk'
      exact h.joined c (.joining []) hk
    · obtain ⟨k', hk', hne⟩ := hw
      obtain ⟨-, rfl⟩ : c = .worker w ∧ _ = k' := by simpa using hk'
      exact absurd rfl hne

theorem Step.effect (hs : Step x e y) (h : x.InOrder) : Effect x.pool e y.pool := by
  cases hs with
  | push job => exact effect_push x.pool job
  | receive _ hp => exact effect_receive hp
  | complete faulted hw _ => exact effect_complete h.single hw faulted
  | leave | hangUp | join | finish => exact .of_aside rfl rfl rfl rfl rfl rfl (Bool.and_true _).symm
  | halt => exact .of_aside rfl rfl rfl rfl rfl rfl (Bool.and_false _).symm
  | turnAway _ hp => exact .of_aside rfl rfl rfl rfl rfl rfl (hp.symm.trans (Bool.and_true _).symm)

/-! ## What the history says -/

variable {n : Nat} {t : List (Event β)}

/-- The books of a history: of the jobs taken from the channel, and of those run. -/
structure Books (n : Nat) (t : List (Event β)) (p : WorkerPool β) : Prop where
  size : p.size = n
  accepting : p.accepting = true ↔ ¬ IsEnded t
  order : accepted t = (received t).map (·.2) ++ p.waiting
  held : (received t).Perm (ran t ++ p.working)
  ids : ∀ v ∈ received t, v.1 < n

theorem isEnded_snoc_iff : IsEnded (t ++ [e]) ↔ IsEnded t ∨ e.isEnded = true := by
  have he : e.isEnded = true ↔ ∃ c, e = .ended c := by cases e <;> simp [Event.isEnded]
  simp only [IsEnded, List.mem_append, List.mem_singleton, he, exists_or, eq_comm]

theorem Books.step {p q : WorkerPool β} (h : Books n t p) (he : Effect p e q) : Books n (t ++ [e]) q where
  size := he.size.trans h.size
  accepting := by
    rw [he.accepting, Bool.and_eq_true, h.accepting, isEnded_snoc_iff, not_or, Bool.not_eq_true',
      Bool.not_eq_true]
  order := by
    simp only [accepted, received, filterMap_snoc] at h ⊢
    rw [List.map_append, List.append_assoc, ← he.order, ← List.append_assoc]
    exact congrArg (· ++ _) h.order
  held := by
    simp only [received, ran, filterMap_snoc] at h ⊢
    calc t.filterMap (·.received?) ++ e.received?.toList
      _ |>.Perm ((t.filterMap (·.ran?) ++ p.working) ++ e.received?.toList) := h.held.append_right _
      _ = t.filterMap (·.ran?) ++ (p.working ++ e.received?.toList) := List.append_assoc ..
      _ |>.Perm (t.filterMap (·.ran?) ++ (e.ran?.toList ++ q.working)) := he.held.append_left _
      _ = t.filterMap (·.ran?) ++ e.ran?.toList ++ q.working := (List.append_assoc ..).symm
  ids := by
    simp only [received, filterMap_snoc] at h ⊢
    exact List.forall_mem_append.2 ⟨h.ids, h.size ▸ he.ids⟩

theorem books_of_run (hr : Run Step (start n) t x) : x.InOrder ∧ Books n t x.pool := by
  induction hr with
  | nil =>
    refine ⟨inOrder_start n, rfl, ?_, rfl, .nil, fun _ hv => absurd hv List.not_mem_nil⟩
    simp [start, WorkerPool.ofSize, IsEnded]
  | snoc _ hs ih => exact ⟨ih.1.step hs, ih.2.step (hs.effect ih.1)⟩

end Crew

end LteUe
