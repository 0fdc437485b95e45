import LteUe.Proofs.Procedures.Steps

/-!
# Procedures in the life of a stack

Each step of the procedures is one in the life of the stack (`Procedures.Step.life`). The jobs and tasks that
are told apart by the calls that started them are those in the channel of the pool, with the workers, in the
queue of background results and in the hands of the executor, and among them every procedure has its call
(`Procedures.Mirrors`).
-/

namespace LteUe

variable {L κ : Type}

/-! ## Handing jobs to the workers -/

namespace Shared

variable {s s' : Shared κ} {j : Job} {b : Bool}

/-- From `s` to `s'` a job has been handed to the pool, which has taken it if `b` says so. -/
structure Handed (s s' : Shared κ) (j : Job) (b : Bool) : Prop where
  keeps : s.Keeps s'
  pool : s'.pool = { s.pool with waiting := s.pool.waiting ++ if b then [j] else [] }

theorem handed_submit (h : s.asLayer (·.submit j) = (b, s')) : Handed s s' j b := by
  simp only [asLayer, Surroundings.submit, WorkerPool.push] at h
  split at h
  · cases h
    exact ⟨⟨rfl, rfl, rfl⟩, rfl⟩
  · cases h
    exact ⟨⟨rfl, rfl, rfl⟩, by simp⟩

theorem handed_start {p : Procedure} (h : s.asLayer p.start = (b, s')) : Handed s s' p.job b := by
  have hr : s.asLayer (·.submitRadio p.job) = (b, s') := by
    cases p <;> exact h
  cases hradio : s.radio with
  | some r =>
    refine handed_submit (hr ▸ ?_)
    simp only [asLayer, Surroundings.submitRadio, hradio]
  | none =>
    simp only [asLayer, Surroundings.submitRadio, hradio] at hr
    cases hr
    exact ⟨⟨rfl, rfl, rfl⟩, by simp [Surroundings.report]⟩

theorem consult_eq_report {r : Radio} {p : Procedure} {c : Command}
    (h : { s with radio := some r }.consult p.job = (some c, s')) : { command := c } = p.report r := by
  obtain ⟨result, cell, selectable, fault⟩ := r
  cases p with
  | search =>
    cases fault with
    | none =>
      cases h
      rfl
    | some text => cases h
  | select cell =>
    cases h
    rfl

theorem exists_radio_of_consult {p : Procedure} {c : Command} (h : s.consult p.job = (some c, s')) :
    ∃ r, s.radio = some r ∧ { command := c } = p.report r := by
  cases hr : s.radio with
  | some r => exact ⟨r, rfl, consult_eq_report (by rw [← hr]; exact h)⟩
  | none => cases p <;> simp [Procedure.job, consult, hr] at h

end Shared

namespace Execution

variable [Layers L κ] {x y : Lifetime L κ} {w : Event}

/-- A step that is none of the dispatcher's, and of nobody but the workers. -/
theorem step_worked {s : Shared κ} (hk : x.shared.Keeps s)
    (ha : s.pool.accepting = x.shared.pool.accepting) :
    Step x (.worked, .missed) { x with shared := s } :=
  .other (.work hk ha) rfl (hk.dispatcher ▸ .miss) rfl rfl

theorem Step.of_began {u : Task} {d : Traffic.Event Task} (h : Step x (.began u, d) y) :
    x.task = none ∧ y.task = some u ∧ y.shared.pool = x.shared.pool := by
  cases h with
  | other hl =>
    cases hl with
    | begin ht _ _ hb => exact ⟨ht, rfl, Executor.pool_begin hb⟩

theorem Step.task_eq (h : Step x w y) (hr : w.1.run? = none) (hb : w.1.begun? = none) : y.task = x.task := by
  cases h with
  | run => cases hr
  | other hl =>
    cases hl with
    | begin => cases hb
    | run => cases hr
    | _ => rfl

theorem Step.aside_of_closed (h : Step x w y) (hc : w.2.isClosed = true) :
    w.1.run? = none ∧ w.1.begun? = none := by
  have hd := h.deal.eq_closed hc
  have hp := h.popped
  rw [hd] at hp
  cases h with
  | run => cases hc
  | other _ hr => exact ⟨hr, hp.symm⟩

end Execution

namespace Procedures

variable {x y : Procedures L κ} {e : Event κ} {t : List (Event κ)}

/-! ## What is told apart -/

/-- What is told apart by calls is what the pool, the queue of background results and the executor hold. Among
the jobs the procedures are those that a call has started. -/
structure Mirrors (x : Procedures L κ) : Prop where
  channel : x.channel.map (·.2) = x.shared.pool.waiting
  desks : (x.desks.map fun d => (d.worker, d.job)) = x.shared.pool.working
  workers : (x.desks.map (·.worker)).Nodup
  backlog : x.backlog.map (·.2) = x.shared.dispatcher.contents QueueKind.background.index
  hand : x.hand.map (·.2) = x.task
  queued (o : Option Nat) (j : Job) : (o, j) ∈ x.channel → o.isSome = j.procedure?.isSome
  held (d : Desk) : d ∈ x.desks → d.caller.isSome = d.job.procedure?.isSome

theorem mirrors_start (c : StackConfig) : Mirrors (start c : Procedures L κ) where
  channel := rfl
  desks := rfl
  workers := List.nodup_nil
  backlog := (Dispatcher.tasks_eq_nil_iff.1 rfl _).symm
  hand := rfl
  queued _ _ h := absurd h List.not_mem_nil
  held _ h := absurd h List.not_mem_nil

theorem Mirrors.handed {s : Shared κ} {j : Job} {b : Bool} {o : Option Nat} (h : Mirrors x)
    (hs : x.shared.Handed s j b) (ho : o.isSome = j.procedure?.isSome) (n : Nat) :
    Mirrors { x with
      shared := s
      started := n
      channel := x.channel ++ if b then [(o, j)] else [] } where
  channel := by
    rw [hs.pool, List.map_append, h.channel]
    cases b <;> rfl
  desks := by rw [hs.pool, h.desks]
  workers := h.workers
  backlog := by rw [hs.keeps.dispatcher, h.backlog]
  hand := h.hand
  queued o' j' hm := by
    obtain hm | hm := List.mem_append.1 hm
    · exact h.queued o' j' hm
    · cases b with
      | false => cases hm
      | true =>
        cases List.mem_singleton.1 hm
        exact ho
  held := h.held

theorem Mirrors.receive {w : Nat} {o : Option Nat} {j : Job} {rest : List (Option Nat × Job)}
    {pool : WorkerPool Job} (h : Mirrors x) (hc : x.channel = (o, j) :: rest)
    (hp : x.shared.pool.receive w = some (j, pool)) :
    Mirrors { x with
      shared := { x.shared with pool := pool }
      channel := rest
      desks := ⟨w, o, j, .taken⟩ :: x.desks } := by
  obtain ⟨hidle, rest', hw, rfl⟩ := WorkerPool.receive_eq_some_iff.1 hp
  have hx := h.channel
  rw [hc, List.map_cons, hw] at hx
  obtain ⟨-, hrest⟩ := List.cons.inj hx
  refine ⟨hrest, congrArg _ h.desks, ?_, h.backlog, h.hand, fun o' j' hm => ?_, fun d hd => ?_⟩
  · -- A worker that is idle has no desk.
    refine List.nodup_cons.2 ⟨fun hm => hidle.2 ?_, h.workers⟩
    rw [← h.desks, List.map_map]
    exact hm
  · exact h.queued o' j' (hc ▸ List.mem_cons_of_mem _ hm)
  · obtain rfl | hd := List.mem_cons.1 hd
    · exact h.queued o j (hc ▸ List.mem_cons_self)
    · exact h.held d hd

theorem Mirrors.desk {l m : List Desk} {d : Desk} {s : Shared κ} {b : List (Option Nat × Task)}
    (h : Mirrors x) (hd : x.desks = l ++ d :: m) (a : Progress) (hp : s.pool = x.shared.pool)
    (hb : b.map (·.2) = s.dispatcher.contents QueueKind.background.index) :
    Mirrors { x with shared := s, desks := l ++ { d with progress := a } :: m, backlog := b } where
  channel := hp ▸ h.channel
  desks := by
    have hx := h.desks
    rw [hd, List.map_append, List.map_cons] at hx
    show (l ++ _ :: m).map _ = s.pool.working
    rw [List.map_append, List.map_cons, hp]
    exact hx
  workers := by
    have hx := h.workers
    rw [hd, List.map_append, List.map_cons] at hx
    show ((l ++ _ :: m).map _).Nodup
    rwa [List.map_append, List.map_cons]
  backlog := hb
  hand := h.hand
  queued := h.queued
  held d₁ hm := by
    have hx := h.held
    rw [hd] at hx
    obtain hm | rfl | hm := List.mem_append.1 hm |>.imp_right List.mem_cons.1
    · exact hx d₁ (List.mem_append_left _ hm)
    · exact hx d (List.mem_append_right _ List.mem_cons_self)
    · exact hx d₁ (List.mem_append_right _ (List.mem_cons_of_mem _ hm))

theorem Mirrors.complete {l m : List Desk} {d : Desk} (h : Mirrors x) (hd : x.desks = l ++ d :: m) :
    Mirrors { x with
      shared := { x.shared with pool := x.shared.pool.complete d.worker }
      desks := l ++ m } := by
  have hsub : (l ++ m).Sublist x.desks := by
    rw [hd]
    exact (List.Sublist.refl l).append (List.sublist_cons_self d m)
  refine ⟨h.channel, ?_, h.workers.sublist (hsub.map _), h.backlog, h.hand, h.queued,
    fun d₁ hm => h.held d₁ (hsub.subset hm)⟩
  have hw := h.workers
  rw [hd, List.map_append, List.map_cons, List.nodup_middle, List.nodup_cons] at hw
  show _ = x.shared.pool.working.filter _
  rw [← h.desks, hd, List.filter_map, List.filter_append, List.filter_cons_of_neg (by simp),
    ← List.filter_append]
  refine congrArg _ (List.filter_eq_self.2 fun d₁ hm => ?_).symm
  have hne : d₁.worker ≠ d.worker := fun he => hw.1 (he ▸ List.map_append ▸ List.mem_map_of_mem hm)
  exact decide_eq_true hne

/-! ## Steps -/

variable [Layers L κ]

theorem Step.life (h : Step x e y) : Execution.Step x.toLifetime e.2 y.toLifetime := by
  cases h with
  | call p hs =>
    obtain ⟨hk, hp⟩ := Shared.handed_start hs
    exact Execution.step_worked hk (by rw [hp])
  | submit _ hs =>
    obtain ⟨hk, hp⟩ := Shared.handed_submit hs
    exact Execution.step_worked hk (by rw [hp])
  | receive _ hp => exact Execution.step_worked ⟨rfl, rfl, rfl⟩ (WorkerPool.accepting_receive hp)
  | @ask _ _ _ _ p r _ s _ hs =>
    obtain ⟨w, hw⟩ := { x.shared with radio := some r }.consult_eq p.job
    rw [hs] at hw
    cases hw
    exact Execution.step_worked ⟨rfl, rfl, rfl⟩ rfl
  | @work _ _ _ _ j r s _ _ hs =>
    obtain ⟨w, hw⟩ := x.shared.consult_eq j
    rw [hs] at hw
    cases hw
    cases r <;> exact Execution.step_worked ⟨rfl, rfl, rfl⟩ rfl
  | report _ hu ho => exact .other (.post hu ho) rfl (.accept ho) rfl rfl
  | turnAway => exact Execution.step_worked ⟨rfl, rfl, rfl⟩ rfl
  | complete => exact Execution.step_worked ⟨rfl, rfl, rfl⟩ rfl
  | begin _ hy => exact hy
  | beginOther _ hy => exact hy
  | run _ ht he hk => exact .run ht he hk
  | close hy => exact hy
  | other hy => exact hy

theorem run_life {x₀ : Procedures L κ} (h : Run Step x₀ t x) :
    Run Execution.Step x₀.toLifetime (lives t) x.toLifetime :=
  h.map fun _ => Step.life

theorem books {c : StackConfig} (h : Run Step (start c) t x) :
    Execution.Books (lives t) x.toLifetime :=
  Execution.books (run_life h)

theorem Mirrors.step (h : Mirrors x) (hs : Step x e y) : Mirrors y := by
  cases hs with
  | call p hs => exact h.handed (Shared.handed_start hs) (by cases p <;> rfl) _
  | submit hj hs => exact h.handed (Shared.handed_submit hs) (by rw [hj]; rfl) _
  | receive hc hp => exact h.receive hc hp
  | @ask _ _ _ _ p r _ s hd hs =>
    obtain ⟨w, hw⟩ := { x.shared with radio := some r }.consult_eq p.job
    rw [hs] at hw
    cases hw
    exact h.desk hd _ rfl h.backlog
  | @work _ _ _ _ j r s hd _ hs =>
    obtain ⟨w, hw⟩ := x.shared.consult_eq j
    rw [hs] at hw
    cases hw
    cases r <;> exact h.desk hd _ rfl h.backlog
  | @report _ _ _ _ _ u d hd _ ho =>
    refine h.desk hd _ rfl ?_
    rw [List.map_append, h.backlog]
    exact ((Dispatcher.contents_of_accepted ho _).trans (if_pos rfl)).symm
  | turnAway hd => exact h.desk hd _ rfl h.backlog
  | complete hd => exact h.complete hd
  | @begin y o u rest hb hy =>
    obtain ⟨-, ht, hp⟩ := hy.of_began
    -- the task is the first of the backlog, so the queue of background results loses its head
    have hx := h.backlog
    rw [hb, List.map_cons] at hx
    have hc := hy.deal.history rfl QueueKind.background.index
    rw [← hx, Traffic.Event.poppedFrom?, if_pos rfl] at hc
    exact ⟨hp ▸ h.channel, hp ▸ h.desks, h.workers, (List.cons.inj ((List.append_nil _).symm.trans hc)).2,
      ht.symm, h.queued, h.held⟩
  | @beginOther y i u hi hy =>
    obtain ⟨-, ht, hp⟩ := hy.of_began
    have hc := hy.deal.history rfl QueueKind.background.index
    rw [← h.backlog, Traffic.Event.poppedFrom?, if_neg hi] at hc
    exact ⟨hp ▸ h.channel, hp ▸ h.desks, h.workers, (List.append_nil _).symm.trans hc, ht.symm, h.queued,
      h.held⟩
  | run hh ht he hk hp =>
    exact ⟨hp ▸ h.channel, hp ▸ h.desks, h.workers, hk.dispatcher ▸ h.backlog, rfl, h.queued, h.held⟩
  | @close y w hy hc hp =>
    obtain ⟨hr, hb⟩ := hy.aside_of_closed hc
    exact ⟨hp ▸ h.channel, hp ▸ h.desks, h.workers, (hy.deal.contents_of_closed hc _).symm,
      h.hand.trans (hy.task_eq hr hb).symm, h.queued, h.held⟩
  | @other y w hy hr hb hc hp =>
    obtain ⟨b, hp⟩ := hp
    have hh := hy.deal.history hc QueueKind.background.index
    rw [Traffic.Event.poppedFrom?_eq_none (hy.popped.trans hb) _, ← h.backlog] at hh
    refine ⟨?_, ?_, h.workers, ?_, h.hand.trans (hy.task_eq hr hb).symm, h.queued, h.held⟩
    · exact h.channel.trans (congrArg (·.waiting) hp).symm
    · exact h.desks.trans (congrArg (·.working) hp).symm
    · simpa [List.map_append, Function.comp_def] using hh

theorem mirrors {c : StackConfig} (h : Run Step (start c) t x) : Mirrors x := by
  induction h with
  | nil => exact mirrors_start c
  | snoc _ hs ih => exact ih.step hs

end Procedures

end LteUe
