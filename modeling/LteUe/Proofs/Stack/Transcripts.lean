import LteUe.Proofs.Executor.Replay
import LteUe.Proofs.Stack.Answers

/-!
# What the layers are asked for

The questions to a stack, with whatever goes on around them, and the calls that its layers get while the
executor runs a task (`Transcript.Step`). There is one executor in the life of a stack, and its layers are
those with which it began, after all the calls that there have been (`Transcript.layers_eq`). Who is answered
whether packets wait on a channel is told what the layers knew in the meantime (`Transcript.asked`).
-/

namespace LteUe

open Function

variable {L κ : Type}

namespace Queries

variable {x : Queries L κ} {t m : List Event} {p i : Nat} {c : Command} {v : Reply} {u : Task}

theorem Event.eq_ran {e : Event} {r : Except Fault Reply} (h : (u, .ran r) ∈ e.ended) : e = .ran u r := by
  cases e with
  | ran u' r' =>
    cases List.mem_singleton.1 h
    rfl
  | closed l =>
    obtain ⟨u', -, hu⟩ := List.mem_map.1 h
    cases hu
  | _ => cases h

theorem acceptedBy_append (p : Nat) (t m : List Event) :
    acceptedBy p (t ++ m) = acceptedBy p t ++ acceptedBy p m := List.filterMap_append

theorem acceptedBy_of_pushed {g : StackConfig} (h : Run Step (start g) (t ++ m) x)
    (hp : .pushed p c (.accepted i) ∈ m) : acceptedBy p t = [] ∧ acceptedBy p (t ++ m) = [⟨c, some i⟩] := by
  have hu : (⟨c, some i⟩ : Task) ∈ acceptedBy p m := List.mem_filterMap.2 ⟨_, hp, if_pos rfl⟩
  have hl := ((answered h).once p).1
  rw [acceptedBy_append, List.length_append] at hl
  have hpos := List.length_pos_of_mem hu
  have ht : acceptedBy p t = [] := List.length_eq_zero_iff.1 (by omega)
  obtain ⟨w, hw⟩ := List.length_eq_one_iff.1 (show (acceptedBy p m).length = 1 by omega)
  rw [hw, List.mem_singleton] at hu
  rw [acceptedBy_append, ht, hw, hu]
  exact ⟨rfl, rfl⟩

/-- A caller who is answered with a value is answered with what the task has come to. -/
theorem mem_ran_of_answered {g : StackConfig} (h : Run Step (start g) t x)
    (hp : acceptedBy p t = [⟨c, some i⟩]) (hv : .answered p (.ok v) ∈ t) : .ran ⟨c, some i⟩ (.ok v) ∈ t := by
  have hr : .ok v ∈ returnedTo p t := List.mem_filterMap.2 ⟨_, hv, if_pos rfl⟩
  have hf : .ran (.ok v) ∈ fatesOf p t := by
    rw [((answered h).ok v hr).1 rfl]
    exact List.mem_singleton_self _
  obtain ⟨⟨w, f⟩, hw, hwf⟩ := List.mem_filterMap.1 hf
  split at hwf
  · rename_i hwp
    cases hwf
    rw [hp, List.mem_singleton] at hwp
    subst hwp
    obtain ⟨e, he, hw⟩ := List.mem_flatMap.1 hw
    exact Event.eq_ran hw ▸ he
  · cases hwf

/-- What is asked and answered in some time is dealt with in that time. -/
theorem ran_of_answered {g : StackConfig} (h : Run Step (start g) (t ++ m) x)
    (hp : .pushed p c (.accepted i) ∈ m) (hv : .answered p (.ok v) ∈ m) : .ran ⟨c, some i⟩ (.ok v) ∈ m := by
  obtain ⟨hn, hm⟩ := acceptedBy_of_pushed h hp
  refine (List.mem_append.1 (mem_ran_of_answered h hm (List.mem_append_right _ hv))).resolve_left fun he => ?_
  -- It would have been accepted before it was asked.
  obtain ⟨y, hy, -⟩ := run_append_iff.1 h
  have hended : (⟨c, some i⟩, .ran (.ok v)) ∈ ended t := List.mem_flatMap.2 ⟨_, he, List.mem_singleton_self _⟩
  obtain ⟨q, hq⟩ := exists_acceptedBy ((accounts hy).mem_accepted hended) rfl
  have hqm : (⟨c, some i⟩ : Task) ∈ acceptedBy q (t ++ m) := by
    rw [acceptedBy_append]
    exact List.mem_append_left _ hq
  obtain rfl := caller_eq h (hm ▸ List.mem_singleton_self _) hqm rfl rfl
  rw [hn] at hq
  cases hq

end Queries

namespace Transcript

/-- What happens in one step, and the calls that the layers get. -/
abbrev Event (κ : Type) := Queries.Event × List (Call κ)

/-- What has happened, apart from the calls. -/
def queries (t : List (Event κ)) : List Queries.Event := t.map (·.1)

/-- The calls that the layers have got, oldest first. -/
def calls (t : List (Event κ)) : List (Call κ) := t.flatMap (·.2)

theorem queries_append (t m : List (Event κ)) : queries (t ++ m) = queries t ++ queries m := List.map_append

theorem calls_append (t m : List (Event κ)) : calls (t ++ m) = calls t ++ calls m := List.flatMap_append

theorem queries_map (m : List Queries.Event) : queries (m.map (·, ([] : List (Call κ)))) = m := by
  rw [queries, List.map_map]
  exact List.map_id m

theorem calls_snoc (t : List (Event κ)) (e : Event κ) : calls (t ++ [e]) = calls t ++ e.2 := by
  rw [calls_append]
  exact congrArg (calls t ++ ·) (List.append_nil _)

theorem conclude_fst (u : Task) (r : Except Fault Reply) (e : Executor L κ) (s s' : Shared κ) :
    (Executor.conclude u r e s).1 = (Executor.conclude u r e s').1 := by
  cases r <;> rfl

theorem conclude_snd (u : Task) (r : Except Fault Reply) (e e' : Executor L κ) (s : Shared κ) :
    (Executor.conclude u r e s).2 = (Executor.conclude u r e' s).2 := by
  cases r <;> rfl

theorem layers_begin {e e' : Executor L κ} {u : Task} {s s' : Shared κ} (h : e.begin s = some (u, e', s')) :
    e'.layers = e.layers := by
  obtain ⟨d, -, rfl, -⟩ := Executor.begin_eq_some_iff.1 h
  rfl

section Step

variable [Layers L κ] {l₀ : L} {x y : Queries L κ} {e : Event κ} {t : List (Event κ)}

/-- The steps of a stack whose layers have been brought up to be `l₀`. What a task finds of all that threads
share may be anything, and what it leaves of it anything that goes on beside the questions. -/
inductive Step (l₀ : L) : Queries L κ → Event κ → Queries L κ → Prop
  | spawn {x : Queries L κ} {e : Executor L κ} :
      x.lifecycle = .starting → e.layers = l₀ →
        Step l₀ x (.worked, []) { x with executor := some e, lifecycle := .idle }
  | run {x : Queries L κ} {e : Executor L κ} {u : Task} {seen s : Shared κ} :
      x.task = some u → x.executor = some e → x.shared.Beside s →
        Step l₀ x
          (.ran u (outcome (Work.perform u.command) (e, seen)).1, Work.callsOf u.command (e, seen))
          { x with
            shared := (Executor.conclude u (outcome (Work.perform u.command) (e, seen)).1 e s).2
            executor := some (e.run u seen).1
            task := none }
  | other {x y : Queries L κ} {w : Queries.Event} :
      Queries.Step x w y → w.run? = none →
        (∀ e', y.executor = some e' → ∃ e, x.executor = some e ∧ e'.layers = e.layers) →
          Step l₀ x (w, []) y

theorem Step.query (h : Step l₀ x e y) : Queries.Step x e.1 y := by
  cases h with
  | spawn hl _ => exact .spawn _ hl
  | @run e u seen s ht he hb =>
    have hs := Queries.Step.run (e := (outcome (Work.perform u.command) (e, seen)).2.1)
      (r := (outcome (Work.perform u.command) (e, seen)).1) ht he hb
    rw [conclude_snd u _ _ e s, conclude_fst u _ _ s (outcome (Work.perform u.command) (e, seen)).2.2] at hs
    exact hs
  | other h _ _ => exact h

theorem run_queries (h : Run (Step l₀) x t y) : Run Queries.Step x (queries t) y :=
  h.map (g := id) fun _ => Step.query

/-! ## The executor -/

/-- The time before there is an executor is over. -/
def Spent (x : Queries L κ) : Prop := x.state ≠ .uninitialized ∧ x.lifecycle ≠ .starting

omit [Layers L κ] in
theorem spent_of_executor (h : Queries.Ordered x) {e : Executor L κ} (he : x.executor = some e) :
    Spent x := by
  have hs : ∀ s ∈ Queries.stages, s.executor = true → s.state ≠ .uninitialized ∧ s.lifecycle ≠ .starting := by
    decide
  exact hs _ h.stage (by rw [Queries.stage, he]; rfl)

omit [Layers L κ] in
theorem Spent.step {w : Queries.Event} (h : Spent x) (hs : Queries.Step x w y) : Spent y := by
  obtain ⟨hu, hl⟩ := h
  have hkeep : ∀ {s : LifecycleState}, s = x.shared.state → s ≠ .uninitialized :=
    fun h hs => hu (h.symm.trans hs)
  cases hs with
  | enter | deny | refuse | park | answer | stoppedBefore => exact ⟨hu, hl⟩
  | accept _ hp =>
    obtain ⟨-, d, -, rfl⟩ := Shared.pose_eq_asked_iff.1 hp
    exact ⟨hu, hl⟩
  | post => exact ⟨hu, hl⟩
  | work hb => exact ⟨hkeep hb.state, hl⟩
  | begin _ _ _ hb =>
    obtain ⟨d, -, hb, -⟩ := Executor.begin_spec hb
    exact ⟨hkeep hb.state, hl⟩
  | run _ _ hb =>
    exact ⟨hkeep (hb.refilled.trans (Executor.refilled_conclude _ _ _ _)).state, hl⟩
  | start _ hs => exact absurd hs hu
  | spawn _ hs => exact absurd hs hl
  | fail hs => exact absurd hs hl
  | closeFailed => exact ⟨hkeep x.shared.refilled_closeDispatcher.state, nofun⟩
  | shutdownUnused _ hs => exact absurd hs hu
  | shutdown => exact ⟨nofun, nofun⟩
  | queueTeardown => exact ⟨hu, nofun⟩
  | teardownRejected => exact ⟨hu, nofun⟩
  | join => exact ⟨hu, nofun⟩
  | close => exact ⟨hkeep x.shared.refilled_closeDispatcher.state, nofun⟩
  | finish => exact ⟨nofun, nofun⟩

variable {c : StackConfig} {after : L → Call κ → L}

theorem spent_of_calls (h : Run (Step l₀) (Queries.start c) t x) (ht : calls t ≠ []) : Spent x := by
  induction h with
  | nil => exact absurd rfl ht
  | @snoc t y z e hr hs ih =>
    cases id hs with
    | spawn hl _ =>
      rw [calls_snoc, List.append_nil] at ht
      exact absurd hl (ih ht).2
    | run _ he _ => exact (spent_of_executor (Queries.ordered (run_queries hr)) he).step hs.query
    | other _ _ _ =>
      rw [calls_snoc, List.append_nil] at ht
      exact (ih ht).step hs.query

/-- The layers of the executor are those with which it began, after all the calls. -/
theorem layers_eq (ha : Layers.KnownBy after) (h : Run (Step l₀) (Queries.start c) t x) {e : Executor L κ}
    (he : x.executor = some e) : e.layers = (calls t).foldl after l₀ := by
  induction h generalizing e with
  | nil => cases he
  | @snoc t y z w hr hs ih =>
    rw [calls_snoc, List.foldl_append]
    cases hs with
    | spawn hl hl₀ =>
      obtain rfl := Option.some.inj he
      have hn : calls t = [] := by_contra fun hn => (spent_of_calls hr hn).2 hl
      rw [hn]
      exact hl₀
    | @run e' u seen s _ he' _ =>
      obtain rfl := Option.some.inj he
      rw [Work.layers_run ha, ih he']
    | other _ _ hl =>
      obtain ⟨e', he', hl⟩ := hl e he
      rw [hl, ih he']
      rfl

/-! ## Questions about the layers -/

/-- Caller `p` asks, and is told `r`. -/
def Asks (p : Nat) (c : Command) (r : Except StackError Reply) (m : List (Event κ)) : Prop :=
  (∃ i, .pushed p c (.accepted i) ∈ queries m) ∧ .answered p r ∈ queries m

theorem Step.of_ran {u : Task} {r : Except Fault Reply} {cs : List (Call κ)}
    (h : Step l₀ x (.ran u r, cs) y) :
    ∃ e seen, x.executor = some e ∧ (outcome (Work.perform u.command) (e, seen)).1 = r := by
  generalize hw : ((.ran u r, cs) : Event κ) = w at h
  cases h with
  | spawn => cases hw
  | run _ he _ =>
    cases hw
    exact ⟨_, _, he, rfl⟩
  | other _ hr _ =>
    cases hw
    cases hr

/-- While somebody asks, and is answered with a value, the executor comes to a moment at which the task has
this value. -/
theorem exists_moment_of_asks {m : List (Event κ)} {p : Nat} {q : Command} {v : Reply}
    (h : Run (Step l₀) (Queries.start c) t x) (hm : Run (Step l₀) x m y) (ha : Asks p q (.ok v) m) :
    ∃ m₁ m₂ x₁ e seen, m = m₁ ++ m₂ ∧ Run (Step l₀) x m₁ x₁ ∧ Run (Step l₀) x₁ m₂ y ∧ x₁.executor = some e ∧
      (outcome (Work.perform q) (e, seen)).1 = .ok v := by
  obtain ⟨⟨i, hp⟩, hv⟩ := ha
  have hq := run_queries (h.append hm)
  rw [queries_append] at hq
  obtain ⟨⟨w, cs⟩, hw, rfl⟩ := List.mem_map.1 (Queries.ran_of_answered hq hp hv)
  obtain ⟨m₁, m₂, rfl⟩ := List.append_of_mem hw
  obtain ⟨x₁, h₁, h₂⟩ := run_append_iff.1 hm
  obtain ⟨x₂, hs, -⟩ := run_cons_iff.1 h₂
  obtain ⟨e, seen, he, hr⟩ := hs.of_ran
  exact ⟨m₁, _, x₁, e, seen, rfl, h₁, h₂, he, hr⟩

/-! ## Runs of the executor and of the workers -/

theorem step_aside {w : Queries.Event} (h : Queries.Step x w y) (hw : w.run? = none)
    (he : y.executor = x.executor) : Step l₀ x (w, []) y :=
  .other h hw fun e' he' => ⟨e', he ▸ he', rfl⟩

theorem Step.of_caller {w : Queries.Event} (h : Queries.Step x w y) (hw : w.caller? ≠ none) :
    Step l₀ x (w, []) y := by
  cases id h with
  | enter | deny | accept | refuse | park | answer => exact step_aside h rfl rfl
  | _ => exact absurd rfl hw

theorem run_of_callers {m : List Queries.Event} (h : Run Queries.Step x m y)
    (hm : ∀ w ∈ m, w.caller? ≠ none) :
    Run (Step l₀) x (m.map (·, [])) y :=
  h.map (g := id) fun hw hs => .of_caller hs (hm _ hw)

theorem step_began {e e' : Executor L κ} {u : Task} {s : Shared κ} (ht : x.task = none)
    (he : x.executor = some e) (hr : e.running = true) (hb : e.begin x.shared = some (u, e', s)) :
    Step l₀ x (.began u, []) { x with shared := s, executor := some e', task := some u } :=
  .other (.begin ht he hr hb) rfl fun e₁ he₁ => by
    obtain rfl := Option.some.inj he₁
    exact ⟨e, he, layers_begin hb⟩

theorem run_turn {e e' : Executor L κ} {s : Shared κ} (ht : x.task = none) (he : x.executor = some e)
    (h : e.turn x.shared = some (e', s)) :
    ∃ t, Run (Step l₀) x t { x with shared := s, executor := some e' } := by
  obtain ⟨hr, u, e₁, s₁, hb, hrun⟩ := Executor.turn_eq_some_iff.1 h
  have h₁ : Step l₀ x _ _ := step_began ht he hr hb
  have hp := (Work.steady_perform (L := L) u.command (e₁, s₁)).aside
  have h₂ : Step l₀ { x with shared := s₁, executor := some e₁, task := some u }
      (.ran u (outcome (Work.perform u.command) (e₁, s₁)).1, Work.callsOf u.command (e₁, s₁)) _ :=
    .run rfl rfl hp
  rw [conclude_snd u _ e₁ (outcome (Work.perform u.command) (e₁, s₁)).2.1] at h₂
  obtain rfl : _ = e' := congrArg Prod.fst hrun
  obtain rfl : _ = s := congrArg Prod.snd hrun
  rw [ht]
  exact ⟨_, .cons h₁ (run_singleton_iff.2 h₂)⟩

theorem run_runWaiting (ht : x.task = none) :
    ∃ t, Run (Step l₀) x t { x with toStack := x.toStack.runWaiting } :=
  x.toStack.exists_run_runWaiting (f := fun y => { x with toStack := y }) fun {y _ _ _} he h =>
    run_turn (x := { x with toStack := y }) ht he h

theorem run_beside {s : Shared κ} (h : x.shared.Beside s) :
    Run (Step l₀) x [(.worked, [])] { x with shared := s } :=
  run_singleton_iff.2 (step_aside (.work h) rfl rfl)

theorem run_runJob {r : Option Bool} {s : Shared κ} (h : x.shared.runJob = some (r, s)) :
    ∃ t, Run (Step l₀) x t { x with shared := s } := by
  unfold Shared.runJob at h
  obtain ⟨⟨job, pool⟩, hp, h⟩ := Option.bind_eq_some_iff.1 h
  have hc : x.shared.Beside (Shared.consult { x.shared with pool := pool } job).2 := by
    obtain ⟨w, hw⟩ := Shared.consult_eq { x.shared with pool := pool } job
    rw [hw]
    exact ⟨rfl, rfl, rfl⟩
  dsimp only at h
  generalize Shared.consult { x.shared with pool := pool } job = z at h hc
  obtain ⟨_ | c, s₁⟩ := z
  · cases h
    exact ⟨_, run_beside (hc.trans ⟨rfl, rfl, rfl⟩)⟩
  · unfold Shared.postResult Shared.enqueue at h
    dsimp only at h
    cases ho : s₁.offer .background { command := c } with
    | accepted d =>
      rw [ho] at h
      cases h
      have h₁ : Run (Step l₀) x _ _ := run_beside hc
      have h₂ : Step l₀ { x with shared := s₁ } (.posted c, [])
          { x with shared := { s₁ with dispatcher := d } } := step_aside (.post ho) rfl rfl
      exact ⟨_, h₁.append (.cons h₂ (run_beside ⟨rfl, rfl, rfl⟩))⟩
    | rejected e =>
      rw [ho] at h
      cases h
      exact ⟨_, run_beside (hc.trans ⟨rfl, rfl, rfl⟩)⟩
    | parked =>
      rw [ho] at h
      cases h
      exact ⟨_, run_beside hc⟩

end Step

end Transcript

end LteUe
