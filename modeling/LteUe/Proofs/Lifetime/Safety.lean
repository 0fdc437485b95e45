import LteUe.Proofs.Lifetime.Radio
import LteUe.Proofs.Lifetime.Starting

/-!
# A stack lives once

In every order of starts and shutdowns, by whichever threads, a stack goes forward through its states and
never back, starts once at most, and stops its layers once at most. A start that comes too late, or whose
subscriber module does not come up, leaves no trace; and after a shutdown nothing ever goes on
(`Lifetime.lives_once`). A start in which a hook faults, or whose executor is not given a thread, is not among the
steps.
-/

namespace LteUe

variable {L κ : Type}

/-- The states that may follow a state at once. -/
inductive LifecycleState.Next : LifecycleState → LifecycleState → Prop
  | started : Next .uninitialized .running
  | stopping : Next .running .stopping
  | stopped : Next .stopping .stopped
  | discarded : Next .uninitialized .stopped

namespace Lifetime

variable {x y : Lifetime L κ} {e : Event} {t : List Event} {n : Nat}

/-- The events of a start that fails. -/
inductive Event.Vain : Event → Prop
  | entered (n : Nat) (radio : Radio) (found : LifecycleState) : Vain (initEntered n radio found)
  | usim (n : Nat) (causes : Causes) : Vain (usim n (.error causes))
  | returned (n : Nat) (e : InitError) : Vain (initReturned n (.error e))

/-- The stack is as it was, but for the log. -/
structure Untouched (x y : Lifetime L κ) : Prop where
  state : y.state = x.state
  dispatcher : y.shared.dispatcher = x.shared.dispatcher
  pool : y.shared.pool = x.shared.pool
  radio : y.shared.radio = x.shared.radio
  captures : y.shared.captures = x.shared.captures
  deferred : y.shared.deferred = x.shared.deferred
  executor : y.executor = x.executor

section Step

variable [Layers L κ]

theorem Ordered.moves (h : Ordered t x) (hxy : Step x e y) :
    y.state = x.state ∨ x.state.Next y.state := by
  cases hxy with
  | usimUp _ hw | usimFails _ hw => exact .inl ((Work.steady_hook _).of_ok hw).state
  | raise _ hw => exact .inl (Rung.framed _ hw).2.1
  | start hh =>
    have hm : ∀ s ∈ stages, s.point = .raising → s.state = .uninitialized := by decide
    have hs : x.state = .uninitialized := hm _ h.stage (point_eq hh)
    exact .inr (hs ▸ .started)
  | stop hh =>
    have hm : ∀ s ∈ stages, s.point = .leaving → s.state = .running := by decide
    have hs : x.state = .running := hm _ h.stage (point_eq hh)
    exact .inr (hs ▸ .stopping)
  | settle hh =>
    have hm : ∀ s ∈ stages, s.point = .settling → s.state = .stopping ∨ s.state = .uninitialized := by
      decide
    have hs : x.state = .stopping ∨ x.state = .uninitialized := hm _ h.stage (point_eq hh)
    rcases hs with hs | hs
    · exact .inr (hs ▸ .stopped)
    · exact .inr (hs ▸ .discarded)
  | close => exact .inl x.shared.refilled_closeDispatcher.state
  | work hk | run _ _ hk => exact .inl hk.state
  | begin _ _ _ hb =>
    obtain ⟨d, -, hs, -⟩ := Executor.begin_spec hb
    exact .inl hs.state
  | _ => exact .inl rfl

theorem Step.untouched (hL : Layers.Raisable L) (hxy : Step x e y) (he : e.Vain) : Untouched x y := by
  cases he with
  | entered => cases hxy <;> exact ⟨rfl, rfl, rfl, rfl, rfl, rfl, rfl⟩
  | usim =>
    cases hxy with
    | usimFails hh hw =>
      obtain ⟨l, r, hu, hz⟩ := Work.hook_eq_ok_iff.1 hw
      obtain ⟨hp, hc, hd⟩ := hL.usim.of_ok hu
      cases hz
      exact ⟨rfl, rfl, hp, rfl, hc, hd, rfl⟩
  | returned =>
    cases hxy
    exact ⟨rfl, rfl, rfl, rfl, rfl, rfl, rfl⟩

theorem state_of_shutdownReturned {c : StackConfig} (h : Run Step (start c) t x)
    (hn : .shutdownReturned n ∈ t) : x.state = .stopped := by
  induction h with
  | nil => cases hn
  | @snoc t x y e hx hs ih =>
    rcases List.mem_append.1 hn with hn' | hn'
    · have hst := ih hn'
      rcases (ordered hx).moves hs with hm | hm
      · exact hm.trans hst
      · rw [hst] at hm
        cases hm
    · obtain rfl := List.mem_singleton.1 hn'
      have hm : ∀ s ∈ stages, s.point = .ended → s.state = .stopped := by decide
      cases hs with
      | returnShutdown hh => exact hm _ (ordered hx).stage (point_eq hh)

end Step

theorem Ordered.teardowns_begun_le (h : Ordered t x) : teardowns (Lifetime.begun t) ≤ 1 := by
  have hr : ∀ s ∈ stages, s.run ≤ 1 := by decide
  have hp : ∀ s ∈ stages, s.posted ≤ 1 := by decide
  have hc : ∀ s ∈ stages, s.closed = true → s.executor = none := by decide
  rw [h.begun, teardowns_append]
  cases ho : x.shared.dispatcher.closed with
  | true =>
    have he : x.executor = none := by simpa [Lifetime.stage] using hc _ h.stage ho
    rw [h.task he]
    exact hr _ h.stage
  | false =>
    have hw := h.waiting ho
    rw [Lifetime.tasks, teardowns_append] at hw
    have hp : teardowns (posted t) ≤ 1 := hp _ h.stage
    omega

/-- What the events `t` of a run that ends in `x` say of the life of a stack, and what may come next. -/
structure LivesOnce [Layers L κ] (t : List Event) (x : Lifetime L κ) : Prop where
  /-- Its state moves on from new through running and stopping to stopped, or from new to stopped, and in
  no other way. -/
  moves {e : Event} {y : Lifetime L κ} : Step x e y → y.state = x.state ∨ x.state.Next y.state
  /-- One start succeeds at most. -/
  once : ups t ≤ 1
  /-- A start is told the state in which it finds the stack. -/
  found {n : Nat} {radio : Radio} {found : LifecycleState} {y : Lifetime L κ} :
    Step x (.initEntered n radio found) y → found = x.state
  /-- If that is not a new one, it calls no layer, and returns with that state, waiting for nobody. -/
  refused {n : Nat} {radio : Radio} {found : LifecycleState} :
    .initEntered n radio found ∈ t → found ≠ .uninitialized →
      Answers t x n [.initEntered n radio found] (.error (.invalidState found))
  /-- If its subscriber module does not come up, it calls no other layer, and returns with the causes. -/
  denied {n : Nat} {causes : Causes} : .usim n (.error causes) ∈ t →
    ∃ radio, Answers t x n [.initEntered n radio .uninitialized, .usim n (.error causes)]
      (.error (.usim causes))
  /-- In both cases it leaves everything as it was. -/
  untouched {e : Event} {y : Lifetime L κ} : Step x e y → e.Vain → Untouched x y
  /-- A start of a stack that is still a new one succeeds if its subscriber module comes up, whatever starts
  have failed before, and the stack gets its radio. -/
  again {layers : L} {z : L × Surroundings κ} (radio : Radio) (sinks : Sinks) :
    x.holder = none → x.state = .uninitialized →
      Layers.usimInit (layers, x.shared.toSurroundings) = .ok (.ok ()) z →
        ∃ s l, Stack.init layers radio sinks x.toStack = .ok (.ok ()) s ∧ s.state = .running ∧
          s.shared.radio = some radio ∧ Run Step x l { x with toStack := s, calls := x.calls + 1 }
  /-- A start that returns has done one of three things. -/
  returned {n : Nat} {r : Except InitError Unit} : .initReturned n r ∈ t →
    ∃ radio l, Story n radio r l ∧ own n t = l ++ [.initReturned n r]
  /-- A stack that has been started has the radio of that start from then on. -/
  radio {n : Nat} {radio : Radio} : .initReturned n (.ok ()) ∈ t →
    .initEntered n radio .uninitialized ∈ t → x.shared.radio = some radio
  /-- The task that stops the layers is run once at most. -/
  teardown : teardowns (begun t) ≤ 1
  /-- It has been run to its end if the stack has been started and shut down. -/
  tornDown {n m : Nat} : .initReturned n (.ok ()) ∈ t → .shutdownReturned m ∈ t → teardowns (run t) = 1
  /-- Once a shutdown has returned, the stack is stopped, its dispatcher closed and empty, and its workers
  take no job. -/
  ended {m : Nat} : .shutdownReturned m ∈ t →
    x.state = .stopped ∧ x.shared.dispatcher.closed = true ∧ x.tasks = [] ∧
      ∀ j, x.shared.pool.push j = (false, x.shared.pool)

theorem livesOnce [Layers L κ] (hL : Layers.Raisable L) {c : StackConfig} (h : Run Step (start c) t x) :
    LivesOnce t x where
  moves := (ordered h).moves
  once := by
    have hm : ∀ s ∈ stages, s.ups ≤ 1 := by decide
    exact hm _ (ordered h).stage
  found hs := hs.entered_eq.2
  refused := (told h).refused
  denied := (told h).denied
  untouched := Step.untouched hL
  again radio sinks hh hs hu := by
    obtain ⟨s, hi, hr⟩ := Stack.exists_init hL hs hu radio sinks
    obtain ⟨l, he, hn, hl⟩ := run_init hh hi
    rw [hs] at he
    have hx := radio_of_up (h.append hl) (List.mem_append_right _ hn) (List.mem_append_right _ he)
    exact ⟨s, l, hi, hr, hx, hl⟩
  returned := (told h).returned
  radio hn hr := radio_of_up h hn hr
  teardown := (ordered h).teardowns_begun_le
  tornDown hn hm := by
    have hr : ∀ s ∈ stages, s.state = .stopped → 0 < s.ups → s.run = 1 := by decide
    exact hr _ (ordered h).stage (state_of_shutdownReturned h hm) (ups_pos hn)
  ended hm := by
    have hc : ∀ s ∈ stages, s.state = .stopped → s.closed = true ∧ s.executor = none := by decide
    have hs := state_of_shutdownReturned h hm
    obtain ⟨hc, he⟩ := hc _ (ordered h).stage hs
    have he : x.executor = none := by simpa [stage] using he
    refine ⟨hs, hc, ?_, fun j => ?_⟩
    · rw [Lifetime.tasks, (ordered h).tasks hc, (ordered h).task he]
      rfl
    · simp [WorkerPool.push, (ordered h).halted (.inr hs)]

/-- The operations of a stack with layers `L` are made of the steps of `Lifetime.Step`. -/
structure Operates (L : Type) {κ : Type} [Layers L κ] : Prop where
  /-- A start, whatever it answers. -/
  init {x : Lifetime L κ} {layers : L} {radio : Radio} {sinks : Sinks} {r : Except InitError Unit}
    {s : Stack L κ} :
    x.holder = none → Stack.init layers radio sinks x.toStack = .ok r s →
      ∃ l, .initEntered x.calls radio x.state ∈ l ∧ .initReturned x.calls r ∈ l ∧
        Run Step x l { x with toStack := s, calls := x.calls + 1 }
  /-- A turn of the executor. -/
  turn {x : Lifetime L κ} {e e' : Executor L κ} {s : Shared κ} :
    x.task = none → x.executor = some e → e.turn x.shared = some (e', s) →
      ∃ u e₁ s₁, e.begin x.shared = some (u, e₁, s₁) ∧
        Run Step x [.began u, .ran u (outcome (Work.perform u.command) (e₁, s₁)).1]
          { x with shared := s, executor := some e' }
  /-- A shutdown, whatever the layers do and whatever waits, unless the queue of lifecycle tasks is full and
  stays so. -/
  shutdown {t : List Event} {x : Lifetime L κ} : Ordered t x → x.holder = none → x.task = none →
    (x.state = .running → x.toStack.beginShutdown.queueTeardown ≠ none ∨
      x.toStack.beginShutdown.runWaiting.queueTeardown ≠ none) →
        ∃ l, .shutdownReturned x.calls ∈ l ∧
          Run Step x l { x with toStack := x.toStack.shutdown, calls := x.calls + 1 }

theorem operates [Layers L κ] : Operates L where
  init := run_init
  turn := run_turn
  shutdown := run_shutdown

/-- However starts, shutdowns and the drop of a stack come together with each other, with its executor, with
the producers of tasks and with the workers: the stack lives once. -/
theorem lives_once [Layers L κ] (hL : Layers.Raisable L) {c : StackConfig}
    (h : Run Step (start c) t x) : LivesOnce t x ∧ Operates L := ⟨livesOnce hL h, operates⟩

end Lifetime

theorem ObservedLayers.raisable : Layers.Raisable ObservedLayers where
  usim _ := ⟨rfl, rfl, rfl⟩
  raised h y := by
    cases h with
    | macInit | rlcInit | pdcpInit | nasInit | rrcInit => exact ⟨_, rfl⟩
    | captureBegun layer =>
      show ∃ z, captureBegun layer y = .ok () z
      unfold captureBegun
      simp only [bind_eq_ok_iff]
      refine Exists.imp (fun z hz => ⟨_, _, rfl, hz⟩) ?_
      cases y.2.captures.get layer with
      | none => exact ⟨_, rfl⟩
      | some c => cases layer <;> exact ⟨_, rfl⟩

/-- A first start fails, and a second one succeeds with another radio; a third comes too late, and so does a
fourth after the stack has been shut down and shut down again. -/
theorem Lifetime.lives_once_after_failure :
    let first : Radio := { found := ⟨1, 100⟩, selectable := ⟨1, 100⟩ }
    let second : Radio := { found := ⟨2, 200⟩, selectable := ⟨2, 200⟩ }
    let halt : Task := { command := .teardown }
    let t : List Event :=
      [.initEntered 0 first .uninitialized, .usim 0 (.error ["no card"]),
        .initReturned 0 (.error (.usim ["no card"])), .initEntered 1 second .uninitialized,
        .usim 1 (.ok ()), .raised 1 .mac, .raised 1 .rlc, .raised 1 .pdcp, .raised 1 .nas, .raised 1 .rrc,
        .raised 1 .radio, .raised 1 (.capture .mac), .raised 1 (.capture .nas), .worked, .worked,
        .initReturned 1 (.ok ()), .initEntered 2 first .running,
        .initReturned 2 (.error (.invalidState .running)), .shutdownEntered 3, .worked, .posted halt,
        .began halt, .ran halt (.ok .done), .worked, .worked, .worked, .worked, .shutdownReturned 3,
        .shutdownEntered 4, .shutdownReturned 4, .initEntered 5 first .stopped,
        .initReturned 5 (.error (.invalidState .stopped))]
    ∃ x : Lifetime ObservedLayers Callback, Run Step (start {}) t x ∧ LivesOnce t x := by
  intro first second halt t
  have h : ∃ x : Lifetime ObservedLayers Callback, Run Step (start {}) t x := by
    -- The first start fails.
    refine exists_run_cons (.enterInit { plan := { usimError := some ["no card"] } } first {} rfl rfl) <|
      exists_run_cons (.usimFails rfl rfl) <| exists_run_cons (.returnInit rfl rfl) ?_
    -- The second one succeeds.
    refine exists_run_append
      ((run_starting ObservedLayers.jobless { plan := {} } {} rfl rfl).mono fun _ h => h.step) ?_
    refine exists_run_cons (.refuseInit first rfl nofun) <| exists_run_cons (.returnInit rfl rfl) ?_
    -- The stack is shut down.
    refine exists_run_cons (.enterShutdown rfl) <| exists_run_cons (.stop rfl) <|
      exists_run_cons (.queueTeardown rfl rfl) ?_
    refine exists_run_cons (.begin rfl rfl rfl rfl) ?_
    refine exists_run_cons (.run (f := { Executor.ofLayers { plan := {} } {} with running := false })
      rfl rfl ⟨rfl, rfl, rfl⟩ (absurd rfl) fun _ => rfl) ?_
    refine exists_run_cons (.join rfl rfl fun _ h => .inl (Option.some.inj h ▸ rfl)) <|
      exists_run_cons (.close rfl) <| exists_run_cons (.halt rfl) <| exists_run_cons (.settle rfl) <|
      exists_run_cons (.returnShutdown rfl) ?_
    -- It stays so.
    exact exists_run_cons (.enterShutdown rfl) <| exists_run_cons (.returnShutdown rfl) <|
      exists_run_cons (.refuseInit first rfl nofun) <| exists_run_cons (.returnInit rfl rfl) ⟨_, .nil⟩
  obtain ⟨x, h⟩ := h
  exact ⟨x, h, (lives_once ObservedLayers.raisable h).1⟩

end LteUe
