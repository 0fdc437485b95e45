import LteUe.Proofs.Lifetime.Stages
import LteUe.Proofs.Stack.Operations

/-!
# Starts, turns and shutdowns are runs

The operations of a stack, each done without a break, are made of the steps of `Lifetime.Step`: a start,
whatever it answers (`Lifetime.run_init`), a turn of the executor (`Lifetime.run_turn`), and a shutdown
(`Lifetime.run_shutdown`). In these steps nobody else has a hand (`Lifetime.Alone`).
-/

namespace LteUe

variable {L κ : Type}

/-- What is asked of layers that are to be brought up. -/
structure Layers.Raisable (L : Type) {κ : Type} [Layers L κ] : Prop where
  /-- The subscriber module is not given a handle to the stack: whatever it answers, it leaves the workers,
  the captures and the deferrals alone. -/
  usim : Moves (fun y y' : L × Surroundings κ =>
    y'.2.pool = y.2.pool ∧ y'.2.captures = y.2.captures ∧ y'.2.deferred = y.2.deferred) Layers.usimInit
  /-- The others come up without a fault. -/
  raised {h : Hook L κ Unit} : Layers.Raised h → ∀ y, ∃ z, h y = .ok () z

namespace Stack

variable [Layers L κ] {radio : Radio} {sinks : Sinks} {y z : Executor L κ × Shared κ}

variable (radio) in
theorem rungs_of_startCaptures {u : Unit} (h : Work.startCaptures sinks y = .ok u z) :
    ∃ y', (Rung.capture .mac).work radio sinks y = .ok () y' ∧
      (Rung.capture .nas).work radio sinks y' = .ok () z := by
  unfold Work.startCaptures at h
  obtain ⟨_, _, h₀, h⟩ := bind_eq_ok_iff.1 h
  cases h₀
  obtain ⟨_, y', h₁, h₂⟩ := bind_eq_ok_iff.1 h
  refine ⟨y', h₁, ?_⟩
  have hc : y'.2.config = y.2.config := ((Work.steady_startCapture sinks _ _ .mac).of_ok h₁).config
  rw [← hc] at h₂
  exact h₂

/-- Bringing a stack up is asking the subscriber module to come up, and then taking the rungs. -/
theorem rungs_of_bringUp (h : bringUp radio sinks y = .ok (.ok ()) z) :
    ∃ y', Work.hook Layers.usimInit y = .ok (.ok ()) y' ∧
      Rung.all.forM (Rung.work radio sinks) y' = .ok () z := by
  unfold bringUp at h
  obtain ⟨r, y', h₀, h⟩ := bind_eq_ok_iff.1 h
  cases r with
  | error causes => cases h
  | ok u =>
    obtain ⟨_, _, h₁, h⟩ := bind_eq_ok_iff.1 h
    obtain ⟨_, _, h₂, h⟩ := bind_eq_ok_iff.1 h
    obtain ⟨_, _, h₃, h⟩ := bind_eq_ok_iff.1 h
    obtain ⟨_, _, h₄, h⟩ := bind_eq_ok_iff.1 h
    obtain ⟨_, _, h₅, h⟩ := bind_eq_ok_iff.1 h
    obtain ⟨_, _, h₆, h⟩ := bind_eq_ok_iff.1 h
    obtain ⟨_, _, h₇, h⟩ := bind_eq_ok_iff.1 h
    cases h
    obtain ⟨_, h₇, h₈⟩ := rungs_of_startCaptures radio h₇
    refine ⟨y', h₀, ?_⟩
    refine bind_eq_ok_iff.2 ⟨_, _, h₁, bind_eq_ok_iff.2 ⟨_, _, h₂, bind_eq_ok_iff.2 ⟨_, _, h₃, ?_⟩⟩⟩
    refine bind_eq_ok_iff.2 ⟨_, _, h₄, bind_eq_ok_iff.2 ⟨_, _, h₅, bind_eq_ok_iff.2 ⟨_, _, h₆, ?_⟩⟩⟩
    exact bind_eq_ok_iff.2 ⟨_, _, h₇, bind_eq_ok_iff.2 ⟨_, _, h₈, rfl⟩⟩

theorem usim_of_bringUp {causes : Causes} (h : bringUp radio sinks y = .ok (.error causes) z) :
    Work.hook Layers.usimInit y = .ok (.error causes) z := by
  unfold bringUp at h
  obtain ⟨r, y', h₀, h⟩ := bind_eq_ok_iff.1 h
  cases r with
  | error causes' =>
    cases h
    exact h₀
  | ok u =>
    obtain ⟨_, _, -, h⟩ := bind_eq_ok_iff.1 h
    obtain ⟨_, _, -, h⟩ := bind_eq_ok_iff.1 h
    obtain ⟨_, _, -, h⟩ := bind_eq_ok_iff.1 h
    obtain ⟨_, _, -, h⟩ := bind_eq_ok_iff.1 h
    obtain ⟨_, _, -, h⟩ := bind_eq_ok_iff.1 h
    obtain ⟨_, _, -, h⟩ := bind_eq_ok_iff.1 h
    obtain ⟨_, _, -, h⟩ := bind_eq_ok_iff.1 h
    cases h

theorem exists_hook (hL : Layers.Raisable L) {h : Hook L κ Unit} (hr : Layers.Raised h)
    (y : Executor L κ × Shared κ) : ∃ z, Work.hook h y = .ok () z := by
  obtain ⟨e, s⟩ := y
  obtain ⟨⟨l, r⟩, hz⟩ := hL.raised hr (e.layers, s.toSurroundings)
  exact ⟨_, Work.hook_eq_ok_iff.2 ⟨_, _, hz, rfl⟩⟩

theorem exists_startCapture (hL : Layers.Raisable L) (sinks : Sinks) (enabled : Bool) (path : String)
    (layer : CapturedLayer) (y : Executor L κ × Shared κ) :
    ∃ z, Work.startCapture sinks enabled path layer y = .ok () z := by
  unfold Work.startCapture
  simp only [bind_eq_ok_iff]
  refine Exists.imp (fun z hz => ⟨_, _, rfl, hz⟩) ?_
  split
  · exact exists_hook hL (.captureBegun layer) _
  · exact ⟨_, rfl⟩

theorem exists_bringUp (hL : Layers.Raisable L) {y y' : Executor L κ × Shared κ}
    (hu : Work.hook Layers.usimInit y = .ok (.ok ()) y') (radio : Radio) (sinks : Sinks) :
    ∃ z, bringUp radio sinks y = .ok (.ok ()) z := by
  obtain ⟨y₁, h₁⟩ := exists_hook hL .macInit y'
  obtain ⟨y₂, h₂⟩ := exists_hook hL .rlcInit y₁
  obtain ⟨y₃, h₃⟩ := exists_hook hL .pdcpInit y₂
  obtain ⟨y₄, h₄⟩ := exists_hook hL .nasInit y₃
  obtain ⟨y₅, h₅⟩ := exists_hook hL .rrcInit y₄
  let y₆ := (y₅.1, attachRadio radio y₅.2)
  let c := y₆.2.config.captures
  obtain ⟨y₇, h₇⟩ := exists_startCapture hL sinks c.macEnabled c.macFile .mac y₆
  obtain ⟨y₈, h₈⟩ := exists_startCapture hL sinks c.nasEnabled c.nasFile .nas y₇
  have h₉ : Work.startCaptures sinks y₆ = .ok () y₈ :=
    bind_eq_ok_iff.2 ⟨_, _, rfl, bind_eq_ok_iff.2 ⟨_, _, h₇, h₈⟩⟩
  refine ⟨y₈, bind_eq_ok_iff.2 ⟨_, _, hu, ?_⟩⟩
  refine bind_eq_ok_iff.2 ⟨_, _, h₁, bind_eq_ok_iff.2 ⟨_, _, h₂, bind_eq_ok_iff.2 ⟨_, _, h₃, ?_⟩⟩⟩
  refine bind_eq_ok_iff.2 ⟨_, _, h₄, bind_eq_ok_iff.2 ⟨_, _, h₅, bind_eq_ok_iff.2 ⟨(), y₆, rfl, ?_⟩⟩⟩
  exact bind_eq_ok_iff.2 ⟨_, _, h₉, rfl⟩

theorem exists_init (hL : Layers.Raisable L) {s : Stack L κ} (hs : s.state = .uninitialized) {layers : L}
    {z : L × Surroundings κ} (hu : Layers.usimInit (layers, s.shared.toSurroundings) = .ok (.ok ()) z)
    (radio : Radio) (sinks : Sinks) :
    ∃ s', init layers radio sinks s = .ok (.ok ()) s' ∧ s'.state = .running := by
  obtain ⟨⟨e, shared⟩, h⟩ := exists_bringUp hL
    (Work.hook_eq_ok_iff (e := .ofLayers layers s.shared.config).2 ⟨_, _, hu, rfl⟩) radio sinks
  unfold init
  rw [if_neg (not_not.2 hs), h]
  exact ⟨_, rfl, rfl⟩

end Stack

theorem Shared.Worked.keeps {s s' : Shared κ} (h : s.Worked s') :
    s.Keeps s' ∧ s'.pool.accepting = s.pool.accepting := by
  obtain ⟨p, w, hp, rfl⟩ := h
  exact ⟨⟨rfl, rfl, rfl⟩, hp⟩

theorem Shared.Worked.apart {s s' : Shared κ} (h : s.Worked s') :
    s'.captures = s.captures ∧ s'.config = s.config := by
  obtain ⟨p, w, -, rfl⟩ := h
  exact ⟨rfl, rfl⟩

namespace Executor

theorem keeps_conclude (u : Task) (r : Except Fault Reply) (e : Executor L κ) (s : Shared κ) :
    s.Keeps (conclude u r e s).2 := by
  obtain ⟨_, _, h⟩ := shared_conclude u r e s
  rw [h]
  exact ⟨rfl, rfl, rfl⟩

theorem apart_conclude (u : Task) (r : Except Fault Reply) (e : Executor L κ) (s : Shared κ) :
    (conclude u r e s).2.captures = s.captures ∧ (conclude u r e s).2.config = s.config := by
  obtain ⟨_, _, h⟩ := shared_conclude u r e s
  rw [h]
  exact ⟨rfl, rfl⟩

variable [Layers L κ]

theorem captures_run (u : Task) (e : Executor L κ) (s : Shared κ) :
    (e.run u s).2.captures = (outcome (Work.perform u.command) (e, s)).2.2.captures := (apart_conclude ..).1

theorem config_run (u : Task) (e : Executor L κ) (s : Shared κ) : (e.run u s).2.config = s.config :=
  (apart_conclude ..).2.trans (Work.steady_perform u.command (e, s)).config

/-- A task keeps away from the queues, the radio and the state of the stack, and only one ends the
executor. -/
theorem keeps_run (u : Task) (e : Executor L κ) (s : Shared κ) :
    s.Keeps (e.run u s).2 ∧ (u.command ≠ .teardown → (e.run u s).1.running = e.running) ∧
      (u.command = .teardown → (e.run u s).1.running = false) := by
  rw [running_run]
  refine ⟨?_, fun hu => by simp [hu], fun hu => by simp [hu]⟩
  exact (Work.steady_perform u.command (e, s)).keeps.trans (keeps_conclude ..)

end Executor

namespace Lifetime

/-- While a stack is being shut down, the task that ends the executor is not rejected. -/
theorem Ordered.offer_of_queueTeardown {t : List Event} {x : Lifetime L κ} {n : Nat}
    (hx : Ordered t x) (hh : x.holder = some (n, .stopping)) {s : Stack L κ}
    (hq : x.toStack.queueTeardown = some s) :
    ∃ d, x.shared.offer .control { command := .teardown } = .accepted d ∧
      s = { x.toStack with shared := { x.shared with dispatcher := d } } := by
  have hm : ∀ s ∈ stages, s.point = .stopping → s.closed = false := by decide
  exact Stack.offer_of_queueTeardown (hm _ hx.stage (point_eq hh)) hx.queues hq

variable [Layers L κ] {x : Lifetime L κ} {n : Nat} {e e' : Executor L κ} {radio : Radio} {sinks : Sinks}
  {s : Shared κ}

/-- A step in which nobody has a hand but who takes it: the executor runs its task on what it finds, and what
else is done leaves the captures and the configuration alone. -/
structure Alone (x : Lifetime L κ) (ev : Event) (y : Lifetime L κ) : Prop where
  step : Step x ev y
  ran {u : Task} {r : Except Fault Reply} : ev = .ran u r → ∃ f, x.executor = some f ∧
    (outcome (Work.perform u.command) (f, x.shared)).1 = r ∧ y.shared = (f.run u x.shared).2
  worked : ev = .worked →
    y.shared.captures = x.shared.captures ∧ y.shared.config = x.shared.config

/-- A step in which no task is enqueued, taken or run either. It leaves alone the queues, the workers and the
count of the packets refused. -/
structure Aside (x : Lifetime L κ) (ev : Event) (y : Lifetime L κ) : Prop extends Alone x ev y where
  idle : ev.run? = none ∧ ev.posted? = none ∧ ev.begun? = none
  dispatcher : y.shared.dispatcher = x.shared.dispatcher
  pool : y.shared.pool = x.shared.pool
  uplinkDropped : y.shared.uplinkDropped = x.shared.uplinkDropped

/-! ## Starting -/

theorem alone_rungs {todo : List Rung} (hh : x.holder = some (n, .raising e radio sinks todo))
    (h : todo.forM (Rung.work radio sinks) (e, x.shared) = .ok () (e', s)) :
    Run Alone x (todo.map (.raised n))
      { x with shared := s, holder := some (n, .raising e' radio sinks []) } := by
  induction todo generalizing x e with
  | nil =>
    cases h
    rw [← hh]
    exact .nil
  | cons r todo ih =>
    obtain ⟨_, ⟨e₁, s₁⟩, h₁, h⟩ := bind_eq_ok_iff.1 h
    exact .cons ⟨.raise hh h₁, nofun, nofun⟩ (ih rfl h)

/-- Once all rungs are taken, the stack is said to run, the executor is spawned, and the start succeeds. -/
theorem aside_up (hh : x.holder = some (n, .raising e radio sinks [])) :
    Run Aside x [.worked, .worked, .initReturned n (.ok ())]
      { x with
        shared := { x.shared with state := .running }
        executor := some e
        holder := none } :=
  .cons ⟨⟨.start hh, nofun, fun _ => ⟨rfl, rfl⟩⟩, ⟨rfl, rfl, rfl⟩, rfl, rfl, rfl⟩
    (.cons ⟨⟨.spawn rfl, nofun, fun _ => ⟨rfl, rfl⟩⟩, ⟨rfl, rfl, rfl⟩, rfl, rfl, rfl⟩
    (run_singleton_iff.2 ⟨⟨.returnInit rfl rfl, nofun, nofun⟩, ⟨rfl, rfl, rfl⟩, rfl, rfl, rfl⟩))

/-- A start whose layers come up takes all rungs. -/
theorem alone_raised {layers : L} (hh : x.holder = none) (hs : x.state = .uninitialized)
    (h : Stack.bringUp radio sinks (.ofLayers layers x.shared.config, x.shared) = .ok (.ok ()) (e, s)) :
    Run Alone x
      (.initEntered x.calls radio x.state :: .usim x.calls (.ok ()) :: Rung.all.map (.raised x.calls))
      { x with shared := s, calls := x.calls + 1, holder := some (x.calls, .raising e radio sinks []) } := by
  obtain ⟨⟨e₁, s₁⟩, hu, hr⟩ := Stack.rungs_of_bringUp h
  have h₁ : Alone x _ _ := ⟨.enterInit layers radio sinks hh hs, nofun, nofun⟩
  have h₂ : Alone { x with
      calls := x.calls + 1
      holder := some (x.calls, .probing (.ofLayers layers x.shared.config) radio sinks) } _ _ :=
    ⟨.usimUp rfl hu, nofun, nofun⟩
  exact .cons h₁ (.cons h₂ (alone_rungs rfl hr))

theorem alone_init {layers : L} {r : Except InitError Unit} {s : Stack L κ} (hh : x.holder = none)
    (h : Stack.init layers radio sinks x.toStack = .ok r s) :
    ∃ l, .initEntered x.calls radio x.state ∈ l ∧ .initReturned x.calls r ∈ l ∧
      Run Alone x l { x with toStack := s, calls := x.calls + 1 } := by
  unfold Stack.init at h
  rw [hh]
  split at h
  · rename_i hs
    cases h
    have hr : Alone x _ _ := ⟨.refuseInit radio hh hs, nofun, nofun⟩
    exact ⟨_, .head _, .tail _ (.head _),
      .cons hr (run_singleton_iff.2 ⟨.returnInit rfl rfl, nofun, nofun⟩)⟩
  · rename_i hs
    have hs := not_not.1 hs
    split at h
    · cases h
    · rename_i causes e shared hb
      cases h
      have h₁ : Alone x _ _ := ⟨.enterInit layers radio sinks hh hs, nofun, nofun⟩
      have h₂ : Alone { x with
          calls := x.calls + 1
          holder := some (x.calls, .probing (.ofLayers layers x.shared.config) radio sinks) } _ _ :=
        ⟨.usimFails rfl (Stack.usim_of_bringUp hb), nofun, nofun⟩
      have h₃ := Run.cons h₂ (run_singleton_iff.2 ⟨.returnInit rfl rfl, nofun, nofun⟩)
      exact ⟨_, .head _, .tail _ (.tail _ (.head _)), .cons h₁ h₃⟩
    · rename_i e shared hb
      cases h
      have hr := (alone_raised hh hs hb).append ((aside_up rfl).mono fun _ => Aside.toAlone)
      exact ⟨_, by simp, by simp, hr⟩

/-! ## Running -/

theorem alone_run {u : Task} {r : Except Fault Reply} (ht : x.task = some u) (he : x.executor = some e)
    (hr : (outcome (Work.perform u.command) (e, x.shared)).1 = r) :
    Alone x (.ran u r)
      { x with shared := (e.run u x.shared).2, executor := some (e.run u x.shared).1, task := none } := by
  obtain ⟨hk, hg, hd⟩ := Executor.keeps_run u e x.shared
  refine ⟨.run ht he hk hg hd, fun hev => ?_, nofun⟩
  cases hev
  exact ⟨e, he, hr, rfl⟩

theorem alone_turn (ht : x.task = none) (he : x.executor = some e) (h : e.turn x.shared = some (e', s)) :
    ∃ u e₁ s₁, e.begin x.shared = some (u, e₁, s₁) ∧
      Run Alone x [.began u, .ran u (outcome (Work.perform u.command) (e₁, s₁)).1]
        { x with shared := s, executor := some e' } := by
  obtain ⟨hr, u, e₁, s₁, hb, hr'⟩ := Executor.turn_eq_some_iff.1 h
  have hrun := alone_run (x := { x with shared := s₁, executor := some e₁, task := some u }) rfl rfl rfl
  dsimp only at hrun
  rw [hr'] at hrun
  rw [ht]
  exact ⟨u, e₁, s₁, hb, .cons ⟨.begin ht he hr hb, nofun, nofun⟩ (run_singleton_iff.2 hrun)⟩

theorem alone_runWaiting (ht : x.task = none) :
    ∃ l, Run Alone x l { x with toStack := x.toStack.runWaiting } :=
  x.toStack.exists_run_runWaiting (f := fun y => { x with toStack := y }) fun {y _ _ _} he h => by
    obtain ⟨_, _, _, -, hr⟩ := alone_turn (x := { x with toStack := y }) ht he h
    exact ⟨_, hr⟩

/-! ## Shutting down -/

theorem alone_finish (hh : x.holder = some (n, .closing)) :
    Run Alone x [.worked, .worked, .worked, .worked, .shutdownReturned n]
      { x with toStack := x.toStack.finish, holder := none } := by
  have hc : ({ x.shared.closeDispatcher with
      pool := x.shared.closeDispatcher.pool.stop.2 } : Shared κ).dispatcher.closed = true :=
    x.shared.closed_closeDispatcher
  have hw := Shared.worked_runJobs x.shared.closeDispatcher.pool.stop.2.waiting.length hc
  obtain ⟨hk, ha⟩ := hw.keeps
  exact .cons ⟨.close hh, nofun, fun _ =>
      ⟨x.shared.captures_closeDispatcher, x.shared.config_closeDispatcher⟩⟩
    (.cons ⟨.halt rfl, nofun, fun _ => ⟨rfl, rfl⟩⟩ (.cons ⟨.work hk ha, nofun, fun _ => hw.apart⟩
    (.cons ⟨.settle rfl, nofun, fun _ => ⟨rfl, rfl⟩⟩
    (run_singleton_iff.2 ⟨.returnShutdown rfl, nofun, nofun⟩))))

/-- Once the task that ends the executor is accepted, the shutdown comes to its end. -/
theorem alone_endExecutor {d : Dispatcher Task} (hh : x.holder = some (n, .stopping)) (ht : x.task = none)
    (ho : x.shared.offer .control { command := .teardown } = .accepted d) :
    ∃ l, .shutdownReturned n ∈ l ∧ Run Alone x l
      { x with
        toStack := { x.toStack with shared := { x.shared with dispatcher := d } }.endExecutor
        holder := none } := by
  obtain ⟨l, h₂⟩ := alone_runWaiting (x := { x with
    shared := { x.shared with dispatcher := d }, holder := some (n, .joining) }) ht
  let y : Lifetime L κ := { x with
    toStack := Stack.runWaiting { x.toStack with shared := { x.shared with dispatcher := d } }
    holder := some (n, .joining) }
  let z : Lifetime L κ := { y with executor := none, holder := some (n, .closing) }
  have h₃ : Alone y .worked z :=
    ⟨.join rfl ht fun e he => .inl (Stack.halted_runWaiting ho e he), nofun, fun _ => ⟨rfl, rfl⟩⟩
  have h₄ := alone_finish (x := z) rfl
  refine ⟨_, ?_, .cons ⟨.queueTeardown hh ho, nofun, nofun⟩ (h₂.append (.cons h₃ h₄))⟩
  simp

theorem Ordered.run {t l : List Event} {y : Lifetime L κ} (hx : Ordered t x) (h : Run Step x l y) :
    Ordered (t ++ l) y := by
  induction h with
  | nil => rwa [List.append_nil]
  | snoc _ hs ih =>
    rw [← List.append_assoc]
    exact ih.step hs

/-- A shutdown is a run, whatever the layers do and whatever waits, unless the queue of lifecycle tasks is
full and stays so. -/
theorem alone_shutdown {t : List Event} (hx : Ordered t x) (hh : x.holder = none) (ht : x.task = none)
    (hq : x.state = .running → x.toStack.beginShutdown.queueTeardown ≠ none ∨
      x.toStack.beginShutdown.runWaiting.queueTeardown ≠ none) :
    ∃ l, .shutdownReturned x.calls ∈ l ∧
      Run Alone x l { x with toStack := x.toStack.shutdown, calls := x.calls + 1 } := by
  have h₁ : Alone x _ _ := ⟨.enterShutdown hh, nofun, nofun⟩
  rw [hh]
  unfold Stack.shutdown
  cases hs : x.toStack.state with
  | stopped =>
    rw [hs] at h₁
    exact ⟨_, by simp, .cons h₁ (run_singleton_iff.2 ⟨.returnShutdown rfl, nofun, nofun⟩)⟩
  | uninitialized =>
    rw [hs] at h₁
    have h₂ := alone_finish (x := { x with
      calls := x.calls + 1, holder := some (x.calls, .closing) }) rfl
    exact ⟨_, by simp, .cons h₁ h₂⟩
  | stopping =>
    have hn : ∀ s ∈ stages, s.point = .free → s.state ≠ .stopping := by decide
    exact absurd hs (hn _ hx.stage (point_eq_free hh))
  | running =>
    rw [hs] at h₁
    let z : Lifetime L κ := { x with calls := x.calls + 1, holder := some (x.calls, .leaving) }
    let y : Lifetime L κ := { z with
      toStack := z.toStack.beginShutdown, holder := some (x.calls, .stopping) }
    have h₁ : Alone x _ z := h₁
    have h₂ : Alone z .worked y := ⟨.stop rfl, nofun, fun _ => ⟨rfl, rfl⟩⟩
    have hy := (hx.step h₁.step).step h₂.step
    cases hq₁ : x.toStack.beginShutdown.queueTeardown with
    | some s =>
      obtain ⟨d, hd, rfl⟩ := hy.offer_of_queueTeardown rfl hq₁
      obtain ⟨l, hl, h₃⟩ := alone_endExecutor (x := y) rfl ht hd
      simp only [hq₁]
      exact ⟨_, by simp [hl], .cons h₁ (.cons h₂ h₃)⟩
    | none =>
      obtain ⟨l, h₃⟩ := alone_runWaiting (x := y) ht
      have hz := hy.run (h₃.mono fun _ => Alone.step)
      obtain ⟨s, hq₂⟩ := Option.ne_none_iff_exists'.1 ((hq hs).resolve_left (absurd hq₁))
      obtain ⟨d, hd, rfl⟩ := hz.offer_of_queueTeardown rfl hq₂
      obtain ⟨l', hl', h₄⟩ := alone_endExecutor (x := { y with toStack := y.toStack.runWaiting }) rfl ht hd
      simp only [hq₁, hq₂, Option.getD_some]
      exact ⟨_, by simp [hl'], .cons h₁ (.cons h₂ (h₃.append h₄))⟩

/-! ## In whatever else goes on -/

theorem run_init {layers : L} {r : Except InitError Unit} {s : Stack L κ} (hh : x.holder = none)
    (h : Stack.init layers radio sinks x.toStack = .ok r s) :
    ∃ l, .initEntered x.calls radio x.state ∈ l ∧ .initReturned x.calls r ∈ l ∧
      Run Step x l { x with toStack := s, calls := x.calls + 1 } := by
  obtain ⟨l, he, hr, hl⟩ := alone_init hh h
  exact ⟨l, he, hr, hl.mono fun _ => Alone.step⟩

theorem run_turn (ht : x.task = none) (he : x.executor = some e) (h : e.turn x.shared = some (e', s)) :
    ∃ u e₁ s₁, e.begin x.shared = some (u, e₁, s₁) ∧
      Run Step x [.began u, .ran u (outcome (Work.perform u.command) (e₁, s₁)).1]
        { x with shared := s, executor := some e' } := by
  obtain ⟨u, e₁, s₁, hb, hl⟩ := alone_turn ht he h
  exact ⟨u, e₁, s₁, hb, hl.mono fun _ => Alone.step⟩

theorem run_shutdown {t : List Event} (hx : Ordered t x) (hh : x.holder = none) (ht : x.task = none)
    (hq : x.state = .running → x.toStack.beginShutdown.queueTeardown ≠ none ∨
      x.toStack.beginShutdown.runWaiting.queueTeardown ≠ none) :
    ∃ l, .shutdownReturned x.calls ∈ l ∧
      Run Step x l { x with toStack := x.toStack.shutdown, calls := x.calls + 1 } := by
  obtain ⟨l, hr, hl⟩ := alone_shutdown hx hh ht hq
  exact ⟨l, hr, hl.mono fun _ => Alone.step⟩

end Lifetime

end LteUe
