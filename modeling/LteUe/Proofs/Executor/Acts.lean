import LteUe.Proofs.Executor.Counting
import LteUe.Proofs.Executor.Deferrals
import LteUe.Proofs.Executor.Posting

/-!
# The executor act by act

An executor takes tasks, calls hooks, ticks the timers and concludes its tasks. Between any two of these acts,
and while a hook runs, other threads may post deferrals, and tasks may use timers of their own (`Site.Step`).
Every turn of the executor is made of such acts, whatever the task (`Site.run_turn`), and those of a report that
comes to its end are known one by one (`Site.run_report`).
-/

namespace LteUe

variable {L κ α : Type}

/-- An executor, with what it shares and the timers in the hands of its tasks. -/
structure Site (L κ : Type) where
  executor : Executor L κ
  shared : Shared κ
  own : List TimerId := []

namespace Site

/-- The site of an executor that is yet to bring its layers up. -/
def start (layers : L) (c : StackConfig) : Site L κ where
  executor := .ofLayers layers c
  shared := .ofConfig c

/-- What there is of deferrals. -/
def deferrals (x : Site L κ) : Deferrals κ where
  timers := x.executor.timers
  posted := x.shared.deferred
  own := x.own

/-- One act, with what it does to deferrals. -/
inductive Act (κ : Type) where
  /-- A task, or another thread, posted a deferral through its handle, which accepted it. -/
  | posted (ticks : Nat) (callback : κ)
  /-- The executor took a task. -/
  | took
  /-- A call of the layers came to its end or to a fault. These deferrals were posted meanwhile. -/
  | called (c : Call κ) (posts : List (Nat × κ))
  /-- The timers were ticked to the end. That ran the first deferrals, and the callbacks posted the others. -/
  | ticked (invoked : List κ) (posts : List (Nat × κ))
  /-- A task used a timer of its own. -/
  | used
  /-- The executor concluded a task. -/
  | concluded
  /-- Nothing was done that concerns deferrals. -/
  | passed
  /-- The timers were ticked, and a callback faulted. -/
  | faulted

/-- The acts, allowed in any order, so that a task may be whatever a caller makes it: it may do anything to the
layers, post deferrals, use live timers of its own and have reports processed, and end or fault at any point. -/
inductive Step [Layers L κ] : Site L κ → Act κ → Site L κ → Prop
  | post {x : Site L κ} {ticks : Nat} {callback : κ} {r : Surroundings κ} :
      x.shared.defer ticks callback = (true, r) →
        Step x (.posted ticks callback) { x with shared := { x.shared with toSurroundings := r } }
  | take {x : Site L κ} {u : Task} {e : Executor L κ} {s : Shared κ} :
      x.executor.running = true → x.executor.begin x.shared = some (u, e, s) →
        Step x .took { x with executor := e, shared := s }
  /-- Among the posts are those of the hook, in their order; others come from other threads. -/
  | call {x : Site L κ} {c : Call κ} {e : Executor L κ} {s : Shared κ} {posts all : List (Nat × κ)} :
      (∀ callback, c ≠ .fire callback) →
      (outcome (Work.hook c.hook) (x.executor, x.shared)).2 = (e, s) →
      s.deferred = x.shared.deferred ++ posts → posts.Sublist all →
        Step x (.called c all)
          { x with executor := e, shared := { s with deferred := x.shared.deferred ++ all } }
  | tick {x : Site L κ} {e : Executor L κ} {s : Shared κ} :
      Work.tickTimers (x.executor, x.shared) = .ok () (e, s) →
        Step x (.ticked x.deferrals.arm.invoked s.deferred)
          { executor := e, shared := s, own := (x.deferrals.arm.stepTo e.timers).own }
  | fault {x : Site L κ} {f : Fault} {e : Executor L κ} {s : Shared κ} :
      Work.tickTimers (x.executor, x.shared) = .error f (e, s) →
        Step x .faulted { x with executor := e, shared := s }
  | use {x : Site L κ} {d : Deferrals κ} :
      Deferrals.Step x.deferrals .used d →
        Step x .used { x with executor := { x.executor with timers := d.timers }, own := d.own }
  | conclude {x : Site L κ} (u : Task) (r : Except Fault Reply) :
      Step x .concluded
        { x with
          executor := (Executor.conclude u r x.executor x.shared).1
          shared := (Executor.conclude u r x.executor x.shared).2 }
  /-- The executor keeps its books or ends, a task works on the layers, or another thread enqueues tasks. -/
  | pass {x : Site L κ} {e : Executor L κ} {s : Shared κ} :
      e.timers = x.executor.timers → e.ticksProcessed = x.executor.ticksProcessed →
      s.deferred = x.shared.deferred → Step x .passed { x with executor := e, shared := s }

/-! ## Acts of the executor -/

/-- Whether the executor does this in the course of a task of the stack. -/
def Act.isWork : Act κ → Bool
  | called _ _ | ticked _ _ | passed | faulted => true
  | _ => false

/-- Whether the timers are ticked to the end. -/
def Act.isTicked : Act κ → Bool
  | ticked _ _ => true
  | _ => false

/-- How often the timers are ticked. -/
def ticks (t : List (Act κ)) : Nat := t.countP (·.isTicked)

theorem ticks_append (l t : List (Act κ)) : ticks (l ++ t) = ticks l + ticks t := List.countP_append

variable [Layers L κ] {e e' : Executor L κ} {s s' : Shared κ} {u : Unit}

/-- Each hook of a task is that of a call, if it does not matter what it answers. -/
theorem exists_call {h : Hook L κ α} (hc : Layers.Called h) : ∃ c : Call κ,
    (∀ callback, c ≠ .fire callback) ∧ ∀ z, (outcome (c.hook : Hook L κ Unit) z).2 = (outcome h z).2 := by
  cases hc with
  | macTick tti => exact ⟨.macTick tti, nofun, fun _ => rfl⟩
  | hasData lcid => exact ⟨.hasData lcid, nofun, outcome_discard _⟩
  | writeSdu lcid sdu blocking => exact ⟨.writeSdu lcid sdu blocking, nofun, fun _ => rfl⟩
  | attach cause => exact ⟨.attach cause, nofun, fun _ => rfl⟩
  | detach switchOff => exact ⟨.detach switchOff, nofun, outcome_discard _⟩
  | nasBatch => exact ⟨.nasBatch, nofun, fun _ => rfl⟩
  | rrcBatch => exact ⟨.rrcBatch, nofun, fun _ => rfl⟩
  | inSync => exact ⟨.inSync, nofun, fun _ => rfl⟩
  | outOfSync => exact ⟨.outOfSync, nofun, fun _ => rfl⟩
  | searchDone result cell => exact ⟨.searchDone result cell, nofun, fun _ => rfl⟩
  | selectDone selected => exact ⟨.selectDone selected, nofun, fun _ => rfl⟩
  | usimStop => exact ⟨.usimStop, nofun, fun _ => rfl⟩
  | macStop => exact ⟨.macStop, nofun, fun _ => rfl⟩
  | rlcStop => exact ⟨.rlcStop, nofun, fun _ => rfl⟩
  | pdcpStop => exact ⟨.pdcpStop, nofun, fun _ => rfl⟩
  | nasStop => exact ⟨.nasStop, nofun, fun _ => rfl⟩
  | rrcStop => exact ⟨.rrcStop, nofun, fun _ => rfl⟩

/-- A hook that takes no deferral back is a call that posts some. -/
theorem step_call {h : Hook L κ α} (hp : h.Posts) {c : Call κ} (hc : ∀ callback, c ≠ .fire callback)
    (hh : ∀ z, (outcome (c.hook : Hook L κ Unit) z).2 = (outcome h z).2) (y : Executor L κ × Shared κ) :
    ∃ posts, ∀ own, Step ⟨y.1, y.2, own⟩ (.called c posts)
      ⟨(outcome (Work.hook h) y).2.1, (outcome (Work.hook h) y).2.2, own⟩ := by
  obtain ⟨e, s⟩ := y
  obtain ⟨posts, hposts⟩ := hp (e.layers, s.toSurroundings)
  have hy := Work.outcome_hook_eq h e s
  have hd : (outcome (Work.hook h) (e, s)).2.2.deferred = s.deferred ++ posts := by
    rw [hy]
    exact hposts
  have hcall : (outcome (Work.hook c.hook) (e, s)).2 = (outcome (Work.hook h) (e, s)).2 := by
    rw [hy, Work.outcome_hook_eq, hh]
  refine ⟨posts, fun own => ?_⟩
  have hstep := Step.call (x := ⟨e, s, own⟩) hc hcall hd (.refl posts)
  rwa [← hd] at hstep

/-- The executor gets from one state to another by its work, and counts each tick of the timers. -/
def Reaches (y y' : Executor L κ × Shared κ) : Prop :=
  ∀ own, ∃ t own', Run Step ⟨y.1, y.2, own⟩ t ⟨y'.1, y'.2, own'⟩ ∧ (∀ a ∈ t, a.isWork = true) ∧
    y'.1.ticksProcessed = y.1.ticksProcessed + ticks t

theorem Reaches.of_step {y y' : Executor L κ × Shared κ} (h : ∀ own, ∃ a own',
    Step ⟨y.1, y.2, own⟩ a ⟨y'.1, y'.2, own'⟩ ∧ a.isWork = true ∧
      y'.1.ticksProcessed = y.1.ticksProcessed + ticks [a]) : Reaches y y' := by
  intro own
  obtain ⟨a, own', h, ha, hn⟩ := h own
  exact ⟨[a], own', run_singleton_iff.2 h, by simpa using ha, hn⟩

theorem composes_reaches : Composes (Reaches : Executor L κ × Shared κ → _ → Prop) where
  refl _ own := ⟨[], own, .nil, nofun, rfl⟩
  trans h h' := by
    intro own
    obtain ⟨t, own', ht, hw, hn⟩ := h own
    obtain ⟨t', own'', ht', hw', hn'⟩ := h' own'
    refine ⟨t ++ t', own'', ht.append ht', fun a ha => ?_, by rw [ticks_append]; omega⟩
    exact (List.mem_append.1 ha).elim (hw a) (hw' a)

theorem reaches_tickTimers : Moves Reaches (Work.tickTimers : Work L κ Unit) := by
  rintro ⟨e, s⟩
  cases h : (Work.tickTimers : Work L κ Unit) (e, s) with
  | ok u y =>
    rw [outcome, h]
    refine .of_step fun own => ⟨.ticked _ _, _, .tick h, rfl, Work.processed_tickTimers h⟩
  | error f y =>
    rw [outcome, h]
    exact .of_step fun own => ⟨.faulted, own, .fault h, rfl, Work.processed_tickTimers_of_error h⟩

theorem admits_reaches (hL : Layers.PostOnly L) :
    Work.Admits (Reaches : Executor L κ × Shared κ → _ → Prop) where
  toComposes := composes_reaches
  quiet h := .of_step fun own => ⟨.passed, own, .pass h.timers h.ticks h.deferred, rfl, h.ticks⟩
  hook h y := by
    obtain ⟨c, hc, hh⟩ := exists_call h
    obtain ⟨posts, hstep⟩ := step_call (hL.hook h) hc hh y
    exact .of_step fun own => ⟨.called c posts, own, hstep own, rfl, (Work.still_hook _ y).ticks⟩
  tick := reaches_tickTimers

/-! ## Turns -/

omit [Layers L κ] in
theorem ticks_conclude (t : Task) (r : Except Fault Reply) (e : Executor L κ) (s : Shared κ) :
    (Executor.conclude t r e s).1.ticksProcessed = e.ticksProcessed := by
  cases r <;> rfl

/-- In a turn the executor takes a task, does its work, and concludes it, whatever the task and however it
ends. -/
theorem run_turn (hL : Layers.PostOnly L) (h : e.turn s = some (e', s')) (own : List TimerId) :
    ∃ t own', Run Step ⟨e, s, own⟩ (.took :: t ++ [.concluded]) ⟨e', s', own'⟩ ∧
      (∀ a ∈ t, a.isWork = true) ∧ e'.ticksProcessed = e.ticksProcessed + ticks t := by
  obtain ⟨hr, u, e₁, s₁, hb, hrun⟩ := Executor.turn_eq_some_iff.1 h
  have hp := (admits_reaches hL).perform
    (fun _ => .of_step fun own => ⟨.passed, own, .pass rfl rfl rfl, rfl, rfl⟩) u.command (e₁, s₁)
  obtain ⟨t, own', ht, hw, hn⟩ := hp own
  unfold Executor.run at hrun
  generalize outcome (Work.perform u.command) (e₁, s₁) = z at ht hn hrun
  obtain ⟨r, e₂, s₂⟩ := z
  have hc := Step.conclude (x := ⟨e₂, s₂, own'⟩) u r
  have hnc := ticks_conclude u r e₂ s₂
  rw [show Executor.conclude u r e₂ s₂ = (e', s') from hrun] at hc hnc
  refine ⟨t, own', .cons (.take hr hb) (ht.snoc hc), hw, ?_⟩
  obtain ⟨d, -, he, -⟩ := Executor.begin_eq_some_iff.1 hb
  rw [hnc, hn, he]
  rfl

/-- So it does turn after turn. -/
theorem run_turns (hL : Layers.PostOnly L) (n : Nat) (e : Executor L κ) (s : Shared κ) (own : List TimerId) :
    ∃ t own', Run Step ⟨e, s, own⟩ t ⟨(e.turns n s).1, (e.turns n s).2, own'⟩ ∧
      (e.turns n s).1.ticksProcessed = e.ticksProcessed + ticks t := by
  induction n generalizing e s own with
  | zero => exact ⟨[], own, .nil, rfl⟩
  | succ n ih =>
    rw [Executor.turns]
    cases h : e.turn s with
    | none => exact ⟨[], own, .nil, rfl⟩
    | some z =>
      obtain ⟨t, own', ht, -, hn⟩ := run_turn hL h own
      obtain ⟨t', own'', ht', hn'⟩ := ih z.1 z.2 own'
      refine ⟨_, own'', ht.append ht', hn'.trans ?_⟩
      have hturn : ticks (.took :: t ++ [.concluded]) = ticks t := ticks_append t [.concluded]
      rw [ticks_append, hturn, hn, Nat.add_assoc]

/-! ## Reports -/

/-- The acts of some ticks, one after the other: medium access control is called, and the timers are
ticked. -/
inductive OfTicks : List UInt32 → List (Act κ) → Prop
  | nil : OfTicks [] []
  | cons {tti : UInt32} {ttis : List UInt32} {t : List (Act κ)} (posts : List (Nat × κ)) (invoked : List κ)
      (posts' : List (Nat × κ)) : OfTicks ttis t →
      OfTicks (tti :: ttis) (.called (.macTick tti) posts :: .ticked invoked posts' :: t)

theorem step_call_of_ok {h : Hook L κ α} (hp : h.Posts) {c : Call κ} (hc : ∀ callback, c ≠ .fire callback)
    (hh : ∀ z, (outcome (c.hook : Hook L κ Unit) z).2 = (outcome h z).2) {a : α}
    (hy : Work.hook h (e, s) = .ok a (e', s')) (own : List TimerId) :
    ∃ posts, Step ⟨e, s, own⟩ (.called c posts) ⟨e', s', own⟩ := by
  obtain ⟨posts, hstep⟩ := step_call hp hc hh (e, s)
  have := hstep own
  rw [outcome, hy] at this
  exact ⟨posts, this⟩

theorem run_subTicks (hL : Layers.PostOnly L) {ttis : List UInt32}
    (h : ttis.forM Work.subTick (e, s) = .ok u (e', s')) (own : List TimerId) :
    ∃ t own', OfTicks ttis t ∧ Run Step ⟨e, s, own⟩ t ⟨e', s', own'⟩ := by
  induction ttis generalizing e s own with
  | nil =>
    cases h
    exact ⟨[], own, .nil, .nil⟩
  | cons tti ttis ih =>
    obtain ⟨_, ⟨e₂, s₂⟩, hsub, hrest⟩ := bind_eq_ok_iff.1 h
    rw [Work.subTick_eq] at hsub
    obtain ⟨_, ⟨e₁, s₁⟩, hm, ht⟩ := bind_eq_ok_iff.1 hsub
    obtain ⟨posts, hcall⟩ :=
      step_call_of_ok (hL.hook (.macTick tti)) (c := .macTick tti) (by simp) (fun _ => rfl) hm own
    have htick := Step.tick (x := ⟨e₁, s₁, own⟩) ht
    obtain ⟨t, own', hof, hrun⟩ := ih hrest _
    exact ⟨_, own', .cons posts _ _ hof, .cons hcall (.cons htick hrun)⟩

theorem step_booked {y y' : Executor L κ × Shared κ} (h : Work.Booked y y') (own : List TimerId) :
    Step ⟨y.1, y.2, own⟩ .passed ⟨y'.1, y'.2, own⟩ :=
  .pass h.quiet.timers h.quiet.ticks h.quiet.deferred

/-- A report that comes to its end is made of its ticks and a call of each of the other two layers that hear
of it, with some bookkeeping before and after. -/
theorem run_report (hL : Layers.PostOnly L) {tti jump : UInt32}
    (h : Work.runTti tti jump (e, s) = .ok u (e', s')) (own : List TimerId) :
    ∃ t posts posts' own', OfTicks (Tti.subTicks tti jump) t ∧
      Run Step ⟨e, s, own⟩
        (.passed :: t ++ [.called .rrcBatch posts, .called .nasBatch posts', .passed]) ⟨e', s', own'⟩ := by
  have hbooked := Work.booked_runTti tti jump (e, s)
  have hbatch : ∃ z, Work.batch tti jump (e, s) = .ok () z := by
    rw [Work.runTti_eq] at h
    obtain ⟨_, z, hz, -⟩ := bind_eq_ok_iff.1 h
    exact ⟨z, hz⟩
  obtain ⟨⟨e₅, s₅⟩, hbatch⟩ := hbatch
  rw [outcome, outcome, hbatch, h] at hbooked
  obtain ⟨_, ⟨e₁, s₁⟩, hstart, hrest⟩ := bind_eq_ok_iff.1 hbatch
  obtain ⟨_, ⟨e₂, s₂⟩, htti, hrest⟩ := bind_eq_ok_iff.1 hrest
  obtain ⟨_, ⟨e₃, s₃⟩, hticks, hrest⟩ := bind_eq_ok_iff.1 hrest
  obtain ⟨_, ⟨e₄, s₄⟩, hrrc, hnas⟩ := bind_eq_ok_iff.1 hrest
  cases htti
  have hb := (Work.booked_startMeasuring.of_ok hstart).quiet
  obtain ⟨t, own', hof, hrun⟩ := run_subTicks hL hticks own
  obtain ⟨posts, hrrc⟩ := step_call_of_ok (hL.hook .rrcBatch) (c := .rrcBatch) (by simp) (fun _ => rfl) hrrc own'
  obtain ⟨posts', hnas⟩ := step_call_of_ok (hL.hook .nasBatch) (c := .nasBatch) (by simp) (fun _ => rfl) hnas own'
  have hfirst : Step ⟨e, s, own⟩ .passed ⟨{ e₁ with currentTti := some (tti % Tti.wrap) }, s₁, own⟩ :=
    .pass hb.timers hb.ticks hb.deferred
  refine ⟨t, posts, posts', own', hof, .cons hfirst (hrun.append ?_)⟩
  exact .cons hrrc (.cons hnas (run_singleton_iff.2 (step_booked hbooked own')))

end Site

end LteUe
