import LteUe.Proofs.Capture.Custody
import LteUe.Proofs.Lifetime.Safety

/-!
# The captures of a stack

In the life of a stack whose layers only write to captures, each sink is opened at most once, a sink that is open
takes packets until it is closed, and by the time a shutdown returns every sink that has been opened has been
closed, once (`Capturing.closed_once`). A start that does not come to its end, since a hook of the layers has
faulted or the executor has not been given a thread, is outside `Lifetime.Step`: what it has opened is never
asked to close.
-/

namespace LteUe

open Function

variable {L κ : Type}

namespace Capturing

open Lifetime (Event Alone Aside Ordered Tuned stages ups teardowns)

/-- What a step does with the sinks. Whoever has a capture may write to it at any time. -/
inductive Handles (x : Lifetime L κ) : Event → Vault → Vault → Prop
  | opens {v v' : Vault} {n : Nat} {e : Executor L κ} {radio : Radio} {sinks : Sinks} {todo : List Rung}
      {layer : CapturedLayer} (w : World) :
      x.holder = some (n, .raising e radio sinks (.capture layer :: todo)) →
        Vault.Written (update v layer (.ofStart (sinks.get layer) (x.shared.config.captures.enabled layer)
          (x.shared.config.captures.file layer) layer w)) v' →
            Handles x (.raised n (.capture layer)) v v'
  | closes {v v₁ v' : Vault} {u : Task} {r : Reply} (ws : CapturedLayer → World) :
      u.command = .teardown → v.Written v₁ → (v₁.close ws).Written v' → Handles x (.ran u (.ok r)) v v'
  | writes {v v' : Vault} {ev : Event} : (∀ n layer, ev ≠ .raised n (.capture layer)) →
      (∀ u r, ev = .ran u (.ok r) → u.command ≠ .teardown) → v.Written v' → Handles x ev v v'

/-- The steps in the life of a stack, with its sinks in custody. A start that ends in a fault, or whose executor
is not given a thread, has no step for that. -/
structure Step [Layers L κ] (p : Lifetime L κ × Vault) (ev : Event) (q : Lifetime L κ × Vault) : Prop where
  life : Lifetime.Step p.1 ev q.1
  handles : Handles p.1 ev p.2 q.2
  config : q.1.shared.config = p.1.shared.config
  mirrors : q.2.Mirrors q.1.shared.captures

/-- A new stack has not been given any sinks. -/
def start (c : StackConfig) : Lifetime L κ × Vault := (Lifetime.start c, fun _ => .untouched)

variable {c : StackConfig} {x y : Lifetime L κ} {v v' : Vault} {ev : Event} {t : List Event}
  {p q : Lifetime L κ × Vault} {layer : CapturedLayer} {n : Nat}

/-! ## When a sink is asked to open -/

/-- The call with the lock has not come to the rung of this capture. -/
def Awaits (layer : CapturedLayer) : Phase L κ → Prop
  | .raising _ _ _ todo => .capture layer ∈ todo
  | .starting .. | .started _ => False
  | _ => True

/-- No call has come to the rung of this capture. -/
def Due (layer : CapturedLayer) (t : List Event) (x : Lifetime L κ) : Prop :=
  ups t = 0 ∧ ∀ n ph, x.holder = some (n, ph) → Awaits layer ph

theorem due_of_snoc [Layers L κ] (hs : Lifetime.Step x ev y) (h : Due layer (t ++ [ev]) y) : Due layer t x := by
  obtain ⟨hu, hy⟩ := h
  rw [Lifetime.ups_snoc] at hu
  refine ⟨by omega, fun m ph hm => ?_⟩
  cases hs with
  | enterInit _ _ _ hh | refuseInit _ hh | enterShutdown hh =>
    rw [hh] at hm
    cases hm
  | raise hh =>
    cases hh.symm.trans hm
    exact List.mem_cons_of_mem _ (hy _ _ rfl)
  | start | spawn => exact (hy _ _ rfl).elim
  | @returnInit n ph' r hh hr =>
    cases hh.symm.trans hm
    cases ph with
    | started =>
      cases hr
      simp [Lifetime.Event.isUp] at hu
    | refused | denied => trivial
    | _ => cases hr
  | usimUp hh | usimFails hh | stop hh | queueTeardown hh | teardownRejected hh | join hh | close hh | halt hh
  | settle hh | returnShutdown hh =>
    cases hh.symm.trans hm
    trivial
  | post | work | begin | run => exact hy m ph hm

/-- A start that is on the rung of a capture has not been there before. -/
theorem due_of_raised [Layers L κ] (ho : Ordered t x) (hs : Lifetime.Step x (.raised n (.capture layer)) y) :
    Due layer t x := by
  have hm : ∀ s ∈ stages, s.point = .raising → s.ups = 0 := by decide
  cases hs with
  | raise hh =>
    refine ⟨hm _ ho.stage (Lifetime.point_eq hh), fun m ph hph => ?_⟩
    cases hh.symm.trans hph
    exact List.mem_cons_self

theorem not_due_of_raised [Layers L κ] (ht : x.Tuned) (hs : Lifetime.Step x (.raised n (.capture layer)) y) :
    ¬ Due layer (t ++ [.raised n (.capture layer)]) y := by
  rintro ⟨-, hy⟩
  cases hs with
  | raise hh =>
    obtain ⟨hn, -⟩ := ht.held hh
    exact (List.nodup_cons.1 hn).1 (hy _ _ rfl)

/-! ## What becomes of the sinks -/

/-- What writing and closing keep of a sink, and what is true of it when it has been asked to open, is true after
any step. -/
theorem Handles.keeps {P : Custody → Prop} (h : Handles x ev v v')
    (hw : ∀ k pdu w, P k → P (k.write pdu w)) (hc : ∀ k w, P k → P (k.close w)) (hv : P (v layer))
    (ho : ∀ n sink w, ev = .raised n (.capture layer) → P (.ofStart sink
      (x.shared.config.captures.enabled layer) (x.shared.config.captures.file layer) layer w)) :
    P (v' layer) := by
  cases h with
  | @opens _ _ n _ _ _ _ layer' w _ hwritten =>
    refine hwritten.keeps hw ?_
    by_cases hl : layer = layer'
    · subst hl
      rw [update_self]
      exact ho n _ w rfl
    · rwa [update_of_ne hl]
  | closes ws _ hbefore hafter => exact hafter.keeps hw (hc _ _ (hbefore.keeps hw hv))
  | writes _ _ hwritten => exact hwritten.keeps hw hv

/-- After the task that ends the executor, unless a hook has faulted, nothing is open. -/
theorem Handles.isClosed {u : Task} {r : Reply} (h : Handles x (.ran u (.ok r)) v v')
    (hu : u.command = .teardown) : (v' layer).IsClosed := by
  cases h with
  | closes ws _ _ hafter =>
    exact hafter.keeps (P := Custody.IsClosed) (fun _ _ _ hk => Custody.isClosed_write hk _ _)
      (Custody.isClosed_close _ _)
  | writes _ hne _ => exact absurd hu (hne u r rfl)

/-- What holds of the sinks after the events `t`. -/
structure Sound (c : StackConfig) (t : List Event) (p : Lifetime L κ × Vault) : Prop where
  config : p.1.shared.config = c
  mirrors : p.2.Mirrors p.1.shared.captures
  custody (layer : CapturedLayer) : (p.2 layer).Sound (c.captures.file layer)
  disabled {layer : CapturedLayer} : c.captures.enabled layer = false → p.2 layer = .untouched
  due {layer : CapturedLayer} : Due layer t p.1 → p.2 layer = .untouched
  closed {u : Task} {r : Reply} (layer : CapturedLayer) :
    .ran u (.ok r) ∈ t → u.command = .teardown → (p.2 layer).IsClosed

theorem sound_start (c : StackConfig) : Sound c [] (start c : Lifetime L κ × Vault) where
  config := rfl
  mirrors layer := by cases layer <;> rfl
  custody _ := .untouched
  disabled _ := rfl
  due _ := rfl
  closed _ h := by cases h

variable [Layers L κ]

/-- While the rungs are taken, the task that ends the executor has not been run. -/
theorem not_torn_down (ho : Ordered t x) (hs : Lifetime.Step x (.raised n (.capture layer)) y) {u : Task}
    {r : Except Fault Reply} (hu : .ran u r ∈ t) : u.command ≠ .teardown := by
  have hm : ∀ s ∈ stages, s.point = .raising → s.run = 0 := by decide
  intro hc
  cases hs with
  | raise hh =>
    have hrun : teardowns (Lifetime.run t) = 0 := hm _ ho.stage (Lifetime.point_eq hh)
    exact List.countP_eq_zero.1 hrun u (List.mem_filterMap.2 ⟨_, hu, rfl⟩) (by simp [hc])

theorem Sound.step (h : Sound c t p) (ho : Ordered t p.1) (ht : p.1.Tuned) (hs : Step p ev q) :
    Sound c (t ++ [ev]) q where
  config := hs.config.trans h.config
  mirrors := hs.mirrors
  custody layer := by
    refine hs.handles.keeps (fun _ pdu w hk => hk.write pdu w) (fun _ w hk => hk.close w) (h.custody layer) ?_
    rintro n sink w -
    rw [h.config]
    exact Custody.sound_ofStart ..
  disabled {layer} hl := by
    refine hs.handles.keeps (P := (· = .untouched)) ?_ ?_ (h.disabled hl) ?_
    · rintro _ _ _ rfl
      rfl
    · rintro _ _ rfl
      rfl
    · rintro n sink w -
      rw [h.config, hl]
      rfl
  due {layer} hdue := by
    refine hs.handles.keeps (P := (· = .untouched)) ?_ ?_ (h.due (due_of_snoc hs.life hdue)) ?_
    · rintro _ _ _ rfl
      rfl
    · rintro _ _ rfl
      rfl
    · rintro n sink w rfl
      exact absurd hdue (not_due_of_raised ht hs.life)
  closed {u r} layer hu hc := by
    obtain hu' | hu' := List.mem_append.1 hu
    · refine hs.handles.keeps (P := Custody.IsClosed) (fun _ _ _ hk => Custody.isClosed_write hk _ _)
        (fun _ _ _ => Custody.isClosed_close _ _) (h.closed layer hu' hc) ?_
      rintro n sink w rfl
      exact absurd hc (not_torn_down ho hs.life hu')
    · obtain rfl := List.mem_singleton.1 hu'
      exact hs.handles.isClosed hc

theorem life_of_run (h : Run Step p t q) : Run Lifetime.Step p.1 t q.1 :=
  h.mapState fun _ => Step.life

theorem sound (h : Run Step (start c) t q) : Sound c t q := by
  induction h with
  | nil => exact sound_start c
  | snoc h hs ih =>
    have hl := life_of_run h
    exact ih.step (Lifetime.ordered hl) (Lifetime.tuned hl) hs

/-! ## What a stack does -/

/-- On its rung a capture is started, and then its layer may write. -/
theorem written_of_capture (hL : Layers.WriteOnly L) {radio : Radio} {sinks : Sinks}
    {y z : Executor L κ × Shared κ} (h : (Rung.capture layer).work radio sinks y = .ok () z) :
    (y.2.captures.set layer (Captures.start (sinks.get layer) (y.2.config.captures.enabled layer)
      (y.2.config.captures.file layer) layer y.2.world).1).Written z.2.captures := by
  have hwork : Work.startCapture sinks (y.2.config.captures.enabled layer) (y.2.config.captures.file layer)
      layer y = .ok () z := by
    cases layer <;> exact h
  obtain ⟨started, y', h₁, h₂⟩ := bind_eq_ok_iff.1 hwork
  have hw : Moves (fun y y' => Writes (Work.scene y) (Work.scene y'))
      (if started then Work.hook (Layers.captureBegun layer) else pure () : Work L κ Unit) :=
    .ite (scenic_writes.hook (hL.raised (.captureBegun layer))) fun _ => .refl
  cases h₁
  exact hw.of_ok h₂

/-- The other rungs open no capture, and on them the layers may write. -/
theorem written_of_rung (hL : Layers.WriteOnly L) {radio : Radio} {sinks : Sinks} {r : Rung}
    (hr : ∀ layer, r ≠ .capture layer) {y z : Executor L κ × Shared κ}
    (h : r.work radio sinks y = .ok () z) : y.2.captures.Written z.2.captures := by
  have hw {i : Hook L κ Unit} (hi : Layers.Raised i) (h : Work.hook i y = .ok () z) :
      y.2.captures.Written z.2.captures := (scenic_writes.hook (hL.raised hi)).of_ok h
  cases r with
  | mac => exact hw .macInit h
  | rlc => exact hw .rlcInit h
  | pdcp => exact hw .pdcpInit h
  | nas => exact hw .nasInit h
  | rrc => exact hw .rrcInit h
  | radio =>
    obtain ⟨_, _, ha⟩ := Stack.shared_attachRadio radio y.2
    rw [Rung.work_radio h, ha]
    exact .refl
  | capture layer => exact absurd rfl (hr layer)

theorem config_of_rung {radio : Radio} {sinks : Sinks} {r : Rung} {y z : Executor L κ × Shared κ}
    (h : r.work radio sinks y = .ok () z) : z.2.config = y.2.config := by
  by_cases hr : r = .radio
  · subst hr
    obtain ⟨_, _, ha⟩ := Stack.shared_attachRadio radio y.2
    rw [Rung.work_radio h, ha]
  · exact ((Rung.steady_work hr).of_ok h).config

theorem exists_step_of_written (hlife : Lifetime.Step x ev y) (hm : v.Mirrors x.shared.captures)
    (hc : y.shared.config = x.shared.config) (hw : x.shared.captures.Written y.shared.captures)
    (hr : ∀ n layer, ev ≠ .raised n (.capture layer))
    (hu : ∀ u r, ev = .ran u (.ok r) → u.command ≠ .teardown) : ∃ v', Step (x, v) ev (y, v') := by
  obtain ⟨v', hv, hm⟩ := hm.written hw
  exact ⟨v', hlife, .writes hr hu hv, hc, hm⟩

/-- A task that is run writes, and the one that ends the executor closes as well. -/
theorem exists_step_ran (hL : Layers.WriteOnly L) (hm : v.Mirrors x.shared.captures) {e : Executor L κ} {u : Task}
    {r : Except Fault Reply} (hlife : Lifetime.Step x (.ran u r) y)
    (hr : (outcome (Work.perform u.command) (e, x.shared)).1 = r) (hy : y.shared = (e.run u x.shared).2) :
    ∃ v', Step (x, v) (.ran u r) (y, v') := by
  have hc : y.shared.config = x.shared.config := by rw [hy, Executor.config_run]
  have hcaptures : y.shared.captures = (outcome (Work.perform u.command) (e, x.shared)).2.2.captures := by
    rw [hy, Executor.captures_run]
  by_cases hu : u.command = .teardown
  · rw [hu] at hr hcaptures
    obtain ⟨f, hf, hw⟩ | ⟨z, a, hw, ha, hz⟩ := Work.teardown_cases hL (e, x.shared)
    · have hw : x.shared.captures.Written y.shared.captures := hcaptures ▸ hw
      refine exists_step_of_written hlife hm hc hw nofun fun u' a h => ?_
      rw [hf] at hr
      cases hr
      cases h
    · obtain rfl : r = .ok a := hr.symm.trans ha
      obtain ⟨v₁, hv₁, hm₁⟩ := hm.written hw
      obtain ⟨ws, hm₂⟩ := hm₁.close z.2.world
      exact ⟨_, hlife, .closes ws hu hv₁ .refl, hc, (hcaptures.trans hz) ▸ hm₂⟩
  · have hw := Work.writes_perform (y := (e, x.shared)) hL hu
    refine exists_step_of_written hlife hm hc (hcaptures ▸ hw) nofun fun u' a h => ?_
    cases h
    exact hu

theorem exists_step_raised (hL : Layers.WriteOnly L) (hm : v.Mirrors x.shared.captures) {e e' : Executor L κ}
    {radio : Radio} {sinks : Sinks} {r : Rung} {todo : List Rung} {s : Shared κ}
    (hh : x.holder = some (n, .raising e radio sinks (r :: todo)))
    (hw : r.work radio sinks (e, x.shared) = .ok () (e', s)) : ∃ v', Step (x, v) (.raised n r)
      ({ x with shared := s, holder := some (n, .raising e' radio sinks todo) }, v') := by
  have hlife := Lifetime.Step.raise hh hw
  have hc : s.config = x.shared.config := config_of_rung hw
  by_cases hr : ∃ layer, r = .capture layer
  · obtain ⟨layer, rfl⟩ := hr
    have hstart := hm.set layer (Custody.capture?_ofStart (sinks.get layer)
      (x.shared.config.captures.enabled layer) (x.shared.config.captures.file layer) layer x.shared.world)
    obtain ⟨v', hv, hm'⟩ := hstart.written (written_of_capture hL hw)
    exact ⟨v', hlife, .opens x.shared.world hh hv, hc, hm'⟩
  · have hr : ∀ layer, r ≠ .capture layer := fun layer h => hr ⟨layer, h⟩
    have hwritten : x.shared.captures.Written s.captures := written_of_rung hL hr hw
    refine exists_step_of_written hlife hm hc hwritten (fun n layer h => ?_) (fun u r h => ?_)
    · cases h
      exact hr layer rfl
    · cases h

theorem exists_step (hL : Layers.WriteOnly L) (hm : v.Mirrors x.shared.captures) (h : Alone x ev y) :
    ∃ v', Step (x, v) ev (y, v') := by
  obtain ⟨hlife, hran, hworked⟩ := h
  have hstep := hlife
  have hkeep (hr : ∀ n layer, ev ≠ .raised n (.capture layer)) (hu : ∀ u r, ev ≠ .ran u r)
      (hs : y.shared.captures = x.shared.captures ∧ y.shared.config = x.shared.config) :
      ∃ v', Step (x, v) ev (y, v') := by
    refine exists_step_of_written hstep hm hs.2 ?_ hr fun u r h => absurd h (hu u _)
    rw [hs.1]
    exact .refl
  cases hlife with
  | usimUp _ hw | usimFails _ hw =>
    have hu := (scenic_writes.hook hL.usim).of_ok hw
    exact exists_step_of_written hstep hm ((Work.steady_hook _).of_ok hw).config hu (by simp) (by simp)
  | raise hh hw => exact exists_step_raised hL hm hh hw
  | run =>
    obtain ⟨f, -, hr, hy⟩ := hran rfl
    exact exists_step_ran hL hm hstep hr hy
  | work | start | spawn | stop | teardownRejected | join | close | halt | settle =>
    exact hkeep (by simp) (by simp) (hworked rfl)
  | begin _ _ _ hb =>
    obtain ⟨d, rfl⟩ := Executor.shared_begin hb
    exact hkeep (by simp) (by simp) ⟨rfl, rfl⟩
  | enterInit | refuseInit | returnInit | enterShutdown | queueTeardown | returnShutdown | post =>
    exact hkeep (by simp) (by simp) ⟨rfl, rfl⟩

theorem exists_run (hL : Layers.WriteOnly L) (hm : v.Mirrors x.shared.captures) (h : Run Alone x t y) :
    ∃ v', Run Step (x, v) t (y, v') ∧ v'.Mirrors y.shared.captures := by
  induction h with
  | nil => exact ⟨v, .nil, hm⟩
  | snoc _ hs ih =>
    obtain ⟨v₁, hr, hm₁⟩ := ih
    obtain ⟨v', hs⟩ := exists_step hL hm₁ hs
    exact ⟨v', hr.snoc hs, hs.mirrors⟩

/-- The operations of a stack with layers `L` are made of the steps of `Step`, and its sinks are in custody
meanwhile. -/
structure Operates (L : Type) {κ : Type} [Layers L κ] : Prop where
  /-- A start, whatever it answers. -/
  init {x : Lifetime L κ} {v : Vault} {layers : L} {radio : Radio} {sinks : Sinks} {r : Except InitError Unit}
    {s : Stack L κ} :
    x.holder = none → v.Mirrors x.shared.captures → Stack.init layers radio sinks x.toStack = .ok r s →
      ∃ l v', .initReturned x.calls r ∈ l ∧
        Run Step (x, v) l ({ x with toStack := s, calls := x.calls + 1 }, v')
  /-- A turn of the executor. -/
  turn {x : Lifetime L κ} {v : Vault} {e e' : Executor L κ} {s : Shared κ} :
    x.task = none → x.executor = some e → v.Mirrors x.shared.captures → e.turn x.shared = some (e', s) →
      ∃ u e₁ s₁ v', e.begin x.shared = some (u, e₁, s₁) ∧
        Run Step (x, v) [.began u, .ran u (outcome (Work.perform u.command) (e₁, s₁)).1]
          ({ x with shared := s, executor := some e' }, v')
  /-- A shutdown, unless the queue of lifecycle tasks is full and stays so. -/
  shutdown {t : List Event} {x : Lifetime L κ} {v : Vault} : Ordered t x → x.holder = none → x.task = none →
    (x.state = .running → x.toStack.beginShutdown.queueTeardown ≠ none ∨
      x.toStack.beginShutdown.runWaiting.queueTeardown ≠ none) →
        v.Mirrors x.shared.captures → ∃ l v', .shutdownReturned x.calls ∈ l ∧
          Run Step (x, v) l ({ x with toStack := x.toStack.shutdown, calls := x.calls + 1 }, v')

theorem operates (hL : Layers.WriteOnly L) : Operates L where
  init hh hm h := by
    obtain ⟨l, -, hr, hl⟩ := Lifetime.alone_init hh h
    obtain ⟨v', hl, -⟩ := exists_run hL hm hl
    exact ⟨l, v', hr, hl⟩
  turn ht he hm h := by
    obtain ⟨u, e₁, s₁, hb, hl⟩ := Lifetime.alone_turn ht he h
    obtain ⟨v', hl, -⟩ := exists_run hL hm hl
    exact ⟨u, e₁, s₁, v', hb, hl⟩
  shutdown ho hh ht hq hm := by
    obtain ⟨l, hr, hl⟩ := Lifetime.alone_shutdown ho hh ht hq
    obtain ⟨v', hl, -⟩ := exists_run hL hm hl
    exact ⟨l, v', hr, hl⟩

/-! ## The end of a stack -/

omit [Layers L κ] in
/-- Once a stack has been stopped, no call is about to open a capture; if it has not been started, none has
been. -/
theorem due_of_stopped (ho : Ordered t x) (hs : x.state = .stopped) (hu : ups t = 0) (layer : CapturedLayer) :
    Due layer t x := by
  have hm : ∀ s ∈ stages, s.state = .stopped →
      s.point ≠ .raising ∧ s.point ≠ .starting ∧ s.point ≠ .started := by decide
  obtain ⟨h₁, h₂, h₃⟩ := hm _ ho.stage hs
  refine ⟨hu, fun n ph hh => ?_⟩
  have hp : (Lifetime.stage t x).point = ph.point := Lifetime.point_eq hh
  rw [hp] at h₁ h₂ h₃
  cases ph with
  | raising => exact absurd rfl h₁
  | starting => exact absurd rfl h₂
  | started => exact absurd rfl h₃
  | _ => trivial

omit [Layers L κ] in
theorem exists_ran_teardown (ho : Ordered t x) (hs : x.state = .stopped) (hu : 0 < ups t) :
    ∃ u r, .ran u r ∈ t ∧ u.command = .teardown := by
  have hm : ∀ s ∈ stages, s.state = .stopped → 0 < s.ups → 0 < s.run := by decide
  have hr : 0 < teardowns (Lifetime.run t) := hm _ ho.stage hs hu
  obtain ⟨u, hu, hc⟩ := List.countP_pos_iff.1 hr
  obtain ⟨e, he, hr⟩ := List.mem_filterMap.1 hu
  cases e with
  | ran u' r =>
    cases hr
    exact ⟨u, r, he, of_decide_eq_true hc⟩
  | _ => cases hr

theorem isClosed_of_stopped (h : Run Step (start c) t p) (hs : p.1.state = .stopped)
    (hf : ∀ u f, .ran u (.error f) ∈ t → u.command ≠ .teardown) (layer : CapturedLayer) :
    (p.2 layer).IsClosed := by
  have ho := Lifetime.ordered (life_of_run h)
  rcases Nat.eq_zero_or_pos (ups t) with hu | hu
  · rw [(sound h).due (due_of_stopped ho hs hu layer)]
    exact nofun
  · obtain ⟨u, r, hr, hc⟩ := exists_ran_teardown ho hs hu
    cases r with
    | ok r => exact (sound h).closed layer hr hc
    | error f => exact absurd hc (hf u f hr)

/-- What becomes of the sinks of a stack with configuration `c` in the events `t`, among which there is no start
that ends in a fault or without a thread for the executor. -/
structure ClosedOnce (c : StackConfig) (t : List Event) (x : Lifetime L κ) (v : Vault) : Prop where
  /-- The captures of the stack are those of the sinks that have been opened. -/
  mirrors : v.Mirrors x.shared.captures
  /-- If a capture is not enabled, its sink is not asked for anything. -/
  disabled {layer : CapturedLayer} : c.captures.enabled layer = false → v layer = .untouched
  /-- A sink that is asked to open has not been asked for anything before. -/
  once {n : Nat} {layer : CapturedLayer} {q : Lifetime L κ × Vault} :
    Step (x, v) (.raised n (.capture layer)) q → v layer = .untouched
  /-- One that refuses to open is not asked for anything else, -/
  refused {layer : CapturedLayer} {s : Watched Sink} : v layer = .refused s →
    s.asked = [.start (c.captures.file layer) false]
  /-- and one that has been opened is asked as captures ask. -/
  opened {layer : CapturedLayer} {d : Capture (Watched Sink)} : v layer = .opened d →
    ∃ b l, b.isOpen = true ∧ b.sink.asked = [.start (c.captures.file layer) true] ∧ Run Capture.Step b l d
  /-- Once a shutdown has returned, unless a hook that stops a layer has faulted, each sink that has been opened
  has been closed, once, after all else. -/
  closed {m : Nat} {layer : CapturedLayer} {d : Capture (Watched Sink)} : .shutdownReturned m ∈ t →
    (∀ u f, .ran u (.error f) ∈ t → u.command ≠ .teardown) → v layer = .opened d →
      d.isOpen = false ∧ d.sink.asked.count .close = 1 ∧ d.sink.asked.getLast? = some .close

theorem closedOnce (h : Run Step (start c) t (x, v)) : ClosedOnce c t x v := by
  have hv := sound h
  have hopened {layer : CapturedLayer} {d : Capture (Watched Sink)} (hd : v layer = .opened d) :
      ∃ b l, b.isOpen = true ∧ b.sink.asked = [.start (c.captures.file layer) true] ∧
        Run Capture.Step b l d := by
    have hs : (v layer).Sound _ := hv.custody layer
    rw [hd] at hs
    cases hs with
    | opened ho hb hr => exact ⟨_, _, ho, hb, hr⟩
  refine {
    mirrors := hv.mirrors
    disabled := hv.disabled
    once := fun hs => hv.due (due_of_raised (Lifetime.ordered (life_of_run h)) hs.life)
    refused := fun {layer s} hd => ?_
    opened := hopened
    closed := fun {m layer d} hn hf hd => ?_ }
  · have hs : (v layer).Sound _ := hv.custody layer
    rw [hd] at hs
    cases hs with
    | refused ha => exact ha
  · have hs := Lifetime.state_of_shutdownReturned (life_of_run h) hn
    have hc := isClosed_of_stopped h hs hf layer d hd
    obtain ⟨b, l, ho, hb, hr⟩ := hopened hd
    exact ⟨hc, (Capture.obeys hr ho).closed hc (by simp [hb])⟩

/-- Every capture keeps to its protocol, whatever its sink does and in whichever order it is written and closed.
In the life of a stack whose layers only write to captures, each sink is opened at most once, and those that have
been opened have been closed, once, when a shutdown returns. Nothing is said of the sinks of a start that ends in
a fault, or whose executor is not given a thread. -/
theorem closed_once (hL : Layers.WriteOnly L) (h : Run Step (start c) t (x, v)) :
    Capture.Protocol ∧ ClosedOnce c t x v ∧ Operates L := ⟨Capture.protocol, closedOnce h, operates hL⟩

/-- A stack with two captures, of which one cannot be opened, is started and shut down. -/
theorem closed_once_beside_refusal :
    let c : StackConfig := { captures := { macEnabled := true, nasEnabled := true } }
    let radio : Radio := { found := ⟨1, 100⟩, selectable := ⟨1, 100⟩ }
    let halt : Task := { command := .teardown }
    let t : List Event :=
      [.initEntered 0 radio .uninitialized, .usim 0 (.ok ()), .raised 0 .mac, .raised 0 .rlc, .raised 0 .pdcp,
        .raised 0 .nas, .raised 0 .rrc, .raised 0 .radio, .raised 0 (.capture .mac), .raised 0 (.capture .nas),
        .worked, .worked, .initReturned 0 (.ok ()), .shutdownEntered 1, .worked, .posted halt, .began halt,
        .ran halt (.ok .done), .worked, .worked, .worked, .worked, .worked, .shutdownReturned 1]
    ∃ (x : Lifetime ObservedLayers Callback) (v : Vault) (d : Capture (Watched Sink)),
      Run Step (start c) t (x, v) ∧ ClosedOnce c t x v ∧ v .mac = .opened d ∧ d.isOpen = false ∧
        d.sink.asked.count .close = 1 := by
  intro c radio halt t
  let sinks : Sinks :=
    { mac := some (.observed { name := "mac" }), nas := some (.observed { name := "nas", openFails := true }) }
  obtain ⟨x, hx, hd⟩ : ∃ x : Lifetime ObservedLayers Callback,
      Run Alone (Lifetime.start c) t x ∧ (x.shared.captures.get .mac).isSome = true := by
    have hstart : Run Alone (Lifetime.start c) (Lifetime.starting 0 radio) _ :=
      (Lifetime.run_starting ObservedLayers.jobless { plan := {} } sinks rfl rfl).mono fun _ => Aside.toAlone
    refine exists_run_append_and hstart ?_
    refine exists_run_cons_and ⟨.enterShutdown rfl, nofun, nofun⟩ <|
      exists_run_cons_and ⟨.stop rfl, nofun, fun _ => ⟨rfl, rfl⟩⟩ <|
      exists_run_cons_and ⟨.queueTeardown rfl rfl, nofun, nofun⟩ <|
      exists_run_cons_and ⟨.begin rfl rfl rfl rfl, nofun, nofun⟩ ?_
    refine exists_run_cons_and (Lifetime.alone_run rfl rfl rfl) ?_
    refine exists_run_cons_and ⟨.join rfl rfl fun _ h => .inl (Option.some.inj h ▸ rfl), nofun,
      fun _ => ⟨rfl, rfl⟩⟩ ⟨_, Lifetime.alone_finish rfl, ?_⟩
    rfl
  obtain ⟨v, h, hm⟩ := exists_run ObservedLayers.writeOnly (v := fun _ => .untouched)
    (sound_start (L := ObservedLayers) (κ := Callback) c).mirrors hx
  obtain ⟨-, hv, -⟩ := closed_once ObservedLayers.writeOnly h
  rw [hm .mac] at hd
  cases hc : v .mac with
  | opened d =>
    obtain ⟨hopen, hcount, -⟩ := hv.closed (m := 1) (by simp [t]) (by simp [t]) hc
    exact ⟨x, v, d, h, hv, hc, hopen, hcount⟩
  | _ =>
    rw [hc] at hd
    cases hd

end Capturing

end LteUe
