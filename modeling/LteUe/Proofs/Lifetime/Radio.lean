import LteUe.Proofs.Lifetime.Stories

/-!
# The radio of a stack

A stack has no radio until a start takes the rung that attaches its own (`Lifetime.tuned`), and keeps that
radio from then on (`Lifetime.radio_of_up`). So a start that fails leaves room for the radio of the next.
-/

namespace LteUe

variable {L κ : Type}

/-- Which radio the stack has in this state when the call with the lock is there. -/
def Phase.Tuned : Phase L κ → LifecycleState → Option Radio → Prop
  | raising _ radio _ todo, _, r => todo.Nodup ∧ r = if .radio ∈ todo then none else some radio
  | starting _ radio, _, r | started radio, _, r => r = some radio
  | _, s, r => s = .uninitialized → r = none

namespace Lifetime

variable {x y : Lifetime L κ} {e : Event} {t : List Event} {n : Nat} {ph : Phase L κ}

/-- The stack has the radio that it should have. -/
def Tuned (x : Lifetime L κ) : Prop :=
  match x.holder with
  | some (_, ph) => ph.Tuned x.state x.shared.radio
  | none => x.state = .uninitialized → x.shared.radio = none

theorem tuned_start (c : StackConfig) : (start c : Lifetime L κ).Tuned := fun _ => rfl

theorem Tuned.free (h : x.Tuned) (hh : x.holder = none) :
    x.state = .uninitialized → x.shared.radio = none := by
  unfold Tuned at h
  rwa [hh] at h

theorem Tuned.held (h : x.Tuned) (hh : x.holder = some (n, ph)) : ph.Tuned x.state x.shared.radio := by
  unfold Tuned at h
  rwa [hh] at h

theorem Tuned.of_same (h : x.Tuned) (hh : y.holder = x.holder) (hs : y.state = x.state)
    (hr : y.shared.radio = x.shared.radio) : y.Tuned := by
  unfold Tuned
  rwa [hh, hs, hr]

variable [Layers L κ]

theorem Tuned.step (h : x.Tuned) (ho : Ordered t x) (hxy : Step x e y) : y.Tuned := by
  have hu : ∀ s ∈ stages, s.point = .probing ∨ s.point = .raising → s.state = .uninitialized := by decide
  cases hxy with
  | enterInit _ _ _ hh | refuseInit _ hh => exact h.free hh
  | usimUp hh hw =>
    have hr := (h.held hh) (hu _ ho.stage (.inl (point_eq hh)))
    refine ⟨by decide, ?_⟩
    rw [if_pos (by decide)]
    exact ((Work.steady_hook _).of_ok hw).radio.trans hr
  | usimFails hh hw =>
    have hs := (Work.steady_hook _).of_ok hw
    intro hst
    exact hs.radio.trans (h.held hh (hs.state.symm.trans hst))
  | @raise n e e' radio sinks r todo s hh hw =>
    obtain ⟨hn, hr⟩ := h.held hh
    obtain ⟨hm, hn⟩ := List.nodup_cons.1 hn
    refine ⟨hn, ?_⟩
    show s.radio = _
    -- each rung comes once: the radio is attached in its own, and in no other
    by_cases hrr : r = .radio
    · subst hrr
      have hr : x.shared.radio = none := by rw [hr, if_pos List.mem_cons_self]
      have hs : s = Stack.attachRadio radio x.shared := congrArg Prod.snd (Rung.work_radio hw)
      rw [if_neg hm, hs, Stack.attachRadio, hr]
    · have hs := (Rung.steady_work hrr).of_ok hw
      have hi : Rung.radio ∈ r :: todo ↔ Rung.radio ∈ todo := by simp [Ne.symm hrr]
      rw [show s.radio = x.shared.radio from hs.radio, hr]
      simp only [hi]
  | start hh => exact (h.held hh).2
  | spawn hh => exact h.held hh
  | @returnInit n ph r hh hr =>
    cases ph with
    | refused found => exact h.held hh
    | denied causes => exact h.held hh
    | started radio =>
      have hm : ∀ s ∈ stages, s.point = .started → s.state ≠ .uninitialized := by decide
      exact fun hs => absurd hs (hm _ ho.stage (point_eq hh))
    | _ => cases hr
  | enterShutdown hh =>
    have hf : ∀ s, (Phase.ofFound s : Phase L κ).Tuned x.state x.shared.radio := fun s => by
      cases s <;> exact h.free hh
    exact hf _
  | stop => exact nofun
  | queueTeardown hh | teardownRejected hh | join hh => exact h.held hh
  | close hh =>
    intro hs
    have hs' := x.shared.refilled_closeDispatcher.state
    exact x.shared.radio_closeDispatcher.trans (h.held hh (hs'.symm.trans hs))
  | halt hh => exact h.held hh
  | settle => exact nofun
  | returnShutdown hh => exact h.held hh
  | post => exact h
  | work hk | run _ _ hk => exact h.of_same rfl hk.state hk.radio
  | begin _ _ _ hb =>
    obtain ⟨d, -, hs, -⟩ := Executor.begin_spec hb
    exact h.of_same rfl hs.state (Executor.radio_begin hb)

theorem tuned {c : StackConfig} (h : Run Step (start c) t x) : x.Tuned := by
  induction h with
  | nil => exact tuned_start c
  | snoc h hs ih => exact ih.step (ordered h) hs

theorem Step.radio_eq (hxy : Step x e y) (ho : Ordered t x) (hu : 0 < ups t) :
    y.shared.radio = x.shared.radio := by
  have hm : ∀ s ∈ stages, s.point = .raising → s.ups = 0 := by decide
  cases hxy with
  | raise hh => exact absurd (hm _ ho.stage (point_eq hh)) (Nat.pos_iff_ne_zero.1 hu)
  | usimUp _ hw | usimFails _ hw => exact ((Work.steady_hook _).of_ok hw).radio
  | close => exact x.shared.radio_closeDispatcher
  | work hk | run _ _ hk => exact hk.radio
  | begin _ _ _ hb => exact Executor.radio_begin hb
  | _ => rfl

theorem ups_pos (h : .initReturned n (.ok ()) ∈ t) : 0 < ups t :=
  List.countP_pos_iff.2 ⟨_, h, rfl⟩

theorem Step.entered_eq {radio : Radio} {found : LifecycleState}
    (hxy : Step x (.initEntered n radio found) y) : n = x.calls ∧ found = x.state := by
  cases hxy <;> exact ⟨rfl, rfl⟩

theorem Step.radio_of_returned (hxy : Step x (.initReturned n (.ok ())) y) (ht : Told t x) (hx : x.Tuned)
    {radio : Radio} (hr : .initEntered n radio .uninitialized ∈ t) : y.shared.radio = some radio := by
  have hm : .initEntered n radio .uninitialized ∈ own n t := mem_own_iff.2 ⟨hr, rfl⟩
  cases hxy with
  | @returnInit n ph r hh hres =>
    cases ph with
    | started radio' =>
      have hs : Story n radio' (.ok ()) (own n t) := (ht.held n _ hh).2
      generalize own n t = l at hm hs
      cases hs
      obtain rfl : radio = radio' := by simpa using hm
      exact hx.held hh
    | _ => cases hres

/-- A stack that a start has brought up has the radio of that start. -/
theorem radio_of_up {c : StackConfig} (h : Run Step (start c) t x) (hn : .initReturned n (.ok ()) ∈ t)
    {radio : Radio} (hr : .initEntered n radio .uninitialized ∈ t) : x.shared.radio = some radio := by
  induction h with
  | nil => cases hn
  | @snoc t x y e hx hs ih =>
    rcases List.mem_append.1 hn with hn' | hn'
    · refine (hs.radio_eq (ordered hx) (ups_pos hn')).trans (ih hn' ?_)
      refine (List.mem_append.1 hr).resolve_right fun he => ?_
      -- A call that enters has not returned.
      have hc := (List.mem_singleton.1 he ▸ hs).entered_eq.1
      have hm : .initReturned n (.ok ()) ∈ own n t := mem_own_iff.2 ⟨hn', rfl⟩
      rw [(told hx).fresh n (Nat.le_of_eq hc.symm)] at hm
      cases hm
    · obtain rfl := List.mem_singleton.1 hn'
      exact hs.radio_of_returned (told hx) (tuned hx) (by simpa using hr)

end Lifetime

end LteUe
