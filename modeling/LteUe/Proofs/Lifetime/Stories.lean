import LteUe.Proofs.Lifetime.Stages

/-!
# What each call does

Whatever goes on around it, a start does one of three things from its entry to its return
(`Lifetime.Story`): it finds that the stack is not a new one, or its subscriber module does not come up, or
it takes all rungs and succeeds. In the last case the stack has its radio from then on
(`Lifetime.radio_of_up`).
-/

namespace LteUe

variable {L κ : Type}

namespace Lifetime

/-- What start `n` with this radio has done when it is to answer `r`. -/
inductive Story (n : Nat) (radio : Radio) : Except InitError Unit → List Event → Prop
  /-- It has found the stack in a state other than that of a new one. -/
  | refused {found : LifecycleState} : found ≠ .uninitialized →
      Story n radio (.error (.invalidState found)) [.initEntered n radio found]
  /-- The subscriber module has not come up. -/
  | denied (causes : Causes) :
      Story n radio (.error (.usim causes))
        [.initEntered n radio .uninitialized, .usim n (.error causes)]
  /-- The stack has been brought up. -/
  | up : Story n radio (.ok ())
      (.initEntered n radio .uninitialized :: .usim n (.ok ()) :: Rung.all.map (.raised n))

end Lifetime

open Lifetime (Event Story)

/-- What call `n` has done when it is there. -/
def Phase.Fits (n : Nat) : Phase L κ → List Event → Prop
  | refused found, l => ∃ radio, Story n radio (.error (.invalidState found)) l
  | probing _ radio _, l => l = [.initEntered n radio .uninitialized]
  | denied causes, l => ∃ radio, Story n radio (.error (.usim causes)) l
  | raising _ radio _ todo, l => ∃ done, done ++ todo = Rung.all ∧
      l = .initEntered n radio .uninitialized :: .usim n (.ok ()) :: done.map (.raised n)
  | starting _ radio, l | started radio, l => Story n radio (.ok ()) l
  | leaving, l | stopping, l | joining, l | closing, l | halting, l | settling, l | ended, l =>
      l = [.shutdownEntered n]

theorem Phase.Fits.story {n : Nat} {ph : Phase L κ} {l : List Event} {r : Except InitError Unit}
    (h : ph.Fits n l) (hr : ph.result? = some r) : ∃ radio, Story n radio r l := by
  cases ph with
  | refused found | denied causes =>
    obtain rfl := Option.some.inj hr
    exact h
  | started radio =>
    obtain rfl := Option.some.inj hr
    exact ⟨radio, h⟩
  | _ => cases hr

/-- Having done all that there is to do to fail, a start is to return. -/
theorem Phase.Fits.result_of_error {n : Nat} {ph : Phase L κ} {l : List Event} {radio : Radio}
    {e : InitError} (h : ph.Fits n l) (hs : Story n radio (.error e) l) : ph.result? = some (.error e) := by
  cases hs with
  | refused hf =>
    cases ph with
    | refused found =>
      obtain ⟨_, h⟩ := h
      cases h
      rfl
    | denied causes =>
      obtain ⟨_, h⟩ := h
      cases h
    | probing =>
      cases h
      exact absurd rfl hf
    | raising =>
      obtain ⟨_, -, h⟩ := h
      cases h
    | _ => cases h
  | denied causes =>
    cases ph with
    | refused found =>
      obtain ⟨_, h⟩ := h
      cases h
    | denied causes =>
      obtain ⟨_, h⟩ := h
      cases h
      rfl
    | raising =>
      obtain ⟨_, -, h⟩ := h
      cases h
    | _ => cases h

theorem Phase.Fits.isPrefix {n : Nat} {ph : Phase L κ} {l : List Event} (h : ph.Fits n l) :
    (∃ radio r m, Story n radio r m ∧ l <+: m) ∨ l = [.shutdownEntered n] := by
  cases ph with
  | refused found =>
    obtain ⟨radio, h⟩ := h
    exact .inl ⟨radio, _, l, h, List.prefix_rfl⟩
  | denied causes =>
    obtain ⟨radio, h⟩ := h
    exact .inl ⟨radio, _, l, h, List.prefix_rfl⟩
  | probing e radio =>
    obtain rfl := show l = _ from h
    exact .inl ⟨radio, _, _, .up, List.prefix_append [_] _⟩
  | raising e radio sinks todo =>
    obtain ⟨done, hd, rfl⟩ := h
    refine .inl ⟨radio, _, _, .up, ?_⟩
    rw [← hd, List.map_append]
    exact List.prefix_append _ (todo.map (Event.raised n))
  | starting _ radio | started radio => exact .inl ⟨radio, _, l, h, List.prefix_rfl⟩
  | _ => exact .inr h

theorem Phase.fits_ofFound (n : Nat) (s : LifecycleState) :
    (Phase.ofFound s : Phase L κ).Fits n [.shutdownEntered n] := by
  cases s <;> rfl

namespace Lifetime

variable {x y : Lifetime L κ} {e : Event} {t : List Event} {n : Nat} {ph ph' : Phase L κ}

theorem own_snoc_of_ne (h : e.call? ≠ some n) : own n (t ++ [e]) = own n t := by
  simp [own, h]

theorem own_snoc_of_eq (h : e.call? = some n) : own n (t ++ [e]) = own n t ++ [e] := by
  simp [own, h]

theorem mem_own_iff : e ∈ own n t ↔ e ∈ t ∧ e.call? = some n := by
  simp [own]

/-- What the calls have done by the events `t`: those to come nothing, the one with the lock what fits where
it is, and the others all that there is to do. -/
structure Told (t : List Event) (x : Lifetime L κ) : Prop where
  fresh (n : Nat) : x.calls ≤ n → own n t = []
  held (n : Nat) (ph : Phase L κ) : x.holder = some (n, ph) → n < x.calls ∧ ph.Fits n (own n t)
  past (n : Nat) : n < x.calls → (∀ ph, x.holder ≠ some (n, ph)) →
    (∃ radio r l, Story n radio r l ∧ own n t = l ++ [.initReturned n r]) ∨
      own n t = [.shutdownEntered n, .shutdownReturned n]

theorem told_start (c : StackConfig) : Told [] (start c : Lifetime L κ) where
  fresh _ _ := rfl
  held _ _ h := by cases h
  past n h := absurd h (Nat.not_lt_zero n)

theorem Told.enter (h : Told t x) (hx : x.holder = none) (he : e.call? = some x.calls)
    (hc : y.calls = x.calls + 1) (hy : y.holder = some (x.calls, ph)) (hf : ph.Fits x.calls [e]) :
    Told (t ++ [e]) y where
  fresh n hn := by
    rw [own_snoc_of_ne (by rw [he]; simp; omega)]
    exact h.fresh n (by omega)
  held n ph' hh := by
    rw [hy] at hh
    cases hh
    rw [own_snoc_of_eq he, h.fresh _ (Nat.le_refl _)]
    exact ⟨by omega, hf⟩
  past n hn hh := by
    have hne : n ≠ x.calls := fun hn => hh ph (hn ▸ hy)
    rw [own_snoc_of_ne (by rw [he]; simpa using hne.symm)]
    exact h.past n (by omega) fun ph hn => by rw [hx] at hn; cases hn

theorem Told.go (h : Told t x) (hx : x.holder = some (n, ph)) (hc : y.calls = x.calls)
    (hy : y.holder = some (n, ph')) (he : e.call? = none ∨ e.call? = some n)
    (hf : ph.Fits n (own n t) → ph'.Fits n (own n (t ++ [e]))) : Told (t ++ [e]) y := by
  have hne : ∀ m, m ≠ n → own m (t ++ [e]) = own m t := fun m hm => own_snoc_of_ne (by
    rcases he with he | he
    · rw [he]
      nofun
    · rw [he]
      simpa using hm.symm)
  have hn := (h.held n ph hx).1
  refine ⟨fun m hm => ?_, fun m ph'' hh => ?_, fun m hm hh => ?_⟩
  · rw [hne m (by omega)]
    exact h.fresh m (by omega)
  · rw [hy] at hh
    cases hh
    exact ⟨by omega, hf (h.held n ph hx).2⟩
  · have hm' : m ≠ n := fun hm => hh ph' (hm ▸ hy)
    rw [hne m hm']
    refine h.past m (by omega) fun ph'' hm => hm' ?_
    rw [hx] at hm
    cases hm
    rfl

theorem Told.go_quietly (h : Told t x) (hx : x.holder = some (n, ph)) (hc : y.calls = x.calls)
    (hy : y.holder = some (n, ph')) (he : e.call? = none) (hf : ∀ l, ph.Fits n l → ph'.Fits n l) :
    Told (t ++ [e]) y := by
  refine h.go hx hc hy (.inl he) fun ho => ?_
  rw [own_snoc_of_ne (by rw [he]; nofun)]
  exact hf _ ho

theorem Told.leave (h : Told t x) (hx : x.holder = some (n, ph)) (hc : y.calls = x.calls)
    (hy : y.holder = none) (he : e.call? = some n)
    (hf : ph.Fits n (own n t) →
      (∃ radio r l, Story n radio r l ∧ own n t ++ [e] = l ++ [.initReturned n r]) ∨
        own n t ++ [e] = [.shutdownEntered n, .shutdownReturned n]) : Told (t ++ [e]) y := by
  have hn := (h.held n ph hx).1
  refine ⟨fun m hm => ?_, fun m ph' hh => ?_, fun m hm hh => ?_⟩
  · rw [own_snoc_of_ne (by rw [he]; simp; omega)]
    exact h.fresh m (by omega)
  · rw [hy] at hh
    cases hh
  · by_cases hm' : m = n
    · subst hm'
      rw [own_snoc_of_eq he]
      exact hf (h.held m ph hx).2
    · rw [own_snoc_of_ne (by rw [he]; simpa using Ne.symm hm')]
      refine h.past m (by omega) fun ph' hm => hm' ?_
      rw [hx] at hm
      cases hm
      rfl

theorem Told.beside (h : Told t x) (he : e.call? = none) (hc : y.calls = x.calls)
    (hy : y.holder = x.holder) : Told (t ++ [e]) y := by
  have ho : ∀ n, own n (t ++ [e]) = own n t := fun n => own_snoc_of_ne (by rw [he]; nofun)
  refine ⟨fun n hn => ?_, fun n ph hh => ?_, fun n hn hh => ?_⟩
  · rw [ho]
    exact h.fresh n (hc ▸ hn)
  · rw [ho, hc]
    exact h.held n ph (hy ▸ hh)
  · rw [ho]
    exact h.past n (hc ▸ hn) (hy ▸ hh)

/-! ## What is known of a call by one of its events -/

theorem Told.place (h : Told t x) (hm : e ∈ own n t) :
    (∃ ph, x.holder = some (n, ph) ∧ ph.Fits n (own n t)) ∨
      (∃ radio r l, Story n radio r l ∧ own n t = l ++ [.initReturned n r]) ∨
        own n t = [.shutdownEntered n, .shutdownReturned n] := by
  have hlt : n < x.calls := by
    by_contra hlt
    rw [h.fresh n (Nat.le_of_not_lt hlt)] at hm
    cases hm
  by_cases hh : ∃ ph, x.holder = some (n, ph)
  · obtain ⟨ph, hh⟩ := hh
    exact .inl ⟨ph, hh, (h.held n ph hh).2⟩
  · exact .inr (h.past n hlt fun ph hx => hh ⟨ph, hx⟩)

theorem Told.story (h : Told t x) (he : e ∈ t) (hn : e.call? = some n) (hs : e ≠ .shutdownEntered n)
    (hs' : e ≠ .shutdownReturned n) (hr : ∀ r, e ≠ .initReturned n r) :
    ∃ radio r l, Story n radio r l ∧ e ∈ l ∧
      ((∃ ph, x.holder = some (n, ph) ∧ ph.Fits n (own n t) ∧ own n t <+: l) ∨
        own n t = l ++ [.initReturned n r]) := by
  have hm : e ∈ own n t := mem_own_iff.2 ⟨he, hn⟩
  rcases h.place hm with ⟨ph, hh, hf⟩ | ⟨radio, r, l, hl, hp⟩ | hp
  · rcases hf.isPrefix with ⟨radio, r, l, hl, hp⟩ | hp
    · exact ⟨radio, r, l, hl, hp.subset hm, .inl ⟨ph, hh, hf, hp⟩⟩
    · simp [hp, hs] at hm
  · exact ⟨radio, r, l, hl, by simpa [hp, hr] using hm, .inr hp⟩
  · simp [hp, hs, hs'] at hm

theorem Told.returned (h : Told t x) {r : Except InitError Unit} (he : .initReturned n r ∈ t) :
    ∃ radio l, Story n radio r l ∧ own n t = l ++ [.initReturned n r] := by
  have hm : .initReturned n r ∈ own n t := mem_own_iff.2 ⟨he, rfl⟩
  have hn : ∀ {radio r' l}, Story n radio r' l → .initReturned n r ∉ l := by
    intro radio r' l hl
    cases hl <;> simp
  rcases h.place hm with ⟨ph, -, hf⟩ | ⟨radio, r', l, hl, hp⟩ | hp
  · rcases hf.isPrefix with ⟨radio, r', l, hl, hp⟩ | hp
    · exact absurd (hp.subset hm) (hn hl)
    · simp [hp] at hm
  · obtain rfl : r = r' := by simpa [hp, hn hl] using hm
    exact ⟨radio, l, hl, hp⟩
  · simp [hp] at hm

variable [Layers L κ]

/-- Call `n` has done `l`, and has answered `r` or can do so at once. -/
def Answers (t : List Event) (x : Lifetime L κ) (n : Nat) (l : List Event) (r : Except InitError Unit) :
    Prop :=
  (own n t = l ∧ ∃ y, Step x (.initReturned n r) y) ∨ own n t = l ++ [.initReturned n r]

/-- What is left to a start, once it has done the last thing that there is to do to fail, is to say so. -/
theorem answers_of_done {l : List Event} {radio : Radio} {err : InitError}
    (hs : Story n radio (.error err) (l ++ [e])) (he : e ∈ t) (hn : e.call? = some n) (hl : e ∉ l)
    (ho : (∃ ph, x.holder = some (n, ph) ∧ ph.Fits n (own n t) ∧ own n t <+: l ++ [e]) ∨
      own n t = l ++ [e] ++ [.initReturned n (.error err)]) : Answers t x n (l ++ [e]) (.error err) := by
  rcases ho with ⟨ph, hh, hf, hp⟩ | ho
  · have hm : e ∈ own n t := mem_own_iff.2 ⟨he, hn⟩
    have ho : own n t = l ++ [e] :=
      (List.prefix_concat_iff.1 hp).resolve_right fun hp => hl (hp.subset hm)
    rw [ho] at hf
    exact .inl ⟨ho, _, .returnInit hh (hf.result_of_error hs)⟩
  · exact .inr ho

/-- A start that finds a stack which is not a new one does nothing but tell so. -/
theorem Told.refused (h : Told t x) {radio : Radio} {found : LifecycleState}
    (he : .initEntered n radio found ∈ t) (hf : found ≠ .uninitialized) :
    Answers t x n [.initEntered n radio found] (.error (.invalidState found)) := by
  obtain ⟨radio', r, l, hl, hm, ho⟩ := h.story he rfl nofun nofun nofun
  cases hl with
  | @refused found' hf' =>
    have hm : radio = radio' ∧ found = found' := by simpa using hm
    obtain ⟨rfl, rfl⟩ := hm
    exact answers_of_done (l := []) (.refused hf) he rfl nofun ho
  | denied | up => simp [hf] at hm

/-- A start whose subscriber module does not come up does nothing but ask for that, and tell so. -/
theorem Told.denied (h : Told t x) {causes : Causes} (he : .usim n (.error causes) ∈ t) :
    ∃ radio, Answers t x n [.initEntered n radio .uninitialized, .usim n (.error causes)]
      (.error (.usim causes)) := by
  obtain ⟨radio, r, l, hl, hm, ho⟩ := h.story he rfl nofun nofun nofun
  cases hl with
  | denied causes' =>
    obtain rfl : causes = causes' := by simpa using hm
    exact ⟨radio, answers_of_done (l := [_]) (.denied causes) he rfl (by simp) ho⟩
  | refused | up => simp at hm

/-! ## Step by step -/

theorem Told.step (h : Told t x) (hxy : Step x e y) : Told (t ++ [e]) y := by
  cases hxy with
  | enterInit _ _ _ hh hs =>
    refine h.enter hh rfl rfl rfl ?_
    rw [hs]
    rfl
  | refuseInit radio hh hs => exact h.enter hh rfl rfl rfl ⟨radio, .refused hs⟩
  | usimUp hh =>
    refine h.go hh rfl rfl (.inr rfl) fun hf => ⟨[], rfl, ?_⟩
    rw [own_snoc_of_eq rfl, hf]
    rfl
  | @usimFails n e e' radio _ _ _ hh =>
    refine h.go hh rfl rfl (.inr rfl) fun hf => ⟨radio, ?_⟩
    rw [own_snoc_of_eq rfl, hf]
    exact .denied _
  | @raise n _ _ _ _ r todo _ hh =>
    refine h.go hh rfl rfl (.inr rfl) ?_
    rintro ⟨done, hd, hf⟩
    refine ⟨done ++ [r], ?_, ?_⟩
    · rw [← hd, List.append_assoc]
      rfl
    · rw [own_snoc_of_eq rfl, hf, List.map_append]
      rfl
  | start hh =>
    refine h.go_quietly hh rfl rfl rfl ?_
    rintro l ⟨done, hd, hl⟩
    rw [List.append_nil] at hd
    rw [hl, hd]
    exact .up
  | spawn hh | stop hh | queueTeardown hh => exact h.go_quietly hh rfl rfl rfl fun _ hl => hl
  | teardownRejected hh | join hh | close hh => exact h.go_quietly hh rfl rfl rfl fun _ hl => hl
  | halt hh | settle hh => exact h.go_quietly hh rfl rfl rfl fun _ hl => hl
  | returnInit hh hr =>
    refine h.leave hh rfl rfl rfl fun hf => .inl ?_
    obtain ⟨radio, hs⟩ := hf.story hr
    exact ⟨radio, _, _, hs, rfl⟩
  | enterShutdown hh => exact h.enter hh rfl rfl rfl (Phase.fits_ofFound ..)
  | returnShutdown hh =>
    refine h.leave hh rfl rfl rfl fun hf => .inr ?_
    rw [hf]
    rfl
  | post | work | begin | run => exact h.beside rfl rfl rfl

theorem told {c : StackConfig} (h : Run Step (start c) t x) : Told t x := by
  induction h with
  | nil => exact told_start c
  | snoc _ hs ih => exact ih.step hs

end Lifetime

end LteUe
