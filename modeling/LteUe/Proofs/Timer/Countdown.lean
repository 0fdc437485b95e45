import LteUe.Proofs.Timer.Histories

/-!
# A timer counts down on its own

A timer that is set to `d` ticks and started runs its callback in the `max d 1`-th step from there, and in
no other, until it is started again. Whatever is done to other timers in between, and however their
callbacks behave short of a fault, makes no difference (`TimerTable.fires_on_time`).
-/

namespace LteUe

variable {κ σ : Type}

namespace TimerSlot

variable {s : TimerSlot κ} {d k : Nat} {c : κ}

/-- A slot whose timer is set to `d` ticks and a callback, and does not release itself. -/
structure Armed (d : Nat) (c : κ) (s : TimerSlot κ) : Prop where
  oneShot : s.oneShot = false
  duration : s.duration = d
  callback : s.callback = some c

/-- Its timer has seen `k` steps since it was started. -/
structure Counted (d k : Nat) (c : κ) (s : TimerSlot κ) : Prop extends Armed d c s where
  running : k < max d 1 → s.state = .running ∧ s.remaining = d - k
  expired : max d 1 ≤ k → s.state = .expired

theorem Armed.start (h : Armed d c s) : Counted d 0 c s.start where
  oneShot := h.oneShot
  duration := h.duration
  callback := h.callback
  running _ := ⟨rfl, h.duration⟩
  expired hk := by omega

theorem Armed.due?_eq (h : Armed d c s) : s.due? = if s.IsDue then some c else none := by
  rw [due?, h.callback]

theorem Armed.advance_of_due (h : Armed d c s) (hd : s.IsDue) (k : Option κ) :
    s.advance k = { s with remaining := 0, state := .expired, callback := k } := by
  simp [advance, hd, h.oneShot]

theorem Armed.advance (h : Armed d c s) (hd : ¬ s.IsDue) (k : Option κ) : Armed d c (s.advance k) := by
  unfold TimerSlot.advance
  rw [if_neg hd]
  split
  · exact ⟨h.oneShot, h.duration, h.callback⟩
  · exact h

theorem Counted.isDue_iff (h : Counted d k c s) (hu : s.inUse = true) : s.IsDue ↔ k + 1 = max d 1 := by
  unfold IsDue IsRunning
  by_cases hk : k < max d 1
  · obtain ⟨hs, hr⟩ := h.running hk
    simp only [hu, hs, hr, and_true, true_and]
    omega
  · have hs := h.expired (by omega)
    simp only [hs, reduceCtorEq, and_false, false_and, false_iff]
    omega

theorem Counted.fire (h : Counted d k c s) (hd : s.IsDue) (hk : k + 1 = max d 1) (c' : κ) :
    Counted d (k + 1) c' (s.advance (some c')) := by
  rw [h.advance_of_due hd]
  exact ⟨⟨h.oneShot, h.duration, rfl⟩, fun hlt => by omega, fun _ => rfl⟩

theorem Counted.count (h : Counted d k c s) (hu : s.inUse = true) (hk : k + 1 ≠ max d 1) (o : Option κ) :
    Counted d (k + 1) c (s.advance o) := by
  have hd : ¬ s.IsDue := fun hd => hk ((h.isDue_iff hu).1 hd)
  refine ⟨h.toArmed.advance hd o, fun hlt => ?_, fun hge => ?_⟩
  · obtain ⟨hs, hr⟩ := h.running (by omega)
    rw [TimerSlot.advance, if_neg hd, if_pos ⟨hu, hs⟩]
    refine ⟨hs, ?_⟩
    show s.remaining - 1 = d - (k + 1)
    omega
  · have hs := h.expired (by omega)
    have hr : ¬ s.IsRunning := fun hr => by simp [IsRunning, hs] at hr
    rwa [TimerSlot.advance, if_neg hd, if_neg hr]

end TimerSlot

namespace TimerTable

variable {t t' u : TimerTable κ} {id : TimerId} {s : TimerSlot κ} {d k n : Nat} {c cb : κ} {e : Deed κ}
  {fire : κ → EStateM Fault σ κ} {l m p l₁ l₂ : List (Deed κ)}

theorem rounds_snoc (l : List (Deed κ)) (e : Deed κ) : rounds (l ++ [e]) = rounds l ++ e.round?.toList := by
  rw [rounds, rounds, List.filterMap_append]
  cases h : e.round? <;> simp [h]

@[simp] theorem callsOf_nil (id : TimerId) : callsOf id ([] : List (TimerId × κ)) = [] := rfl

theorem callsOf_append (id : TimerId) (l m : List (TimerId × κ)) :
    callsOf id (l ++ m) = callsOf id l ++ callsOf id m := List.filterMap_append

/-- Calling `b` is calling the callback `c`, and it answers `c'`. -/
def Recall (fire : κ → EStateM Fault σ κ) (c b c' : κ) : Prop := b = c ∧ ∃ x x', fire c x = .ok c' x'

/-! ## From one start to the next -/

/-- The timer is set to `d` ticks and to the callback that its calls so far have left of `cb`. -/
def Ready (fire : κ → EStateM Fault σ κ) (id : TimerId) (d : Nat) (cb : κ) (l : List (Deed κ))
    (t : TimerTable κ) : Prop :=
  ∃ s c, t.slot? id = some s ∧ s.Armed d c ∧ Run (Recall fire) cb (callsOf id (rounds l).flatten) c

theorem inUse_of_slot? (hs : t.slot? id = some s) : s.inUse = true := (slot?_eq_some_iff.1 hs).2.1

theorem slot?_run (hs : t.slot? id = some s) : (t.run id).2.slot? id = some s.start :=
  slot?_update_self hs rfl rfl

theorem Step.ready (h : Step fire t e t') (ht : t.Sound) (hr : Ready fire id d cb l t)
    (he : e.given? = some id → e = .run id) (hf : e ≠ .faulted) : Ready fire id d cb (l ++ [e]) t' := by
  obtain ⟨s, c, hs, ha, hc⟩ := hr
  rw [Ready, rounds_snoc, List.flatten_append, callsOf_append]
  cases hround : e.round? with
  | none =>
    rw [Option.toList_none, List.flatten_nil, callsOf_nil, List.append_nil]
    by_cases hg : e.given? = some id
    · obtain rfl := he hg
      cases h with
      | run => exact ⟨_, c, slot?_run hs, ha.start.toArmed, hc⟩
    · exact ⟨s, c, h.slot?_eq ht hs hg hround hf, ha, hc⟩
  | some fs =>
    obtain ⟨hcalls, k, hs', hk⟩ := step_advances h hround hs ha.oneShot
    rw [Option.toList_some, List.flatten_singleton, hcalls]
    by_cases hd : s.IsDue
    · have hdue : s.due? = some c := by rw [ha.due?_eq, if_pos hd]
      obtain ⟨c', x, x', rfl, hc'⟩ := hk c hdue
      refine ⟨_, c', hs', ?_, ?_⟩
      · rw [ha.advance_of_due hd]
        exact ⟨ha.oneShot, ha.duration, rfl⟩
      · rw [hdue]
        exact hc.snoc ⟨rfl, x, x', hc'⟩
    · refine ⟨_, c, hs', ha.advance hd k, ?_⟩
      rw [ha.due?_eq, if_neg hd]
      simpa using hc

theorem ready_of_run (h : Run (Step fire) t m u) (ht : t.Sound) (hr : Ready fire id d cb l t)
    (hm : ∀ e ∈ m, e.given? = some id → e = .run id) (hf : .faulted ∉ m) :
    u.Sound ∧ Ready fire id d cb (l ++ m) u := by
  induction h with
  | nil => exact ⟨ht, by rwa [List.append_nil]⟩
  | @snoc m _ _ e h h' ih =>
    rw [List.mem_append, not_or, List.mem_singleton] at hf
    obtain ⟨ht, hr⟩ := ih (fun e he => hm e (List.mem_append_left _ he)) hf.1
    refine ⟨h'.sound ht, ?_⟩
    rw [← List.append_assoc]
    exact h'.ready ht hr (hm e (List.mem_append_right _ (List.mem_singleton_self e))) (Ne.symm hf.2)

/-! ## After a start -/

/-- The timer was started with callback `c`, and the table has taken the steps `r` since: it has counted
them, and of all of them only the `max d 1`-th called for it. -/
structure CountsDown (id : TimerId) (d : Nat) (c : κ) (r : List (List (TimerId × κ))) (t : TimerTable κ) :
    Prop where
  slot : ∃ s c', t.slot? id = some s ∧ s.Counted d r.length c' ∧ (r.length < max d 1 → c' = c)
  called (k : Nat) (fs : List (TimerId × κ)) : r[k]? = some fs →
    callsOf id fs = if k + 1 = max d 1 then [c] else []

variable {r : List (List (TimerId × κ))} {fs : List (TimerId × κ)}

theorem CountsDown.snoc (h : CountsDown id d c r t) (hfs : callsOf id fs = if r.length + 1 = max d 1 then [c] else [])
    (hs : ∃ s c', t'.slot? id = some s ∧ s.Counted d (r.length + 1) c' ∧
      (r.length + 1 < max d 1 → c' = c)) : CountsDown id d c (r ++ [fs]) t' := by
  refine ⟨by rwa [List.length_append, List.length_singleton], fun k fs' hk => ?_⟩
  obtain hlt | heq | hgt := Nat.lt_trichotomy k r.length
  · rw [List.getElem?_append_left hlt] at hk
    exact h.called k fs' hk
  · subst heq
    rw [List.getElem?_concat_length] at hk
    cases hk
    exact hfs
  · rw [List.getElem?_eq_none (by simp; omega)] at hk
    cases hk

theorem Step.countsDown (h : Step fire t e t') (ht : t.Sound) (hc : CountsDown id d c r t)
    (he : e.given? ≠ some id) (hf : e ≠ .faulted) : CountsDown id d c (r ++ e.round?.toList) t' := by
  obtain ⟨s, c₁, hs, hcount, hlt⟩ := hc.slot
  have hu := inUse_of_slot? hs
  cases hround : e.round? with
  | none =>
    rw [Option.toList_none, List.append_nil]
    exact ⟨⟨s, c₁, h.slot?_eq ht hs he hround hf, hcount, hlt⟩, hc.called⟩
  | some fs =>
    obtain ⟨hcalls, k, hs', hk⟩ := step_advances h hround hs hcount.oneShot
    rw [hcount.due?_eq] at hcalls hk
    by_cases hd : s.IsDue
    · have hend := (hcount.isDue_iff hu).1 hd
      obtain rfl : c₁ = c := hlt (by omega)
      rw [if_pos hd] at hcalls hk
      obtain ⟨c', -, -, rfl, -⟩ := hk c₁ rfl
      refine hc.snoc (by rw [hcalls, if_pos hend]; rfl) ⟨_, c', hs', hcount.fire hd hend c', ?_⟩
      omega
    · have hend : r.length + 1 ≠ max d 1 := fun hend => hd ((hcount.isDue_iff hu).2 hend)
      rw [if_neg hd] at hcalls
      refine hc.snoc (by rw [hcalls, if_neg hend]; rfl) ⟨_, c₁, hs', hcount.count hu hend k, ?_⟩
      exact fun h => hlt (by omega)

theorem countsDown_of_run (h : Run (Step fire) t m u) (ht : t.Sound) (hc : CountsDown id d c [] t)
    (hm : ∀ e ∈ m, e.given? ≠ some id) (hf : .faulted ∉ m) :
    u.Sound ∧ CountsDown id d c (rounds m) u := by
  induction h with
  | nil => exact ⟨ht, hc⟩
  | @snoc m _ _ e h h' ih =>
    rw [List.mem_append, not_or, List.mem_singleton] at hf
    obtain ⟨ht, hc⟩ := ih (fun e he => hm e (List.mem_append_left _ he)) hf.1
    refine ⟨h'.sound ht, ?_⟩
    rw [rounds_snoc]
    exact h'.countsDown ht hc (hm e (List.mem_append_right _ (List.mem_singleton_self e))) (Ne.symm hf.2)

/-! ## The whole life of a timer -/

/-- A step that no callback ends early runs its calls in their order, and nothing else. -/
theorem calls_run {x x' : σ} (h : stepAll fire (t, x) = .ok n (t', x')) :
    ∃ kept, (t.calls.map (·.2)).mapM fire x = .ok kept x' := by
  obtain ⟨⟨kept, hk⟩, -⟩ := stepAll_ok h
  rw [map_calls]
  exact ⟨_, hk.fired⟩

/-- Accuracy and independence. In any history a timer is made, and not released before it is set to `d`
ticks and the callback `cb`; from there it is given to no deed but those that start it, and no callback
faults. Let `m` be what has happened since it was last started. As long as the table has taken fewer than
`max d 1` steps in `m` the timer runs and has counted them, and after that it is expired. The
`max d 1`-th step in `m` runs its callback, as its calls so far have left it, and no other step does. -/
theorem fires_on_time
    (h : Run (Step fire) (ofCapacity n)
      (l₁ ++ (.created id :: l₂) ++ (.set id d (some cb) :: p) ++ (.run id :: m)) u)
    (hl : .released id ∉ l₂) (hp : ∀ e ∈ p, e.given? = some id → e = .run id)
    (hm : ∀ e ∈ m, e.given? ≠ some id) (hf : .faulted ∉ p ++ m) :
    (∀ {t t' : TimerTable κ} {x x' : σ} {k : Nat}, stepAll fire (t, x) = .ok k (t', x') →
      ∃ kept, (t.calls.map (·.2)).mapM fire x = .ok kept x') ∧
    ∃ c, Run (Recall fire) cb (callsOf id (rounds p).flatten) c ∧
      ((rounds m).length < max d 1 →
        u.isRunning id = true ∧ u.remaining? id = some (d - (rounds m).length)) ∧
      (max d 1 ≤ (rounds m).length → u.isExpired id = true) ∧
      ∀ k fs, (rounds m)[k]? = some fs → callsOf id fs = if k + 1 = max d 1 then [c] else [] := by
  refine ⟨calls_run, ?_⟩
  rw [List.mem_append, not_or] at hf
  obtain ⟨t₃, h, hm'⟩ := run_append_iff.1 h
  obtain ⟨t₂, h, hp'⟩ := run_append_iff.1 h
  obtain ⟨t₁, h₁, hl'⟩ := run_append_iff.1 h
  have ht₁ := sound_of_run h₁
  -- It is made, and stands until it is set.
  obtain ⟨t₁', hcreate, hl'⟩ := run_cons_iff.1 hl'
  have hs₁ : Stands id t₁' := by
    cases hcreate with
    | create => exact stands_of_create ht₁
  obtain ⟨ht₂, s, hs, ho⟩ := stands_of_run hl' (hcreate.sound ht₁) hs₁ hl
  -- It is set, and stays ready until it is started for the last time.
  obtain ⟨t₂', hset, hp'⟩ := run_cons_iff.1 hp'
  have hr₂ : Ready fire id d cb [] t₂' := by
    cases hset with
    | set => exact ⟨_, cb, slot?_update_self hs rfl rfl, ⟨ho, rfl, rfl⟩, .nil⟩
  obtain ⟨ht₃, s, c, hs, ha, hc⟩ := ready_of_run hp' (hset.sound ht₂) hr₂ hp hf.1
  -- It is started, and counts down.
  obtain ⟨t₃', hrun, hm'⟩ := run_cons_iff.1 hm'
  have hc₃ : CountsDown id d c [] t₃' := by
    cases hrun with
    | run => exact ⟨⟨_, c, slot?_run hs, ha.start, fun _ => rfl⟩, fun k fs hk => by simp at hk⟩
  obtain ⟨-, ⟨s, c', hs, hcount, -⟩, hcalled⟩ := countsDown_of_run hm' (hrun.sound ht₃) hc₃ hm hf.2
  refine ⟨c, hc, fun hlt => ?_, fun hge => ?_, hcalled⟩
  · obtain ⟨hstate, hrem⟩ := hcount.running hlt
    exact ⟨by simp [isRunning, hs, hstate], by simp [remaining?, hs, hstate, hrem]⟩
  · simp [isExpired, hs, hcount.expired hge]

/-- A callback that counts how often it has been run. -/
def tally : Nat → EStateM Fault Unit Nat := fun c => pure (c + 1)

theorem step_of_stepAll {t t' : TimerTable Nat} {calls : List (TimerId × Nat)}
    (h : stepAll tally (t, ()) = .ok n (t', ())) (hcalls : t.calls = calls) :
    Step tally t (.stepped calls) t' :=
  hcalls ▸ .step h

/-- A table whose first timer, of two ticks, is as told. A second timer, if there is one, idles. -/
def pair (remaining : Nat) (state : TimerState) (c : Nat) (second : Bool) : TimerTable Nat where
  slots := #[{ inUse := true, duration := 2, remaining, state, callback := some c }] ++
    if second then #[{ inUse := true }] else #[]

/-- The timer runs twice, two ticks each time; meanwhile the table grows for a second timer. -/
theorem fires_on_time_twice :
    let id : TimerId := ⟨0, 0⟩
    let p : List (Deed Nat) := [.run id, .stepped [], .stepped [(id, 7)]]
    let m : List (Deed Nat) := [.created ⟨1, 0⟩, .stepped [], .stepped [(id, 8)]]
    ∃ u, Run (Step tally) (ofCapacity 1)
        ([] ++ (.created id :: []) ++ (.set id 2 (some 7) :: p) ++ (.run id :: m)) u ∧
      u.isExpired id = true ∧ ∃ c, Run (Recall tally) 7 [7] c ∧ callsOf id [(id, 8)] = [c] := by
  intro id p m
  have h₁ : Step tally (ofCapacity 1) (.created id) ⟨#[{ inUse := true }], []⟩ := .create
  have h₂ : Step tally ⟨#[{ inUse := true }], []⟩ (.set id 2 (some 7)) (pair 2 .idle 7 false) := .set ..
  have h₃ : Step tally (pair 2 .idle 7 false) (.run id) (pair 2 .running 7 false) := .run id
  have h₄ : Step tally (pair 2 .running 7 false) (.stepped []) (pair 1 .running 7 false) :=
    step_of_stepAll (n := 0) (by rfl) (by rfl)
  have h₅ : Step tally (pair 1 .running 7 false) (.stepped [(id, 7)]) (pair 0 .expired 8 false) :=
    step_of_stepAll (n := 1) (by rfl) (by rfl)
  have h₆ : Step tally (pair 0 .expired 8 false) (.run id) (pair 2 .running 8 false) := .run id
  have h₇ : Step tally (pair 2 .running 8 false) (.created ⟨1, 0⟩) (pair 2 .running 8 true) := .create
  have h₈ : Step tally (pair 2 .running 8 true) (.stepped []) (pair 1 .running 8 true) :=
    step_of_stepAll (n := 0) (by rfl) (by rfl)
  have h₉ : Step tally (pair 1 .running 8 true) (.stepped [(id, 8)]) (pair 0 .expired 9 true) :=
    step_of_stepAll (n := 1) (by rfl) (by rfl)
  have h : Run (Step tally) (ofCapacity 1)
      ([] ++ (.created id :: []) ++ (.set id 2 (some 7) :: p) ++ (.run id :: m)) (pair 0 .expired 9 true) :=
    .cons h₁ <| .cons h₂ <| .cons h₃ <| .cons h₄ <| .cons h₅ <| .cons h₆ <| .cons h₇ <| .cons h₈ <|
      .cons h₉ .nil
  obtain ⟨-, c, hc, -, hexp, hcalled⟩ :=
    fires_on_time h (by simp) (by simp [p, Deed.given?]) (by simp [m, Deed.given?]) (by simp [p, m])
  exact ⟨_, h, hexp (by decide), c, hc, hcalled 1 _ rfl⟩

end TimerTable

end LteUe
