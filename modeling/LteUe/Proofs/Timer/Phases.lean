import LteUe.Proofs.Timer.Histories
import Mathlib.Data.List.Basic

/-!
# A step in phases

A step decides, runs callbacks and releases place by place, in one pass. It does the same as a step in
three phases (`TimerTable.stepInPhases`): the places of the timers that expire are read off the table as it
stands; the callbacks found there are run, one after the other; and only then is the table changed, each slot
on its own. What a callback or a release does at one place is thus never seen at another
(`TimerTable.stepAll_eq_stepInPhases`).
-/

namespace LteUe

variable {κ σ : Type}

/-- The slot after a step in which its timer has expired; its callback, if it has one, answered `kept`. -/
def TimerSlot.settle (s : TimerSlot κ) (kept : Option κ) : TimerSlot κ :=
  if s.oneShot then
    { s with
      generation := s.generation + 1, inUse := false, remaining := 0, state := .idle, callback := none }
  else
    { s with remaining := 0, state := .expired, callback := kept }

namespace TimerTable

variable {t t' t₀ : TimerTable κ} {i j n : Nat} {fire : κ → EStateM Fault σ κ} {x x' : σ} {f : Fault}
  {l : List Nat}

/-! ## The phases -/

/-- The places of the timers that expire in the next step, in ascending order. -/
def expiring (t : TimerTable κ) : List Nat := (List.range t.slots.size).filter t.isDue

/-- Runs the callback at place `i`, if there is one, and answers with what it answered. -/
def fireAt (fire : κ → EStateM Fault σ κ) (t : TimerTable κ) (i : Nat) :
    EStateM Fault σ (Nat × Option κ) := do
  match t.slots[i]?.bind (·.callback) with
  | some callback => return (i, some (← fire callback))
  | none => return (i, none)

/-- The table after a step in which these timers expired and their callbacks gave these answers. Places are
freed in ascending order, so that the highest of them is handed out first. -/
def settle (t : TimerTable κ) (expired : List Nat) (answers : List (Nat × Option κ)) : TimerTable κ where
  slots := t.slots.mapIdx fun i s =>
    if i ∈ expired then s.settle (answers.lookup i).join
    else if s.IsRunning then { s with remaining := s.remaining - 1 }
    else s
  free := (expired.filter fun i => t.slots[i]?.any (·.oneShot)).reverse ++ t.free

/-- Advances every running timer by one tick: first the timers that expire are determined, then their
callbacks are run in the order of their places, and then the table is changed. -/
def stepInPhases (fire : κ → EStateM Fault σ κ) : EStateM Fault (TimerTable κ × σ) Nat := do
  let t := (← get).1
  let answers ← inContext (t.expiring.mapM (fireAt fire t))
  onTable (·.settle t.expiring answers)
  return t.expiring.length

/-! ## One place -/

theorem fireAt_congr (h : t.slots[i]? = t₀.slots[i]?) : fireAt fire t i = fireAt fire t₀ i := by
  rw [fireAt, fireAt, h]

theorem isDue_eq_true_iff : t.isDue i = true ↔ ∃ s, t.slots[i]? = some s ∧ s.IsDue := by
  rw [isDue, Option.any_eq_true]
  simp only [decide_eq_true_eq]

theorem dueAt_of_not_isDue (h : t.isDue i = false) : t.dueAt i = none := by
  rw [dueAt, Option.bind_eq_none_iff]
  intro s hs
  rw [TimerSlot.due?, if_neg fun hd => by rw [isDue_eq_true_iff.2 ⟨s, hs, hd⟩] at h; cases h]

/-- Where no callback is due nothing is answered, and the context stays as it is. -/
theorem SteppedAt.silent {k : Option κ} (h : SteppedAt fire i t x k t' x') (hd : t.dueAt i = none) :
    k = none ∧ x = x' := by
  have hfired := h.fired
  rw [hd] at hfired
  obtain ⟨hk, rfl⟩ := pure_eq_ok_iff.1 hfired
  exact ⟨Option.toList_eq_nil_iff.1 hk.symm, rfl⟩

theorem fireAt_eq_ok {k : Option κ} (hd : t.isDue i = true) (h : SteppedAt fire i t x k t' x') :
    fireAt fire t i x = .ok (i, k) x' := by
  obtain ⟨s, hs, hd⟩ := isDue_eq_true_iff.1 hd
  have hdue : t.dueAt i = s.callback := by
    rw [dueAt, hs, Option.bind_some, TimerSlot.due?, if_pos hd]
  rw [fireAt, hs, Option.bind_some]
  cases hc : s.callback with
  | none =>
    obtain ⟨rfl, rfl⟩ := h.silent (hdue.trans hc)
    rfl
  | some c =>
    obtain ⟨c', rfl, hc'⟩ := h.answered (hdue.trans hc)
    exact bind_eq_ok_iff.2 ⟨c', x', hc', rfl⟩

theorem fireAt_eq_error {s : TimerSlot κ} {c : κ} (hs : t.slots[i]? = some s) (hc : s.callback = some c)
    (h : fire c x = .error f x') : fireAt fire t i x = .error f x' := by
  rw [fireAt, hs, Option.bind_some, hc]
  exact bind_eq_error_iff.2 (.inl h)

/-! ## One pass over all places -/

/-- The callbacks of the second phase from place `i` on, once the pass is past that place. -/
theorem SteppedAt.mapM_fireAt {k : Option κ} {t₁ : TimerTable κ} {x₁ : σ} (h : SteppedAt fire i t x k t₁ x₁)
    (hi : t.slots[i]? = t₀.slots[i]?) :
    ((i :: l).filter t₀.isDue).mapM (fireAt fire t₀) x =
      (do
        let answers ← (l.filter t₀.isDue).mapM (fireAt fire t₀)
        return ([i].filter t₀.isDue).map (·, k) ++ answers : EStateM Fault σ _) x₁ := by
  have hdue : t.isDue i = t₀.isDue i := by rw [isDue, isDue, hi]
  cases hd : t₀.isDue i with
  | true =>
    have hfire := fireAt_eq_ok (hdue.trans hd) h
    rw [fireAt_congr hi] at hfire
    rw [List.filter_cons_of_pos hd, List.filter_cons_of_pos hd, List.mapM_cons]
    show EStateM.bind _ _ x = _
    rw [EStateM.bind, hfire]
    rfl
  | false =>
    obtain ⟨-, rfl⟩ := h.silent (dueAt_of_not_isDue (hdue.trans hd))
    rw [List.filter_cons_of_neg (by simp [hd]), List.filter_cons_of_neg (by simp [hd])]
    exact congrFun (bind_pure _).symm x

-- Both inductions are on the places still to come, which are as they were in the table `t₀` at entry.

theorem foldlM_stepSlot_fireAt (hl : l.Nodup) (ht : ∀ i ∈ l, t.slots[i]? = t₀.slots[i]?)
    (h : (l.foldlM (fun n i => do return if ← stepSlot fire i then n + 1 else n) n :
      EStateM Fault (TimerTable κ × σ) Nat) (t, x) = .ok j (t', x')) :
    ∃ kept, Stepped fire l t x kept t' x' ∧
      (l.filter t₀.isDue).mapM (fireAt fire t₀) x = .ok ((l.filter t₀.isDue).map fun i => (i, kept i)) x' := by
  induction l generalizing t x n with
  | nil =>
    cases h
    exact ⟨fun _ => none, ⟨rfl, by simp, by simp, fun _ _ => rfl, rfl⟩, rfl⟩
  | cons i l ih =>
    rw [List.foldlM_cons] at h
    rw [List.nodup_cons] at hl
    rw [List.forall_mem_cons] at ht
    obtain ⟨m, ⟨t₁, x₁⟩, h₁, h₂⟩ := bind_eq_ok_iff.1 h
    obtain ⟨b, y, h₁, hm⟩ := bind_eq_ok_iff.1 h₁
    obtain ⟨rfl, rfl⟩ := pure_eq_ok_iff.1 hm
    obtain ⟨⟨k, hk⟩, -⟩ := stepSlot_ok h₁
    have hne : ∀ j ∈ l, j ≠ i := fun j hj hji => hl.1 (hji ▸ hj)
    obtain ⟨kept, hs, hf⟩ := ih hl.2 (fun j hj => (hk.other j (hne j hj)).trans (ht.2 j hj)) h₂
    refine ⟨_, hs.cons hl.1 hk, ?_⟩
    have hkept : ((l.filter t₀.isDue).map fun j => (j, if j = i then k else kept j)) =
        (l.filter t₀.isDue).map fun j => (j, kept j) :=
      List.map_congr_left fun j hj => by rw [if_neg (hne j (List.mem_of_mem_filter hj))]
    rw [hk.mapM_fireAt ht.1]
    refine bind_eq_ok_iff.2 ⟨_, _, hf, ?_⟩
    cases hd : t₀.isDue i <;> simp [hd, hkept] <;> rfl

theorem foldlM_stepSlot_fireAt_error (hl : l.Nodup) (ht : ∀ i ∈ l, t.slots[i]? = t₀.slots[i]?)
    (h : (l.foldlM (fun n i => do return if ← stepSlot fire i then n + 1 else n) n :
      EStateM Fault (TimerTable κ × σ) Nat) (t, x) = .error f (t', x')) :
    (l.filter t₀.isDue).mapM (fireAt fire t₀) x = .error f x' := by
  induction l generalizing t x n with
  | nil => cases h
  | cons i l ih =>
    rw [List.foldlM_cons] at h
    rw [List.nodup_cons] at hl
    rw [List.forall_mem_cons] at ht
    obtain h | ⟨m, ⟨t₁, x₁⟩, h₁, h₂⟩ := bind_eq_error_iff.1 h
    · obtain h | ⟨_, _, -, h⟩ := bind_eq_error_iff.1 h
      · obtain ⟨-, s, c, hs, hd, hc, hf⟩ := stepSlot_error h
        rw [ht.1] at hs
        rw [List.filter_cons_of_pos (isDue_eq_true_iff.2 ⟨s, hs, hd⟩), List.mapM_cons]
        exact bind_eq_error_iff.2 (.inl (fireAt_eq_error hs hc hf))
      · cases h
    · obtain ⟨b, y, h₁, hm⟩ := bind_eq_ok_iff.1 h₁
      obtain ⟨rfl, rfl⟩ := pure_eq_ok_iff.1 hm
      obtain ⟨⟨k, hk⟩, -⟩ := stepSlot_ok h₁
      rw [hk.mapM_fireAt ht.1]
      exact bind_eq_error_iff.2 (.inl
        (ih hl.2 (fun j hj => (hk.other j fun hji => hl.1 (hji ▸ hj)).trans (ht.2 j hj)) h₂))

/-! ## What is left -/

theorem mem_expiring : i ∈ t.expiring ↔ t.isDue i = true := by
  rw [expiring, List.mem_filter, List.mem_range, and_iff_right_iff_imp]
  intro h
  obtain ⟨s, hs, -⟩ := isDue_eq_true_iff.1 h
  exact (Array.getElem?_eq_some_iff.1 hs).1

/-- Changed after all callbacks have run, the table is the one that the pass leaves. -/
theorem Stepped.eq_settle {kept : Nat → Option κ}
    (h : Stepped fire (List.range t.slots.size) t x kept t' x') :
    t' = t.settle t.expiring (t.expiring.map fun i => (i, kept i)) := by
  have hslots : t'.slots = (t.settle t.expiring (t.expiring.map fun i => (i, kept i))).slots := by
    apply Array.ext_getElem?
    intro i
    rw [h.slots, settle, Array.getElem?_mapIdx]
    cases hs : t.slots[i]? with
    | none => rfl
    | some s =>
      have hi : i ∈ t.expiring ↔ s.IsDue := by
        rw [mem_expiring, isDue, hs, Option.any_some, decide_eq_true_iff]
      rw [Option.map_some, Option.map_some, TimerSlot.advance]
      by_cases hd : s.IsDue
      · rw [if_pos hd, if_pos (hi.2 hd), List.lookup_graph kept (hi.2 hd)]
        rfl
      · rw [if_neg hd, if_neg (mt hi.1 hd)]
  have hfree : t'.free = (t.settle t.expiring (t.expiring.map fun i => (i, kept i))).free := by
    rw [h.free, settle, expiring, List.filter_filter]
    congr 2
    apply List.filter_congr
    intro i _
    cases hs : t.slots[i]? <;> simp [isFreed, isDue, hs, Bool.and_comm]
  cases t'
  exact congr (congrArg TimerTable.mk hslots) hfree

theorem stepInPhases_of_ok {answers : List (Nat × Option κ)}
    (h : t.expiring.mapM (fireAt fire t) x = .ok answers x') :
    stepInPhases fire (t, x) = .ok t.expiring.length (t.settle t.expiring answers, x') := by
  rw [stepInPhases, get_bind]
  exact bind_eq_ok_iff.2 ⟨answers, _, inContext_eq_ok_iff.2 ⟨x', h, rfl⟩, rfl⟩

theorem stepInPhases_of_error (h : t.expiring.mapM (fireAt fire t) x = .error f x') :
    stepInPhases fire (t, x) = .error f (t, x') := by
  rw [stepInPhases, get_bind]
  refine bind_eq_error_iff.2 (.inl ?_)
  simp only [inContext, h]

theorem stepInPhases_of_stepAll (h : stepAll fire (t, x) = .ok n (t', x')) :
    stepInPhases fire (t, x) = .ok n (t', x') := by
  obtain ⟨kept, hs, hf⟩ := foldlM_stepSlot_fireAt (n := 0) List.nodup_range (fun _ _ => rfl) h
  have hphases := stepInPhases_of_ok hf
  rw [← expiring, ← hs.eq_settle] at hphases
  rw [hphases, (stepAll_ok h).2, List.countP_eq_length_filter, expiring]

theorem stepInPhases_of_stepAll_error (h : stepAll fire (t, x) = .error f (t', x')) :
    stepInPhases fire (t, x) = .error f (t, x') :=
  stepInPhases_of_error (foldlM_stepSlot_fireAt_error (n := 0) List.nodup_range (fun _ _ => rfl) h)

/-- A step and a step in phases succeed together, with the same answer, table and context. If a callback
faults it is the same one, and it finds the same context. -/
theorem stepAll_eq_stepInPhases (fire : κ → EStateM Fault σ κ) (t : TimerTable κ) (x : σ) :
    (∀ n t' x', stepAll fire (t, x) = .ok n (t', x') ↔ stepInPhases fire (t, x) = .ok n (t', x')) ∧
      ∀ f x', (∃ t', stepAll fire (t, x) = .error f (t', x')) ↔
        stepInPhases fire (t, x) = .error f (t, x') := by
  cases h : stepAll fire (t, x) with
  | ok n y =>
    obtain ⟨t', x'⟩ := y
    rw [stepInPhases_of_stepAll h]
    simp
  | error f y =>
    obtain ⟨t', x'⟩ := y
    rw [stepInPhases_of_stepAll_error h]
    simp

end TimerTable

end LteUe
