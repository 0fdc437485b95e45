import LteUe.Proofs.Timer.Histories

/-!
# Steps that a callback ends early

A callback that faults ends the step of a table where it stands. The places before it have been stepped as
in any other step; its own timer has run out, without a callback and without being released; and the places
behind it are as they were (`TimerTable.stepAll_error`).
-/

namespace LteUe.TimerTable

variable {κ σ : Type} {t t' : TimerTable κ} {i n : Nat} {x x' : σ} {f : Fault} {l : List Nat}
  {fire : κ → EStateM Fault σ κ}

/-- What a step does that the callback for place `i` ends early. The callback run for a place `j` before it
answers `kept j`. -/
structure CutAt (fire : κ → EStateM Fault σ κ) (i : Nat) (t : TimerTable κ) (x : σ)
    (kept : Nat → Option κ) (f : Fault) (t' : TimerTable κ) (x' : σ) : Prop where
  /-- The callbacks that are due before it are run on the context, in order, and then it faults. -/
  fault : ∃ s c x₁, t.slots[i]? = some s ∧ s.IsDue ∧ s.callback = some c ∧
    ((List.range i).filterMap t.dueAt).mapM fire x = .ok ((List.range i).filterMap kept) x₁ ∧
      fire c x₁ = .error f x'
  /-- Each of those answers. -/
  answered (j : Nat) (c : κ) : j < i → t.dueAt j = some c → ∃ c', kept j = some c'
  before (j : Nat) : j < i → t'.slots[j]? = t.slots[j]?.map (·.advance (kept j))
  /-- Its own timer has run out, and stays in its slot without a callback. -/
  here : t'.slots[i]? =
    t.slots[i]?.map fun s => { s with remaining := 0, state := .expired, callback := none }
  after (j : Nat) : i < j → t'.slots[j]? = t.slots[j]?
  /-- The places of the deferrals before it that have run are free again. -/
  free : t'.free = ((List.range i).filter t.isFreed).reverse ++ t.free

/-- A pass over some places that ends early has gone over those before one of them. -/
theorem foldlM_stepSlot_error (hl : l.Nodup)
    (h : (l.foldlM (fun n i => do return if ← stepSlot fire i then n + 1 else n) n :
      EStateM Fault (TimerTable κ × σ) Nat) (t, x) = .error f (t', x')) :
    ∃ l₁ i l₂ kept t₁ x₁, l = l₁ ++ i :: l₂ ∧ Stepped fire l₁ t x kept t₁ x₁ ∧
      stepSlot fire i (t₁, x₁) = .error f (t', x') := by
  induction l generalizing t x n with
  | nil => cases h
  | cons i l ih =>
    rw [List.foldlM_cons] at h
    rw [List.nodup_cons] at hl
    obtain h | ⟨m, ⟨t₁, x₁⟩, h₁, h₂⟩ := bind_eq_error_iff.1 h
    · obtain h | ⟨_, _, -, h⟩ := bind_eq_error_iff.1 h
      · exact ⟨[], i, l, fun _ => none, t, x, rfl, ⟨rfl, by simp, by simp, fun _ _ => rfl, rfl⟩, h⟩
      · cases h
    · obtain ⟨b, y, h₁, hm⟩ := bind_eq_ok_iff.1 h₁
      obtain ⟨rfl, rfl⟩ := pure_eq_ok_iff.1 hm
      obtain ⟨⟨k, hk⟩, -⟩ := stepSlot_ok h₁
      obtain ⟨l₁, j, l₂, kept, t₂, x₂, rfl, hs, hj⟩ := ih hl.2 h₂
      have hi : i ∉ l₁ := fun hi => hl.1 (List.mem_append_left _ hi)
      exact ⟨i :: l₁, j, l₂, _, t₂, x₂, rfl, hs.cons hi hk, hj⟩

/-- A step that ends with a fault has been cut at the place whose callback faulted. -/
theorem stepAll_error (h : stepAll fire (t, x) = .error f (t', x')) :
    ∃ i kept, CutAt fire i t x kept f t' x' := by
  obtain ⟨l₁, i, l₂, kept, t₁, x₁, hl, hs, hi⟩ := foldlM_stepSlot_error (n := 0) List.nodup_range h
  rw [List.range_eq_range', List.range'_eq_append_iff] at hl
  obtain ⟨k, -, rfl, hk⟩ := hl
  obtain ⟨rfl, -, -⟩ := List.range'_eq_cons_iff.1 hk.symm
  rw [Nat.mul_one, Nat.zero_add] at hi
  rw [← List.range_eq_range'] at hs
  obtain ⟨rfl, s, c, hslot, hd, hc, hf⟩ := stepSlot_error hi
  have hnot : ∀ j, k ≤ j → j ∉ List.range k := fun j hj hm => absurd (List.mem_range.1 hm) (by omega)
  rw [hs.other k (hnot k (Nat.le_refl k))] at hslot
  refine ⟨k, kept, ⟨s, c, x₁, hslot, hd, hc, hs.fired, hf⟩,
    fun j c hj => hs.answered j c (List.mem_range.2 hj), fun j hj => ?_, ?_, fun j hj => ?_, hs.free⟩
  · rw [getElem?_runOut_of_ne (Nat.ne_of_lt hj)]
    exact hs.slot j (List.mem_range.2 hj)
  · rw [runOut, getElem?_modifySlot, if_pos rfl, hs.other k (hnot k (Nat.le_refl k))]
  · rw [getElem?_runOut_of_ne (Nat.ne_of_gt hj)]
    exact hs.other j (hnot j (Nat.le_of_lt hj))

end LteUe.TimerTable
