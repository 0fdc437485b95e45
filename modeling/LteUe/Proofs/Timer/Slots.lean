import LteUe.Timer.Table

/-!
# What the operations of a timer table do

Each operation is described by the slots it leaves (`t.slots[i]?`) and the free list. A table is sound
(`TimerTable.Sound`) if its free list names the slots not in use, each once; then a new timer never
gets a slot in which another one lives.
-/

namespace LteUe.TimerTable

variable {κ : Type} {t : TimerTable κ} {i j : Nat} {s : TimerSlot κ} {id : TimerId}
  {f : TimerSlot κ → TimerSlot κ}

/-! ## Changing one slot -/

theorem getElem?_modifySlot (t : TimerTable κ) (i j : Nat) (f : TimerSlot κ → TimerSlot κ) :
    (t.modifySlot i f).slots[j]? = if i = j then t.slots[j]?.map f else t.slots[j]? :=
  Array.getElem?_modify

@[simp] theorem free_modifySlot : (t.modifySlot i f).free = t.free := rfl

/-- An id addresses the slot at its place if a timer of its generation lives there. -/
theorem slot?_eq_some_iff :
    t.slot? id = some s ↔
      t.slots[id.index]? = some s ∧ s.inUse = true ∧ s.generation = id.generation := by
  unfold slot?
  rw [Option.filter_eq_some_iff, Bool.and_eq_true, beq_iff_eq]

theorem slot?_congr {t' : TimerTable κ} (h : t'.slots[id.index]? = t.slots[id.index]?) :
    t'.slot? id = t.slot? id := by
  rw [slot?, slot?, h]

theorem update_of_slot? (h : t.slot? id = some s) : t.update id f = (true, t.modifySlot id.index f) := by
  rw [update, h]

theorem release_of_slot? (h : t.slot? id = some s) :
    t.release id = { t.modifySlot id.index (·.vacate) with free := id.index :: t.free } := by
  rw [release, h]

/-! ## Sound tables -/

/-- The free list names the slots that are not in use, each once. -/
structure Sound (t : TimerTable κ) : Prop where
  nodup : t.free.Nodup
  /-- The places named are those of the slots not in use. -/
  mem_free (i : Nat) : i ∈ t.free ↔ ∃ s, t.slots[i]? = some s ∧ s.inUse = false

theorem sound_ofCapacity (n : Nat) : (ofCapacity n : TimerTable κ).Sound where
  nodup := List.nodup_range
  mem_free i := by
    simp only [ofCapacity, List.mem_range, Array.getElem?_replicate]
    constructor
    · intro h
      exact ⟨{}, if_pos h, rfl⟩
    · rintro ⟨s, h, -⟩
      split at h
      · assumption
      · cases h

/-- A change that neither gives up a slot nor takes one keeps a table sound. -/
theorem Sound.modifySlot (h : t.Sound) (hf : ∀ s, t.slots[i]? = some s → (f s).inUse = s.inUse) :
    (t.modifySlot i f).Sound where
  nodup := h.nodup
  mem_free j := by
    rw [free_modifySlot, h.mem_free, getElem?_modifySlot]
    split
    · rename_i hij
      subst hij
      cases hs : t.slots[i]? with
      | none => simp
      | some s => simp [hf s hs]
    · rfl

/-! ## Taking a slot -/

/-- A sound table hands out a place that is free or new, and leaves all others as they are. -/
theorem claim_spec (h : t.Sound) :
    (∃ s, s.inUse = false ∧ t.claim.2.slots[t.claim.1]? = some s ∧
      ∀ u, t.slots[t.claim.1]? = some u → u = s) ∧
    ∀ j, j ≠ t.claim.1 → t.claim.2.slots[j]? = t.slots[j]? := by
  unfold claim
  cases hf : t.free with
  | nil =>
    refine ⟨⟨{}, rfl, by simp, ?_⟩, ?_⟩
    · intro u hu
      simp at hu
    · intro j hj
      simp only at hj
      rw [Array.getElem?_push, if_neg hj]
  | cons i rest =>
    obtain ⟨s, hs, hu⟩ := (h.mem_free i).1 (by simp [hf])
    exact ⟨⟨s, hu, hs, fun u hu => Option.some.inj (hu.symm.trans hs)⟩, fun j _ => rfl⟩

theorem mem_free_claim (h : t.Sound) :
    t.claim.2.free.Nodup ∧
      ∀ j, j ∈ t.claim.2.free ↔
        j ≠ t.claim.1 ∧ ∃ s, t.claim.2.slots[j]? = some s ∧ s.inUse = false := by
  have hn := h.nodup
  have hm := h.mem_free
  unfold claim
  cases hf : t.free with
  | nil =>
    refine ⟨List.nodup_nil, fun j => ?_⟩
    have hj := hm j
    simp only [hf, List.not_mem_nil, false_iff] at hj ⊢
    rintro ⟨hne, s, hs, hu⟩
    rw [Array.getElem?_push, if_neg hne] at hs
    exact hj ⟨s, hs, hu⟩
  | cons i rest =>
    rw [hf, List.nodup_cons] at hn
    refine ⟨hn.2, fun j => ?_⟩
    have hj := hm j
    simp only [hf, List.mem_cons] at hj ⊢
    constructor
    · intro hjr
      refine ⟨?_, hj.1 (.inr hjr)⟩
      rintro rfl
      exact hn.1 hjr
    · rintro ⟨hne, hs⟩
      exact (hj.2 hs).resolve_left hne

/-- A new timer gets a slot in which no other lives; its id carries the slot's generation. -/
theorem create_spec (h : t.Sound) :
    (∃ s, s.inUse = false ∧ s.generation = t.create.1.generation ∧
      t.create.2.slots[t.create.1.index]? = some s.occupy ∧
      ∀ u, t.slots[t.create.1.index]? = some u → u = s) ∧
    (∀ j, j ≠ t.create.1.index → t.create.2.slots[j]? = t.slots[j]?) ∧ t.create.2.Sound := by
  obtain ⟨⟨s, hu, hs, ho⟩, hj⟩ := claim_spec h
  obtain ⟨hn, hm⟩ := mem_free_claim h
  have hc : t.create = (⟨t.claim.1, s.generation⟩, t.claim.2.modifySlot t.claim.1 (·.occupy)) := by
    show (TimerId.mk _ (t.claim.2.slots[t.claim.1]?.elim 0 (·.generation)), _) = _
    rw [hs]
    rfl
  rw [hc]
  refine ⟨⟨s, hu, rfl, ?_, ho⟩, ?_, hn, ?_⟩
  · rw [getElem?_modifySlot, if_pos rfl, hs]
    rfl
  · intro j hne
    rw [getElem?_modifySlot, if_neg (Ne.symm hne)]
    exact hj j hne
  · intro j
    rw [free_modifySlot, hm, getElem?_modifySlot]
    by_cases hj : t.claim.1 = j
    · subst hj
      simp [hs, TimerSlot.occupy]
    · rw [if_neg hj]
      exact and_iff_right (Ne.symm hj)

/-! ## Deferring -/

/-- The slot of a deferral that has just been armed. -/
def deferralSlot (generation : UInt32) (ticks : Nat) (callback : κ) : TimerSlot κ where
  generation := generation
  inUse := true
  oneShot := true
  duration := ticks
  remaining := ticks
  state := .running
  callback := some callback

/-- A deferral gets a slot in which no other timer lives, and counts down there. -/
theorem defer_spec (h : t.Sound) (ticks : Nat) (callback : κ) :
    (t.defer ticks callback).2.slots[(t.defer ticks callback).1.index]? =
      some (deferralSlot (t.defer ticks callback).1.generation ticks callback) ∧
    (∀ s, t.slots[(t.defer ticks callback).1.index]? = some s → s.inUse = false) ∧
    (∀ j, j ≠ (t.defer ticks callback).1.index →
      (t.defer ticks callback).2.slots[j]? = t.slots[j]?) ∧
    (t.defer ticks callback).2.Sound := by
  obtain ⟨⟨s, hu, hg, hs, ho⟩, hj, hsound⟩ := create_spec h
  have hd : t.defer ticks callback = (t.create.1, t.create.2.modifySlot t.create.1.index fun s =>
    { s.configure ticks (some callback) with oneShot := true }.start) := rfl
  rw [hd]
  refine ⟨?_, fun u hu' => ho u hu' ▸ hu, ?_, hsound.modifySlot fun u _ => rfl⟩
  · rw [getElem?_modifySlot, if_pos rfl, hs, ← hg]
    rfl
  · intro j hne
    rw [getElem?_modifySlot, if_neg (Ne.symm hne)]
    exact hj j hne

/-! ## Releasing -/

theorem getElem?_release (h : t.slot? id = some s) (j : Nat) :
    (t.release id).slots[j]? = if id.index = j then t.slots[j]?.map (·.vacate) else t.slots[j]? := by
  rw [release_of_slot? h]
  exact t.getElem?_modifySlot id.index j _

theorem free_release (h : t.slot? id = some s) : (t.release id).free = id.index :: t.free := by
  rw [release_of_slot? h]

theorem Sound.release (h : t.Sound) (hs : t.slot? id = some s) : (t.release id).Sound := by
  obtain ⟨hi, hu, -⟩ := slot?_eq_some_iff.1 hs
  have hnot : id.index ∉ t.free := by
    rw [h.mem_free]
    rintro ⟨u, hu', hn⟩
    obtain rfl : s = u := Option.some.inj (hi.symm.trans hu')
    simp [hu] at hn
  refine ⟨free_release hs ▸ List.nodup_cons.2 ⟨hnot, h.nodup⟩, fun j => ?_⟩
  rw [free_release hs, List.mem_cons, h.mem_free, getElem?_release hs]
  by_cases hj : id.index = j
  · subst hj
    simp [hi, TimerSlot.vacate]
  · rw [if_neg hj]
    simp [Ne.symm hj]

end LteUe.TimerTable
