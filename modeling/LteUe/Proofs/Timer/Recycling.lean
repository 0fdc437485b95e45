import LteUe.Proofs.Timer.Faults
import Mathlib.Data.List.Count

/-!
# Stale ids

Whenever a timer ends, by being released or as a deferral that has run out, its place is free again
(`TimerTable.vacated`), and the generation of its slot moves on by one, as a word of 32 bits. So the id of a
timer addresses its slot as long as the timer lives, and after that exactly when the slot is in use and has
been vacated a multiple of `2 ^ 32` times since the id was given out (`TimerTable.stale_ids`). An id that
addresses no slot is good for nothing.
-/

namespace LteUe

variable {κ σ : Type}

/-- The id that a deed gives out. -/
def Deed.made? : Deed κ → Option TimerId
  | created id | deferred id _ _ => some id
  | set .. | run _ | stop _ | released _ | stepped _ | faulted => none

namespace TimerTable

variable {t t' u : TimerTable κ} {id : TimerId} {i n : Nat} {s s' : TimerSlot κ} {d : Deed κ}
  {fire : κ → EStateM Fault σ κ} {x x' : σ} {f : TimerSlot κ → TimerSlot κ} {w : Deed κ × List Nat}
  {l p q : List (Deed κ × List Nat)}

/-- Whether a timer lives at place `i`. -/
def isUsed (t : TimerTable κ) (i : Nat) : Bool := t.slots[i]?.any (·.inUse)

/-- The places whose timers have ended between `t` and `t'`. -/
def vacated (t t' : TimerTable κ) : List Nat :=
  (List.range t.slots.size).filter fun i => t.isUsed i && !t'.isUsed i

/-- A deed, told with the places that it vacates. -/
def Tells (fire : κ → EStateM Fault σ κ) (t : TimerTable κ) (w : Deed κ × List Nat)
    (t' : TimerTable κ) : Prop := Step fire t w.1 t' ∧ w.2 = t.vacated t'

/-- How often place `i` has been vacated. -/
def vacations (i : Nat) (l : List (Deed κ × List Nat)) : Nat := (l.flatMap (·.2)).count i

theorem vacations_append (i : Nat) (l m : List (Deed κ × List Nat)) :
    vacations i (l ++ m) = vacations i l + vacations i m := by
  rw [vacations, List.flatMap_append, List.count_append]
  rfl

theorem vacations_singleton (i : Nat) (w : Deed κ × List Nat) : vacations i [w] = w.2.count i := by
  rw [vacations, List.flatMap_singleton]

/-! ## The slot of a place -/

/-- What a deed does to a slot: the slot goes on with its generation, or a timer ends in it and the
generation moves on, or a timer begins in it. -/
inductive Ages (s s' : TimerSlot κ) : Prop
  | keeps : s'.inUse = s.inUse → s'.generation = s.generation → Ages s s'
  | ends : s.inUse = true → s'.inUse = false → s'.generation = s.generation + 1 → Ages s s'
  | begins : s.inUse = false → s'.inUse = true → s'.generation = s.generation → Ages s s'

theorem Ages.generation_eq (h : Ages s s') :
    s'.generation = s.generation + if s.inUse && !s'.inUse then 1 else 0 := by
  cases h with
  | keeps hu hg => rw [hg, hu]; simp
  | ends hu hu' hg => rw [hg, hu, hu']; rfl
  | begins hu hu' hg => rw [hg, hu, hu']; simp

theorem ages_advance (s : TimerSlot κ) (kept : Option κ) : Ages s (s.advance kept) := by
  unfold TimerSlot.advance
  by_cases hd : s.IsDue
  · cases ho : s.oneShot with
    | true =>
      rw [if_pos hd]
      exact .ends hd.1.1 rfl rfl
    | false =>
      rw [if_pos hd]
      exact .keeps rfl rfl
  · rw [if_neg hd]
    split
    · exact .keeps rfl rfl
    · exact .keeps rfl rfl

theorem ages_modifySlot (hs : t.slots[i]? = some s) (hu : (f s).inUse = s.inUse)
    (hg : (f s).generation = s.generation) (j : Nat) :
    ∃ s', (t.modifySlot j f).slots[i]? = some s' ∧ Ages s s' := by
  rw [getElem?_modifySlot]
  by_cases hj : j = i
  · rw [if_pos hj, hs]
    exact ⟨_, rfl, .keeps hu hg⟩
  · rw [if_neg hj]
    exact ⟨s, hs, .keeps rfl rfl⟩

theorem ages_update (hs : t.slots[i]? = some s) (hu : (f s).inUse = s.inUse)
    (hg : (f s).generation = s.generation) (id : TimerId) :
    ∃ s', (t.update id f).2.slots[i]? = some s' ∧ Ages s s' := by
  cases h : t.slot? id with
  | none =>
    rw [update, h]
    exact ⟨s, hs, .keeps rfl rfl⟩
  | some u =>
    rw [update_of_slot? h]
    exact ages_modifySlot hs hu hg id.index

theorem ages_release (hs : t.slots[i]? = some s) (id : TimerId) :
    ∃ s', (t.release id).slots[i]? = some s' ∧ Ages s s' := by
  cases h : t.slot? id with
  | none =>
    rw [release, h]
    exact ⟨s, hs, .keeps rfl rfl⟩
  | some u =>
    rw [getElem?_release h]
    by_cases hi : id.index = i
    · obtain ⟨hu, hu', -⟩ := slot?_eq_some_iff.1 h
      obtain rfl : u = s := Option.some.inj (hu.symm.trans (hi ▸ hs))
      rw [if_pos hi, hs]
      exact ⟨_, rfl, .ends hu' rfl rfl⟩
    · rw [if_neg hi]
      exact ⟨s, hs, .keeps rfl rfl⟩

theorem ages_create (ht : t.Sound) (hs : t.slots[i]? = some s) :
    ∃ s', t.create.2.slots[i]? = some s' ∧ Ages s s' := by
  obtain ⟨⟨u, hu, -, hc, ho⟩, hj, -⟩ := create_spec ht
  by_cases hi : i = t.create.1.index
  · subst hi
    obtain rfl : s = u := ho s hs
    exact ⟨s.occupy, hc, .begins hu rfl rfl⟩
  · exact ⟨s, (hj i hi).trans hs, .keeps rfl rfl⟩

theorem ages_defer (ht : t.Sound) (hs : t.slots[i]? = some s) (ticks : Nat) (c : κ) :
    ∃ s', (t.defer ticks c).2.slots[i]? = some s' ∧ Ages s s' := by
  obtain ⟨⟨u, hu, hg, -, ho⟩, -, -⟩ := create_spec ht
  obtain ⟨hc, -, hj, -⟩ := defer_spec ht ticks c
  by_cases hi : i = (t.defer ticks c).1.index
  · subst hi
    obtain rfl : s = u := ho s hs
    exact ⟨_, hc, .begins hu rfl hg.symm⟩
  · exact ⟨s, (hj i hi).trans hs, .keeps rfl rfl⟩

theorem Step.ages (h : Step fire t d t') (ht : t.Sound) (hs : t.slots[i]? = some s) :
    ∃ s', t'.slots[i]? = some s' ∧ Ages s s' := by
  cases h with
  | create => exact ages_create ht hs
  | set id ticks callback => exact ages_update hs rfl rfl id
  | run id => exact ages_update hs rfl rfl id
  | stop id => exact ages_update hs rfl rfl id
  | release id => exact ages_release hs id
  | defer ticks callback => exact ages_defer ht hs ticks callback
  | step h =>
    obtain ⟨⟨kept, hk⟩, -⟩ := stepAll_ok h
    exact ⟨_, by rw [hk.slots, hs]; rfl, ages_advance s (kept i)⟩
  | fault h =>
    obtain ⟨j, kept, hc⟩ := stepAll_error h
    obtain hi | rfl | hi := Nat.lt_trichotomy i j
    · exact ⟨_, by rw [hc.before i hi, hs]; rfl, ages_advance s (kept i)⟩
    · have hi := hc.here
      rw [hs, Option.map_some] at hi
      exact ⟨_, hi, .keeps rfl rfl⟩
    · exact ⟨s, (hc.after i hi).trans hs, .keeps rfl rfl⟩

/-! ## Counting -/

theorem isUsed_of_getElem? (hs : t.slots[i]? = some s) : t.isUsed i = s.inUse := by
  rw [isUsed, hs, Option.any_some]

theorem lt_size_of_isUsed (h : t.isUsed i = true) : i < t.slots.size := by
  by_contra hi
  rw [isUsed, Array.getElem?_eq_none (Nat.le_of_not_lt hi)] at h
  cases h

theorem mem_vacated : i ∈ t.vacated t' ↔ t.isUsed i = true ∧ t'.isUsed i = false := by
  rw [vacated, List.mem_filter, List.mem_range, Bool.and_eq_true, Bool.not_eq_true', and_iff_right_iff_imp]
  exact fun h => lt_size_of_isUsed h.1

theorem nodup_vacated : (t.vacated t').Nodup := List.nodup_range.filter _

theorem count_vacated (hs : t.slots[i]? = some s) (hs' : t'.slots[i]? = some s') :
    (t.vacated t').count i = if s.inUse && !s'.inUse then 1 else 0 := by
  rw [List.Nodup.count nodup_vacated]
  simp [mem_vacated, isUsed_of_getElem? hs, isUsed_of_getElem? hs']

/-- The generation of a slot counts how often its place has been vacated. -/
theorem generation_of_run (h : Run (Tells fire) t l t') (ht : t.Sound) (hs : t.slots[i]? = some s) :
    t'.Sound ∧ ∃ s', t'.slots[i]? = some s' ∧
      s'.generation = s.generation + UInt32.ofNat (vacations i l) := by
  induction h with
  | nil => exact ⟨ht, s, hs, (UInt32.add_zero _).symm⟩
  | @snoc l t₁ t₂ w _ h ih =>
    obtain ⟨ht₁, s₁, hs₁, hg₁⟩ := ih
    obtain ⟨h, hw⟩ := h
    obtain ⟨s₂, hs₂, ha⟩ := h.ages ht₁ hs₁
    refine ⟨h.sound ht₁, s₂, hs₂, ?_⟩
    rw [ha.generation_eq, hg₁, vacations_append, vacations_singleton, hw, count_vacated hs₁ hs₂,
      UInt32.ofNat_add, UInt32.add_assoc]
    split
    · rfl
    · rfl

theorem sound_of_tells (h : Run (Tells fire) (ofCapacity n) l t) : t.Sound :=
  h.invariant (sound_ofCapacity n) fun _ _ _ ht hs => hs.1.sound ht

theorem Step.slot?_of_made (h : Step fire t d t') (ht : t.Sound) (hd : d.made? = some id) :
    ∃ s, t'.slot? id = some s := by
  cases h with
  | create =>
    cases hd
    exact (stands_of_create ht).imp fun _ h => h.1
  | defer ticks callback =>
    cases hd
    exact ⟨_, slot?_eq_some_iff.2 ⟨(defer_spec ht ticks callback).1, rfl, rfl⟩⟩
  | _ => cases hd

theorem add_ofNat_eq_self_iff (a : UInt32) (k : Nat) : a + UInt32.ofNat k = a ↔ UInt32.size ∣ k := by
  rw [← UInt32.toNat_inj, UInt32.toNat_add, UInt32.toNat_ofNat', UInt32.size]
  have := a.toNat_lt
  omega

/-! ## How a timer ends -/

/-- How the timer at place `i` may end: it is released, or it is a deferral that runs out in a step. -/
inductive Ends (t : TimerTable κ) (i : Nat) : Deed κ → Prop
  | released {id : TimerId} : id.index = i → (t.slot? id).isSome = true → Ends t i (.released id)
  | expired {calls : List (TimerId × κ)} : t.isFreed i = true → Ends t i (.stepped calls)
  /-- The step has been ended early by a callback for a later place. -/
  | expiredEarly : t.isFreed i = true → Ends t i .faulted

theorem isUsed_of_slot? (hs : t.slot? id = some s) : t.isUsed id.index = true := by
  obtain ⟨hi, hu, -⟩ := slot?_eq_some_iff.1 hs
  rw [isUsed_of_getElem? hi, hu]

theorem exists_slot?_of_isUsed (h : t.isUsed i = true) : ∃ g s, t.slot? ⟨i, g⟩ = some s := by
  obtain ⟨s, hs, hu⟩ := (Option.any_eq_true _ _).1 h
  exact ⟨s.generation, s, slot?_eq_some_iff.2 ⟨hs, hu, rfl⟩⟩

theorem isUsed_update (hf : ∀ s, (f s).inUse = s.inUse) (id : TimerId) (i : Nat) :
    (t.update id f).2.isUsed i = t.isUsed i := by
  cases h : t.slot? id with
  | none => rw [update, h]
  | some u =>
    rw [update_of_slot? h, isUsed, isUsed, getElem?_modifySlot]
    split
    · rw [Option.any_map]
      congr 1
      exact funext hf
    · rfl

theorem isFreed_iff : t.isFreed i = true ↔ ∃ s, t.slots[i]? = some s ∧ s.IsDue ∧ s.oneShot = true := by
  simp [isFreed, Option.any_eq_true]

/-- No timer ends but in one of these ways. -/
theorem Step.ends (h : Step fire t d t') (ht : t.Sound) (hi : i ∈ t.vacated t') : Ends t i d := by
  obtain ⟨hu, hn⟩ := mem_vacated.1 hi
  obtain ⟨g, s, hs⟩ := exists_slot?_of_isUsed hu
  have hend : ∀ {k : Option κ}, t'.slots[i]? = some (s.advance k) → t.isFreed i = true := by
    intro k hk
    rw [isUsed_of_getElem? hk, TimerSlot.inUse_advance] at hn
    obtain ⟨hi, hu, -⟩ := slot?_eq_some_iff.1 hs
    exact isFreed_iff.2 ⟨s, hi, hn.resolve_left (by simp [hu])⟩
  obtain ⟨hi', hu', -⟩ := slot?_eq_some_iff.1 hs
  cases h with
  | create =>
    rw [isUsed_of_slot? (slot?_create ht hs)] at hn
    cases hn
  | set id ticks callback =>
    rw [show (t.set id ticks callback).2.isUsed i = _ from
      isUsed_update (f := (·.configure ticks callback)) (fun _ => rfl) id i, hu] at hn
    cases hn
  | run id =>
    rw [show (t.run id).2.isUsed i = _ from
      isUsed_update (f := (·.start)) (fun _ => rfl) id i, hu] at hn
    cases hn
  | stop id =>
    rw [show (t.stop id).isUsed i = _ from
      isUsed_update (f := (·.halt)) (fun _ => rfl) id i, hu] at hn
    cases hn
  | release id =>
    cases hid : t.slot? id with
    | none =>
      rw [TimerTable.release, hid, hu] at hn
      cases hn
    | some v =>
      by_cases hne : id.index = i
      · exact .released hne (by rw [hid]; rfl)
      · rw [isUsed, getElem?_release hid, if_neg hne, hi', Option.any_some, hu'] at hn
        cases hn
  | defer ticks callback =>
    rw [isUsed_of_slot? (slot?_defer ht hs ticks callback)] at hn
    cases hn
  | step h =>
    obtain ⟨⟨kept, hk⟩, -⟩ := stepAll_ok h
    have hk := hk.slots i
    rw [hi'] at hk
    exact .expired (hend hk)
  | fault h =>
    obtain ⟨j, kept, hc⟩ := stepAll_error h
    -- the place comes before the one at which the step is cut, is that one, or comes after it
    obtain hij | rfl | hij := Nat.lt_trichotomy i j
    · have hk := hc.before i hij
      rw [hi'] at hk
      exact .expiredEarly (hend hk)
    · have hk := hc.here
      rw [hi', Option.map_some] at hk
      rw [isUsed_of_getElem? hk, hu'] at hn
      cases hn
    · rw [isUsed, hc.after i hij, hi', Option.any_some, hu'] at hn
      cases hn

/-- And each of these ways ends it, unless a callback ends the step before that. -/
theorem Step.mem_vacated_of_ends (h : Step fire t d t') (he : Ends t i d) (hd : d ≠ .faulted) :
    i ∈ t.vacated t' := by
  cases he with
  | @released id hi hs =>
    obtain ⟨s, hs⟩ := Option.isSome_iff_exists.1 hs
    subst hi
    obtain ⟨hi, -, -⟩ := slot?_eq_some_iff.1 hs
    cases h with
    | release => exact mem_vacated.2 ⟨isUsed_of_slot? hs, by rw [isUsed, getElem?_release hs, if_pos rfl, hi]; rfl⟩
  | expired hf =>
    obtain ⟨s, hs, hdue, ho⟩ := isFreed_iff.1 hf
    cases h with
    | step h =>
      obtain ⟨⟨kept, hk⟩, -⟩ := stepAll_ok h
      have hk := hk.slots i
      rw [hs] at hk
      refine mem_vacated.2 ⟨by rw [isUsed_of_getElem? hs, hdue.1.1], ?_⟩
      rw [isUsed_of_getElem? hk]
      exact TimerSlot.inUse_advance.2 (.inr ⟨hdue, ho⟩)
  | expiredEarly => exact absurd rfl hd

/-! ## Ids that address no slot -/

/-- What becomes of an id that addresses no slot: it changes nothing and tells of nothing. -/
structure Ignores (t : TimerTable κ) (id : TimerId) : Prop where
  set (ticks : Nat) (callback : Option κ) : t.set id ticks callback = (false, t)
  run : t.run id = (false, t)
  stop : t.stop id = t
  release : t.release id = t
  isRunning : t.isRunning id = false
  isExpired : t.isExpired id = false
  remaining? : t.remaining? id = none

theorem ignores_of_slot? (h : t.slot? id = none) : t.Ignores id := by
  have hu : ∀ f, t.update id f = (false, t) := fun f => by rw [update, h]
  constructor
  · exact fun ticks callback => hu _
  · exact hu _
  · exact congrArg Prod.snd (hu _)
  · rw [TimerTable.release, h]
  · simp [TimerTable.isRunning, h]
  · simp [TimerTable.isExpired, h]
  · simp [TimerTable.remaining?, h]

/-! ## Recycling on purpose -/

theorem index_create {rest : List Nat} (h : t.free = i :: rest) : t.create.1.index = i := by
  simp [create, claim, h]

/-- A timer that is released makes room for a next one in its slot. -/
theorem exists_recycled_once (ht : t.Sound) (hu : t.isUsed i = true) :
    ∃ m u, Run (Tells fire) t m u ∧ vacations i m = 1 ∧ u.isUsed i = true := by
  obtain ⟨g, s, hs⟩ := exists_slot?_of_isUsed hu
  have h₁ : Tells fire t (.released ⟨i, g⟩, t.vacated (t.release ⟨i, g⟩)) (t.release ⟨i, g⟩) := ⟨.release _, rfl⟩
  let r := t.release ⟨i, g⟩
  have h₂ : Tells fire r (.created r.create.1, r.vacated r.create.2) r.create.2 := ⟨.create, rfl⟩
  have hr : r.Sound := ht.release hs
  have hi : r.create.1.index = i := index_create (free_release hs)
  obtain ⟨hi', hu', -⟩ := slot?_eq_some_iff.1 hs
  have hv : r.slots[i]? = some s.vacate := by rw [getElem?_release hs, if_pos rfl, hi']; rfl
  obtain ⟨v, hc⟩ := h₂.1.slot?_of_made hr rfl
  have hc' := (slot?_eq_some_iff.1 hc).1
  rw [hi] at hc'
  refine ⟨_, _, .cons h₁ (run_singleton_iff.2 h₂), ?_, hi ▸ isUsed_of_slot? hc⟩
  rw [← List.singleton_append, vacations_append, vacations_singleton, vacations_singleton,
    count_vacated hi' hv, count_vacated hv hc', hu']
  rfl

theorem exists_recycled (ht : t.Sound) (hu : t.isUsed i = true) (k : Nat) :
    ∃ m u, Run (Tells fire) t m u ∧ vacations i m = k ∧ u.isUsed i = true := by
  induction k with
  | zero => exact ⟨[], t, .nil, rfl, hu⟩
  | succ k ih =>
    obtain ⟨m, u, hm, hk, hu⟩ := ih
    have hs : u.Sound := hm.invariant ht fun _ _ _ ht hs => hs.1.sound ht
    obtain ⟨m', u', (hm' : Run (Tells fire) u m' u'), hk', hu'⟩ := exists_recycled_once hs hu
    exact ⟨m ++ m', u', hm.append hm', by rw [vacations_append, hk, hk'], hu'⟩

/-- An id that has been given out addresses a slot exactly if its place is in use and has been vacated a
multiple of `UInt32.size` times since. Otherwise it is ignored. A place is vacated when the timer that lives there
is released, and when a deferral that lives there runs out, and in no other way. A place in use may be
vacated and taken again as often as one likes, so a stale id comes to address a successor of its timer. -/
theorem stale_ids (h : Run (Tells fire) (ofCapacity n) (p ++ w :: q) t) (hw : w.1.made? = some id) :
    ((t.slot? id).isSome = true ↔ t.isUsed id.index = true ∧ UInt32.size ∣ vacations id.index q) ∧
    (t.slot? id = none → t.Ignores id) ∧
    (∀ {v : Deed κ × List Nat} {u : TimerTable κ}, Tells fire t v u → ∀ i,
      v.2.count i ≤ 1 ∧ (i ∈ v.2 → Ends t i v.1) ∧ (Ends t i v.1 → v.1 ≠ .faulted → i ∈ v.2)) ∧
    (t.isUsed id.index = true → ∀ k, ∃ m u, Run (Tells fire) t m u ∧
      vacations id.index m = k ∧ u.isUsed id.index = true) := by
  have ht := sound_of_tells h
  refine ⟨?_, ignores_of_slot?, ?_, exists_recycled ht⟩
  · obtain ⟨t₁, h₁, h⟩ := run_append_iff.1 h
    obtain ⟨t₂, ⟨hmade, -⟩, h₂⟩ := run_cons_iff.1 h
    have ht₁ := sound_of_tells h₁
    obtain ⟨s, hs⟩ := hmade.slot?_of_made ht₁ hw
    obtain ⟨hi, -, hg⟩ := slot?_eq_some_iff.1 hs
    obtain ⟨-, s', hs', hg'⟩ := generation_of_run h₂ (hmade.sound ht₁) hi
    rw [hg] at hg'
    have hslot : (t.slot? id).isSome = true ↔ s'.inUse = true ∧ s'.generation = id.generation := by
      rw [Option.isSome_iff_exists]
      constructor
      · rintro ⟨v, hv⟩
        obtain ⟨hv, hu, hg⟩ := slot?_eq_some_iff.1 hv
        obtain rfl : s' = v := Option.some.inj (hs'.symm.trans hv)
        exact ⟨hu, hg⟩
      · exact fun h => ⟨s', slot?_eq_some_iff.2 ⟨hs', h⟩⟩
    rw [hslot, isUsed_of_getElem? hs', hg', add_ofNat_eq_self_iff]
  · rintro v u ⟨hv, hvac⟩ i
    rw [hvac]
    exact ⟨List.nodup_iff_count_le_one.1 nodup_vacated i, hv.ends ht, hv.mem_vacated_of_ends⟩

/-- A callback that answers itself. -/
def echo : Nat → EStateM Fault Unit Nat := fun c => pure c

/-- A table whose one slot has seen `g` timers end and has no timer. -/
def vacant (g : UInt32) : TimerTable Nat :=
  ⟨#[{ generation := g, oneShot := true, duration := 1 }], [0]⟩

/-- The id of a deferral that has run is ignored, though a new timer lives in its slot; and if the slot is
recycled often enough it addresses a timer again. -/
theorem stale_ids_deferral :
    let id : TimerId := ⟨0, 0⟩
    let l : List (Deed Nat × List Nat) := [(.stepped [(id, 7)], [0]), (.created ⟨0, 1⟩, [])]
    ∃ t, Run (Tells echo) (ofCapacity 1) ([] ++ (.deferred id 1 7, []) :: l) t ∧
      t.isUsed 0 = true ∧ t.Ignores id ∧
      ∃ m u, Run (Tells echo) t m u ∧ (u.slot? id).isSome = true := by
  intro id l
  have h₁ : Tells echo (ofCapacity 1) (.deferred id 1 7, []) ((ofCapacity 1).defer 1 7).2 :=
    ⟨.defer 1 7, by decide⟩
  have hstep : stepAll echo (((ofCapacity 1).defer 1 7).2, ()) = .ok 1 (vacant 1, ()) := by rfl
  have h₂ : Tells echo ((ofCapacity 1).defer 1 7).2 (.stepped [(id, 7)], [0]) (vacant 1) :=
    ⟨.step hstep, by decide⟩
  have h₃ : Tells echo (vacant 1) (.created ⟨0, 1⟩, []) (vacant 1).create.2 := ⟨.create, by decide⟩
  have h := Run.cons h₁ (.cons h₂ (run_singleton_iff.2 h₃))
  have hu : (vacant 1).create.2.isUsed 0 = true := by decide
  obtain ⟨-, hignored, -, hrecycle⟩ := stale_ids (p := []) h rfl
  obtain ⟨m, u, hm, hv, hu'⟩ := hrecycle hu (UInt32.size - 1)
  refine ⟨_, h, hu, hignored (by decide), m, u, hm, ?_⟩
  refine (stale_ids (p := []) (q := l ++ m) (h.append hm) rfl).1.2 ⟨hu', ?_⟩
  rw [vacations_append, hv]
  decide

end TimerTable

end LteUe
