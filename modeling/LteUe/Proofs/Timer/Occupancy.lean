import LteUe.Proofs.Timer.Leaks
import Mathlib.Order.Bounds.Basic

/-!
# Room for timers

What holds of a table however it has come about (`TimerTable.occupancy`), with any ids given to its deeds and
with callbacks that may fault. Its free list names the slots not in use, each once, and those slots are clear:
idle, and without a callback. A timer is made where none lives, so no two timers share a slot. The table grows
only when all of its slots are in use, so it has as many slots as it had at first or as timers have lived at
once, whichever is more.
-/

namespace LteUe

variable {κ σ : Type}

namespace TimerTable

variable {t t' u : TimerTable κ} {id id' : TimerId} {i n m : Nat} {s : TimerSlot κ} {d : Deed κ}
  {fire : κ → EStateM Fault σ κ} {x x' : σ} {f : Fault} {w w' : Deed κ × List Nat}
  {l q : List (Deed κ × List Nat)}

/-! ## Slots not in use -/

/-- A slot that no timer lives in is idle and has no callback. -/
def Clear (t : TimerTable κ) : Prop :=
  ∀ (i : Nat) (s : TimerSlot κ), t.slots[i]? = some s → s.inUse = false →
    s.state = .idle ∧ s.callback = none

theorem clear_ofCapacity (n : Nat) : (ofCapacity n : TimerTable κ).Clear := by
  intro i s hs _
  rw [ofCapacity, Array.getElem?_replicate] at hs
  split at hs
  · cases hs
    exact ⟨rfl, rfl⟩
  · cases hs

theorem clear_advance {k : Option κ} (hs : s.inUse = false → s.state = .idle ∧ s.callback = none)
    (hu : (s.advance k).inUse = false) :
    (s.advance k).state = .idle ∧ (s.advance k).callback = none := by
  obtain hu | ⟨hd, ho⟩ := TimerSlot.inUse_advance.1 hu
  · obtain ⟨hidle, hnone⟩ := hs hu
    rw [TimerSlot.advance_of_not_running (by rw [hidle]; nofun)]
    exact ⟨hidle, hnone⟩
  · rw [TimerSlot.advance, if_pos hd, ho]
    exact ⟨rfl, rfl⟩

/-- A table stays clear if the only slot that has changed is clear. -/
theorem Clear.of_slot (hc : t.Clear) (hj : ∀ j, j ≠ i → t'.slots[j]? = t.slots[j]?)
    (hi : ∀ s, t'.slots[i]? = some s → s.inUse = false → s.state = .idle ∧ s.callback = none) :
    t'.Clear := by
  intro j s hs
  by_cases hji : j = i
  · exact hi s (hji ▸ hs)
  · exact hc j s (hj j hji ▸ hs)

theorem Clear.update {g : TimerSlot κ → TimerSlot κ} (hc : t.Clear) (hg : ∀ s, (g s).inUse = s.inUse)
    (id : TimerId) : (t.update id g).2.Clear := by
  cases hs : t.slot? id with
  | none => rwa [TimerTable.update, hs]
  | some s =>
    obtain ⟨hi, hu, -⟩ := slot?_eq_some_iff.1 hs
    rw [update_of_slot? hs]
    refine hc.of_slot (i := id.index) (fun j hj => ?_) fun v hv hfalse => ?_
    · rw [getElem?_modifySlot, if_neg (Ne.symm hj)]
    · rw [getElem?_modifySlot, if_pos rfl, hi] at hv
      cases hv
      rw [hg, hu] at hfalse
      cases hfalse

theorem Clear.release (hc : t.Clear) (id : TimerId) : (t.release id).Clear := by
  cases hs : t.slot? id with
  | none => rwa [TimerTable.release, hs]
  | some s =>
    obtain ⟨hi, -, -⟩ := slot?_eq_some_iff.1 hs
    refine hc.of_slot (i := id.index) (fun j hj => ?_) fun v hv _ => ?_
    · rw [getElem?_release hs, if_neg (Ne.symm hj)]
    · rw [getElem?_release hs, if_pos rfl, hi] at hv
      cases hv
      exact ⟨rfl, rfl⟩

theorem Step.clear (h : Step fire t d t') (ht : t.Sound) (hc : t.Clear) : t'.Clear := by
  have hadvance : ∀ {i : Nat} {s : TimerSlot κ} {k : Option κ},
      t'.slots[i]? = t.slots[i]?.map (·.advance k) → t'.slots[i]? = some s →
      s.inUse = false → s.state = .idle ∧ s.callback = none := by
    intro i s k hk hs
    rw [hk] at hs
    obtain ⟨v, hv, rfl⟩ := Option.map_eq_some_iff.1 hs
    exact clear_advance (hc i v hv)
  cases h with
  | create =>
    obtain ⟨⟨v, -, -, hv, -⟩, hj, -⟩ := create_spec ht
    refine hc.of_slot hj fun s hs hu => ?_
    cases hv.symm.trans hs
    cases hu
  | set id ticks callback => exact hc.update (g := (·.configure ticks callback)) (fun _ => rfl) id
  | run id => exact hc.update (g := (·.start)) (fun _ => rfl) id
  | stop id => exact hc.update (g := (·.halt)) (fun _ => rfl) id
  | release id => exact hc.release id
  | defer ticks callback =>
    obtain ⟨hv, -, hj, -⟩ := defer_spec ht ticks callback
    refine hc.of_slot hj fun s hs hu => ?_
    cases hv.symm.trans hs
    cases hu
  | step h =>
    obtain ⟨⟨kept, hk⟩, -⟩ := stepAll_ok h
    exact fun i s => hadvance (hk.slots i)
  | fault h =>
    obtain ⟨j, kept, hcut⟩ := stepAll_error h
    intro i s hs hu
    obtain hij | rfl | hij := Nat.lt_trichotomy i j
    · exact hadvance (hcut.before i hij) hs hu
    · -- The timer whose callback has faulted still lives in its slot.
      obtain ⟨v, _, _, hv, hdue, -⟩ := hcut.fault
      rw [hcut.here, hv] at hs
      cases hs
      exact absurd (hdue.1.1.symm.trans hu) nofun
    · exact hc i s (hcut.after i hij ▸ hs) hu

theorem clear_of_tells (h : Run (Tells fire) (ofCapacity n) l t) : t.Clear := by
  have hstep : ∀ t w t', t.Sound ∧ t.Clear → Tells fire t w t' → t'.Sound ∧ t'.Clear :=
    fun t w t' ht hs => ⟨hs.1.sound ht.1, hs.1.clear ht.1 ht.2⟩
  exact (h.invariant ⟨sound_ofCapacity n, clear_ofCapacity n⟩ hstep).2

/-! ## Which places a cut step vacates -/

/-- A step that a callback ends early vacates the places of the deferrals before it that have run out. -/
theorem CutAt.mem_vacated {kept : Nat → Option κ} (h : CutAt fire m t x kept f t' x') :
    i ∈ t.vacated t' ↔ i < m ∧ t.isFreed i = true := by
  have hstays : t'.isUsed i = t.isUsed i → ¬ i ∈ t.vacated t' := by
    intro h hi
    obtain ⟨hu, hn⟩ := TimerTable.mem_vacated.1 hi
    rw [h, hu] at hn
    cases hn
  obtain hi | rfl | hi := Nat.lt_trichotomy i m
  · rw [TimerTable.mem_vacated, and_iff_right hi, isFreed_iff, isUsed, isUsed, h.before i hi]
    cases hs : t.slots[i]? with
    | none => simp
    | some s =>
      simp only [Option.map_some, Option.any_some, TimerSlot.inUse_advance, Option.some.injEq, exists_eq_left']
      constructor
      · rintro ⟨hu, hn | hd⟩
        · rw [hu] at hn
          cases hn
        · exact hd
      · exact fun hd => ⟨hd.1.1.1, .inr hd⟩
  · refine iff_of_false (hstays ?_) fun hi => Nat.lt_irrefl _ hi.1
    rw [isUsed, isUsed, h.here, Option.any_map]
  · refine iff_of_false (hstays ?_) fun hm => Nat.lt_asymm hi hm.1
    rw [isUsed, isUsed, h.after i hi]

/-! ## Sharing -/

theorem isUsed_of_run (h : Run (Tells fire) t l u) (hi : t.isUsed i = true) (hl : vacations i l = 0) :
    u.isUsed i = true := by
  induction h with
  | nil => exact hi
  | @snoc l t₁ t₂ w _ h ih =>
    rw [vacations_append, Nat.add_eq_zero_iff, vacations_singleton, h.2, List.count_eq_zero] at hl
    by_contra hn
    exact hl.2 (mem_vacated.2 ⟨ih hl.1, Bool.eq_false_iff.2 hn⟩)

/-- When a timer is made at a place, the one made there before has ended. -/
theorem vacations_pos_of_made (h : Run (Tells fire) t (w :: q ++ [w']) u) (ht : t.Sound)
    (hw : w.1.made? = some id) (hw' : w'.1.made? = some id') (hi : id.index = id'.index) :
    0 < vacations id.index q := by
  obtain ⟨t₁, h, hmade'⟩ := run_snoc_iff.1 h
  obtain ⟨t₂, hmade, h⟩ := run_cons_iff.1 h
  have ht₂ := hmade.1.sound ht
  obtain ⟨s, hs⟩ := hmade.1.slot?_of_made ht hw
  by_contra hq
  have hu := isUsed_of_run h (isUsed_of_slot? hs) (Nat.eq_zero_of_not_pos hq)
  rw [hi, hmade'.1.isUsed_of_made (h.invariant ht₂ fun _ _ _ ht hs => hs.1.sound ht) hw'] at hu
  cases hu

/-! ## Growth -/

theorem slots_size_le (h : ∀ i : Nat, t.slots[i]? = none → t'.slots[i]? = none) :
    t'.slots.size ≤ t.slots.size := by
  by_contra hlt
  have hnone := h t.slots.size (Array.getElem?_eq_none (Nat.le_refl _))
  rw [Array.getElem?_eq_getElem (Nat.lt_of_not_le hlt)] at hnone
  cases hnone

theorem Sound.size_of_free (ht : t.Sound) (hf : t.free = []) : t.size = t.slots.size := by
  refine Array.countP_eq_size.2 fun s hs => ?_
  obtain ⟨i, hi, rfl⟩ := Array.mem_iff_getElem.1 hs
  by_contra hu
  have hm := (ht.mem_free i).2 ⟨_, Array.getElem?_eq_getElem hi, Bool.eq_false_iff.2 hu⟩
  rw [hf] at hm
  cases hm

theorem size_le_slots_size (t : TimerTable κ) : t.size ≤ t.slots.size := Array.countP_le_size

theorem slots_size_update (t : TimerTable κ) (id : TimerId) (g : TimerSlot κ → TimerSlot κ) :
    (t.update id g).2.slots.size = t.slots.size := by
  cases hs : t.slot? id with
  | none => rw [update, hs]
  | some s =>
    rw [update_of_slot? hs]
    exact Array.size_modify

/-- A place is handed out by a table as it is, unless all its slots are in use. -/
theorem slots_size_create (t : TimerTable κ) :
    t.create.2.slots.size = t.slots.size ∨
      t.create.2.slots.size = t.slots.size + 1 ∧ t.create.2.free = [] := by
  have hsize : t.create.2.slots.size = t.claim.2.slots.size := Array.size_modify
  have hfree : t.create.2.free = t.claim.2.free := rfl
  rw [hsize, hfree, claim]
  cases t with
  | mk slots free =>
    cases free with
    | nil => exact .inr ⟨Array.size_push _, rfl⟩
    | cons i rest => exact .inl rfl

/-- A deed adds no slot, unless it makes a timer when all slots are in use. -/
theorem Step.slots_size (h : Step fire t d t') (ht : t.Sound) :
    t'.slots.size = t.slots.size ∨ t'.slots.size = t.slots.size + 1 ∧ t'.size = t'.slots.size := by
  have ht' := h.sound ht
  have hle := h.size_le ht
  cases h with
  | create => exact t.slots_size_create.imp_right (And.imp_right ht'.size_of_free)
  | set id ticks callback => exact .inl (t.slots_size_update id _)
  | run id => exact .inl (t.slots_size_update id _)
  | stop id => exact .inl (t.slots_size_update id _)
  | release id =>
    refine .inl (Nat.le_antisymm (slots_size_le fun i hi => ?_) hle)
    cases hs : t.slot? id with
    | none => rwa [TimerTable.release, hs]
    | some s => rw [getElem?_release hs, hi, Option.map_none, ite_self]
  | defer ticks callback =>
    have hsize : (t.defer ticks callback).2.slots.size = t.create.2.slots.size := Array.size_modify
    have hfree : (t.defer ticks callback).2.free = t.create.2.free := rfl
    rw [hsize]
    refine t.slots_size_create.imp_right (And.imp_right fun hf => ?_)
    rw [← hsize]
    exact ht'.size_of_free (hfree.trans hf)
  | step h =>
    obtain ⟨⟨kept, hk⟩, -⟩ := stepAll_ok h
    refine .inl (Nat.le_antisymm (slots_size_le fun i hi => ?_) hle)
    rw [hk.slots, hi]
    rfl
  | fault h =>
    obtain ⟨j, kept, hcut⟩ := stepAll_error h
    refine .inl (Nat.le_antisymm (slots_size_le fun i hi => ?_) hle)
    obtain hij | rfl | hij := Nat.lt_trichotomy i j
    · rw [hcut.before i hij, hi]
      rfl
    · rw [hcut.here, hi]
      rfl
    · rw [hcut.after i hij, hi]

/-- The tables that a run goes through, its first and its last included. -/
def Passes (fire : κ → EStateM Fault σ κ) (t : TimerTable κ) (l : List (Deed κ × List Nat))
    (t' u : TimerTable κ) : Prop :=
  ∃ p q, l = p ++ q ∧ Run (Tells fire) t p u ∧ Run (Tells fire) u q t'

theorem slots_size_le_of_run (h : Run (Tells fire) t l t') (ht : t.Sound) :
    t.slots.size ≤ t'.slots.size := by
  have hstep : ∀ t₁ w t₂, t₁.Sound ∧ t.slots.size ≤ t₁.slots.size → Tells fire t₁ w t₂ →
      t₂.Sound ∧ t.slots.size ≤ t₂.slots.size :=
    fun t₁ w t₂ ht₁ hs => ⟨hs.1.sound ht₁.1, Nat.le_trans ht₁.2 (hs.1.size_le ht₁.1)⟩
  exact (h.invariant ⟨ht, Nat.le_refl _⟩ hstep).2

theorem exists_full_of_run (h : Run (Tells fire) t l t') (ht : t.Sound) :
    t'.slots.size = t.slots.size ∨ ∃ u, Passes fire t l t' u ∧ u.size = t'.slots.size := by
  induction h with
  | nil => exact .inl rfl
  | @snoc l t₁ t₂ w h h' ih =>
    have ht₁ : t₁.Sound := h.invariant ht fun _ _ _ ht hs => hs.1.sound ht
    obtain hsize | ⟨-, hfull⟩ := h'.1.slots_size ht₁
    · rw [hsize]
      refine ih.imp_right fun ⟨u, ⟨p, q, hl, hp, hq⟩, hu⟩ => ⟨u, ⟨p, q ++ [w], ?_, hp, hq.snoc h'⟩, hu⟩
      rw [hl, List.append_assoc]
    · exact .inr ⟨t₂, ⟨l ++ [w], [], (List.append_nil _).symm, h.snoc h', .nil⟩, hfull⟩

/-- The number of slots is the greatest of the first capacity and the numbers of timers that have lived at
once. -/
theorem isGreatest_slots_size (h : Run (Tells fire) (ofCapacity n) l t) :
    IsGreatest {m | m = n ∨ ∃ u, Passes fire (ofCapacity n) l t u ∧ u.size = m} t.slots.size := by
  have hn : (ofCapacity n : TimerTable κ).slots.size = n := Array.size_replicate
  refine ⟨?_, ?_⟩
  · have hm := exists_full_of_run h (sound_ofCapacity n)
    rwa [hn] at hm
  · rintro m (rfl | ⟨u, ⟨p, q, -, hp, hq⟩, rfl⟩)
    · have hle := slots_size_le_of_run h (sound_ofCapacity m)
      rwa [hn] at hle
    · exact Nat.le_trans u.size_le_slots_size (slots_size_le_of_run hq (sound_of_tells hp))

/-! ## The theorem -/

/-- What holds of a table after a run of deeds on a table that had `n` slots, all free. -/
structure Occupied (fire : κ → EStateM Fault σ κ) (n : Nat) (l : List (Deed κ × List Nat))
    (t : TimerTable κ) : Prop where
  /-- The free list names the slots not in use, each once. -/
  sound : t.Sound
  /-- Each of those is idle and has no callback. -/
  clear : t.Clear
  /-- A timer is not made in a slot that is in use. -/
  fresh (w : Deed κ × List Nat) (u : TimerTable κ) (id : TimerId) :
    Tells fire t w u → w.1.made? = some id → t.isUsed id.index = false
  /-- If two timers have been made at one place, the first had ended before the second was made. -/
  apart (p q r : List (Deed κ × List Nat)) (w w' : Deed κ × List Nat) (id id' : TimerId) :
    l = p ++ w :: q ++ w' :: r → w.1.made? = some id → w'.1.made? = some id' →
      id.index = id'.index → 0 < vacations id.index q
  /-- The timers are those made less those whose places have been vacated. -/
  size : t.size + (l.flatMap (·.2)).length = (l.filterMap (·.1.made?)).length
  /-- A deed vacates the place of the timer that it releases, if its id addresses one, or those of the
  deferrals that run out in it, and no other, each once. -/
  vacates (w : Deed κ × List Nat) (u : TimerTable κ) :
    Tells fire t w u → w.1 ≠ .faulted → w.2.Nodup ∧ ∀ i, i ∈ w.2 ↔ Ends t i w.1
  /-- If a callback ends a step early, that vacates the places of the deferrals before it that have run out,
  each once. Its own place stays in use. -/
  vacatesEarly (x : σ) (f : Fault) (u : TimerTable κ) (x' : σ) : stepAll fire (t, x) = .error f (u, x') →
    ∃ m kept, CutAt fire m t x kept f u x' ∧ (t.vacated u).Nodup ∧
      ∀ i, i ∈ t.vacated u ↔ i < m ∧ t.isFreed i = true
  /-- A timer that counts down is a timer. -/
  running : t.runningCount ≤ t.size
  /-- There are as many slots as there were at first or as timers have lived at once. -/
  slots : IsGreatest {m | m = n ∨ ∃ u, Passes fire (ofCapacity n) l t u ∧ u.size = m} t.slots.size

/-- Whatever is done to a table, with whatever ids and callbacks, its free list and its slots stay in step. -/
theorem occupancy (h : Run (Tells fire) (ofCapacity n) l t) : Occupied fire n l t where
  sound := sound_of_tells h
  clear := clear_of_tells h
  fresh w u id hw hd := hw.1.isUsed_of_made (sound_of_tells h) hd
  apart p q r w w' id id' hl hd hd' hi := by
    rw [hl, List.append_cons, run_append_iff] at h
    obtain ⟨t₂, h, -⟩ := h
    rw [List.append_assoc, run_append_iff] at h
    obtain ⟨t₁, hp, h⟩ := h
    exact vacations_pos_of_made h (sound_of_tells hp) hd hd' hi
  size := size_of_run h
  vacates w u := by
    rintro ⟨hw, hv⟩ hd
    rw [hv]
    exact ⟨nodup_vacated, fun i => ⟨hw.ends (sound_of_tells h), fun he => hw.mem_vacated_of_ends he hd⟩⟩
  vacatesEarly x f u x' hstep := by
    obtain ⟨m, kept, hcut⟩ := stepAll_error hstep
    exact ⟨m, kept, hcut, nodup_vacated, fun i => hcut.mem_vacated⟩
  running := Array.countP_mono_left fun s _ hs => (Bool.and_eq_true_iff.1 hs).1
  slots := isGreatest_slots_size h

/-- The slot of a deferral whose callback has faulted is handed out again once the deferral is released. A
release by the id of a timer that was never made changes nothing. -/
theorem occupancy_past_fault :
    let l : List (Deed Nat × List Nat) := toBrink ++
      [(.faulted, []), (.released ⟨5, 0⟩, []), (.released ⟨0, 0⟩, [0]), (.created ⟨0, 1⟩, [])]
    ∃ t, Run (Tells faulty) (ofCapacity 1) l t ∧ t.size = 2 ∧ t.slots.size = 2 ∧ Occupied faulty 1 l t := by
  intro l
  have h₁ : Tells faulty brink (.faulted, []) pastBrink := ⟨.fault stepAll_brink, by decide⟩
  have h₂ : Tells faulty pastBrink (.released ⟨5, 0⟩, []) pastBrink := ⟨.release ⟨5, 0⟩, by decide⟩
  have h₃ : Tells faulty pastBrink (.released ⟨0, 0⟩, [0]) (pastBrink.release ⟨0, 0⟩) :=
    ⟨.release ⟨0, 0⟩, by decide⟩
  have h₄ : Tells faulty (pastBrink.release ⟨0, 0⟩) (.created ⟨0, 1⟩, []) (pastBrink.release ⟨0, 0⟩).create.2 :=
    ⟨.create, by decide⟩
  have h : Run (Tells faulty) (ofCapacity 1) l _ :=
    run_toBrink.append (.cons h₁ (.cons h₂ (.cons h₃ (run_singleton_iff.2 h₄))))
  exact ⟨_, h, by decide, by decide, occupancy h⟩

end TimerTable

end LteUe
