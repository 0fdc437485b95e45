import LteUe.Proofs.Outcome
import LteUe.Proofs.Timer.Slots
import Mathlib.Data.List.Nodup

/-!
# One step of a timer table

A step that no callback ends early runs the callbacks of the timers that are due (`TimerTable.due`),
in the order of their places, and nothing else. Every slot is advanced by one tick on its own
(`TimerSlot.advance`), and the places of the deferrals that have run are free again.
-/

namespace LteUe

variable {κ σ : Type}

namespace TimerSlot

/-- A timer that expires in the next step. -/
def IsDue (s : TimerSlot κ) : Prop := s.IsRunning ∧ s.remaining ≤ 1

instance (s : TimerSlot κ) : Decidable s.IsDue := inferInstanceAs (Decidable (_ ∧ _))

/-- The callback that the next step runs for a slot. -/
def due? (s : TimerSlot κ) : Option κ := if s.IsDue then s.callback else none

/-- The slot after a step in which its callback, if it was run, answered `kept`. -/
def advance (s : TimerSlot κ) (kept : Option κ) : TimerSlot κ :=
  if s.IsDue then
    let expired := { s with remaining := 0, state := .expired, callback := none }
    if s.oneShot then expired.vacate else { expired with callback := kept }
  else if s.IsRunning then { s with remaining := s.remaining - 1 }
  else s

variable {s : TimerSlot κ} {kept : Option κ}

/-- A step takes a timer from its slot if it is a deferral that expires. -/
theorem inUse_advance :
    (s.advance kept).inUse = false ↔ s.inUse = false ∨ s.IsDue ∧ s.oneShot = true := by
  unfold advance
  by_cases hd : s.IsDue
  · have hu := hd.1.1
    cases ho : s.oneShot <;> simp [hd, hu, vacate]
  · by_cases hr : s.IsRunning <;> simp [hd, hr]

theorem generation_advance (h : (s.advance kept).inUse = true) :
    (s.advance kept).generation = s.generation := by
  unfold advance at h ⊢
  by_cases hd : s.IsDue
  · cases ho : s.oneShot <;> simp_all [vacate]
  · by_cases hr : s.IsRunning <;> simp [hd, hr]

end TimerSlot

namespace TimerTable

variable {t t' : TimerTable κ} {i j n : Nat} {s : TimerSlot κ} {fire : κ → EStateM Fault σ κ} {x x' : σ}

/-- Whether the timer at place `i` expires in the next step. -/
def isDue (t : TimerTable κ) (i : Nat) : Bool := t.slots[i]?.any (decide ·.IsDue)

/-- The callback that the next step runs for place `i`. -/
def dueAt (t : TimerTable κ) (i : Nat) : Option κ := t.slots[i]?.bind (·.due?)

/-- Whether the next step frees place `i`. -/
def isFreed (t : TimerTable κ) (i : Nat) : Bool :=
  t.slots[i]?.any fun s => decide s.IsDue && s.oneShot

/-- The callbacks that the next step runs, in the order of their places. -/
def due (t : TimerTable κ) : List κ := (List.range t.slots.size).filterMap t.dueAt

theorem onTable_eq_ok_iff {f : TimerTable κ → TimerTable κ} {u : Unit} {y : TimerTable κ × σ} :
    onTable f (t, x) = .ok u y ↔ (f t, x) = y := by
  show EStateM.Result.ok () (f t, x) = _ ↔ _
  simp

theorem inContext_eq_ok_iff {α : Type} {m : EStateM Fault σ α} {a : α} {y : TimerTable κ × σ} :
    inContext m (t, x) = .ok a y ↔ ∃ x', m x = .ok a x' ∧ (t, x') = y := by
  simp only [inContext]
  cases m x with
  | ok b x' =>
    constructor
    · intro h
      cases h
      exact ⟨x', rfl, rfl⟩
    · rintro ⟨x', h, rfl⟩
      cases h
      rfl
  | error e x' => simp

/-! ## One slot -/

/-- What a step does at one place: it runs the callback that is due there, if there is one, and
advances the slot. -/
structure SteppedAt (fire : κ → EStateM Fault σ κ) (i : Nat) (t : TimerTable κ) (x : σ)
    (kept : Option κ) (t' : TimerTable κ) (x' : σ) : Prop where
  fired : (t.dueAt i).toList.mapM fire x = .ok kept.toList x'
  slot : t'.slots[i]? = t.slots[i]?.map (·.advance kept)
  other (j : Nat) : j ≠ i → t'.slots[j]? = t.slots[j]?
  /-- The place is free again if a deferral has run. -/
  free : t'.free = (if t.isFreed i then [i] else []) ++ t.free

theorem SteppedAt.answered {k : Option κ} {c : κ} (h : SteppedAt fire i t x k t' x')
    (hc : t.dueAt i = some c) : ∃ c', k = some c' ∧ fire c x = .ok c' x' := by
  have hfired := h.fired
  rw [hc, Option.toList_some, List.mapM_cons] at hfired
  obtain ⟨c', y, hc', h⟩ := bind_eq_ok_iff.1 hfired
  obtain ⟨_, _, hnil, h⟩ := bind_eq_ok_iff.1 h
  obtain ⟨rfl, rfl⟩ := pure_eq_ok_iff.1 hnil
  obtain ⟨hk, rfl⟩ := pure_eq_ok_iff.1 h
  cases k with
  | none => cases hk
  | some k =>
    cases hk
    exact ⟨_, rfl, hc'⟩

/-- The table once the timer in slot `s` at place `i` has run out. -/
def runOut (t : TimerTable κ) (i : Nat) : TimerTable κ :=
  t.modifySlot i fun s => { s with remaining := 0, state := .expired, callback := none }

theorem getElem?_runOut (hs : t.slots[i]? = some s) :
    (t.runOut i).slots[i]? = some { s with remaining := 0, state := .expired, callback := none } := by
  rw [runOut, getElem?_modifySlot, if_pos rfl, hs]
  rfl

theorem getElem?_runOut_of_ne (h : j ≠ i) : (t.runOut i).slots[j]? = t.slots[j]? := by
  rw [runOut, getElem?_modifySlot, if_neg (Ne.symm h)]

theorem slot?_runOut (hs : t.slots[i]? = some s) (hu : s.inUse = true) :
    (t.runOut i).slot? ⟨i, s.generation⟩ =
      some { s with remaining := 0, state := .expired, callback := none } := by
  rw [slot?_eq_some_iff, getElem?_runOut hs]
  exact ⟨rfl, hu, rfl⟩

theorem steppedAt_release (hs : t.slots[i]? = some s) (hd : s.IsDue) (ho : s.oneShot = true)
    {kept : Option κ} (hf : s.callback.toList.mapM fire x = .ok kept.toList x') :
    SteppedAt fire i t x kept ((t.runOut i).release ⟨i, s.generation⟩) x' := by
  have hr := slot?_runOut hs hd.1.1
  refine ⟨?_, ?_, ?_, ?_⟩
  · simpa [dueAt, hs, TimerSlot.due?, hd] using hf
  · rw [getElem?_release hr, if_pos rfl, getElem?_runOut hs, hs]
    simp [TimerSlot.advance, hd, ho]
  · intro j hj
    rw [getElem?_release hr, if_neg (Ne.symm hj), getElem?_runOut_of_ne hj]
  · rw [free_release hr]
    simp [isFreed, hs, hd, ho, runOut]

/-- Any other timer that has run out keeps what its callback answers. -/
theorem steppedAt_keep (hs : t.slots[i]? = some s) (hd : s.IsDue) (ho : s.oneShot = false)
    {kept : Option κ} (hf : s.callback.toList.mapM fire x = .ok kept.toList x')
    (hi : t'.slots[i]? = some { s with remaining := 0, state := .expired, callback := kept })
    (hj : ∀ j, j ≠ i → t'.slots[j]? = t.slots[j]?) (hfree : t'.free = t.free) :
    SteppedAt fire i t x kept t' x' := by
  refine ⟨?_, ?_, hj, ?_⟩
  · simpa [dueAt, hs, TimerSlot.due?, hd] using hf
  · rw [hi, hs]
    simp [TimerSlot.advance, hd, ho]
  · simp [isFreed, hs, hd, ho, hfree]

theorem expire_ok (hs : t.slots[i]? = some s) (hd : s.IsDue) {u : Unit}
    (h : expire fire i s (t, x) = .ok u (t', x')) : ∃ kept, SteppedAt fire i t x kept t' x' := by
  unfold expire at h
  obtain ⟨_, y, h₁, h₂⟩ := bind_eq_ok_iff.1 h
  obtain rfl : (t.runOut i, x) = y := onTable_eq_ok_iff.1 h₁
  cases hc : s.callback with
  | none =>
    have hf : s.callback.toList.mapM fire x = .ok (none : Option κ).toList x := by rw [hc]; rfl
    cases ho : s.oneShot with
    | true =>
      simp only [hc, ho, if_true] at h₂
      obtain ⟨rfl, rfl⟩ := Prod.mk.inj (onTable_eq_ok_iff.1 h₂)
      exact ⟨none, steppedAt_release hs hd ho hf⟩
    | false =>
      simp only [hc, ho] at h₂
      obtain ⟨-, h₂⟩ := pure_eq_ok_iff.1 h₂
      obtain ⟨rfl, rfl⟩ := Prod.mk.inj h₂
      exact ⟨none, steppedAt_keep hs hd ho hf (getElem?_runOut hs)
        (fun j hj => getElem?_runOut_of_ne hj) rfl⟩
  | some c =>
    simp only [hc] at h₂
    obtain ⟨k, y, h₂, h₃⟩ := bind_eq_ok_iff.1 h₂
    obtain ⟨x₁, hk, rfl⟩ := inContext_eq_ok_iff.1 h₂
    have hf : s.callback.toList.mapM fire x = .ok (some k).toList x₁ := by
      rw [hc]
      exact bind_eq_ok_iff.2 ⟨k, x₁, hk, rfl⟩
    cases ho : s.oneShot with
    | true =>
      simp only [ho, if_true] at h₃
      obtain ⟨rfl, rfl⟩ := Prod.mk.inj (onTable_eq_ok_iff.1 h₃)
      exact ⟨some k, steppedAt_release hs hd ho hf⟩
    | false =>
      simp only [ho] at h₃
      obtain ⟨_, y, h₃, h₄⟩ := bind_eq_ok_iff.1 h₃
      obtain rfl := onTable_eq_ok_iff.1 h₃
      obtain ⟨-, h₄⟩ := pure_eq_ok_iff.1 h₄
      obtain ⟨rfl, rfl⟩ := Prod.mk.inj h₄
      refine ⟨some k, steppedAt_keep hs hd ho hf ?_ ?_ rfl⟩
      · rw [getElem?_modifySlot, if_pos rfl, getElem?_runOut hs]
        rfl
      · intro j hj
        rw [getElem?_modifySlot, if_neg (Ne.symm hj), getElem?_runOut_of_ne hj]

theorem stepSlot_of_not_running (h : ∀ s, t.slots[i]? = some s → ¬ s.IsRunning) :
    stepSlot fire i (t, x) = .ok false (t, x) := by
  unfold stepSlot
  rw [get_bind]
  cases hs : t.slots[i]? with
  | none => rfl
  | some s =>
    simp only [if_neg (h s hs)]
    rfl

theorem stepSlot_of_running (hs : t.slots[i]? = some s) (hr : s.IsRunning) (h : 1 < s.remaining) :
    stepSlot fire i (t, x) =
      .ok false (t.modifySlot i fun s => { s with remaining := s.remaining - 1 }, x) := by
  unfold stepSlot
  rw [get_bind, hs]
  simp only [if_pos hr, if_pos h]
  rfl

theorem stepSlot_of_due (hs : t.slots[i]? = some s) (hr : s.IsRunning) (h : ¬ 1 < s.remaining) :
    stepSlot fire i (t, x) = (do expire fire i s; return true) (t, x) := by
  unfold stepSlot
  rw [get_bind, hs]
  simp only [if_pos hr, if_neg h]

theorem stepSlot_ok {b : Bool} (h : stepSlot fire i (t, x) = .ok b (t', x')) :
    (∃ kept, SteppedAt fire i t x kept t' x') ∧ b = t.isDue i := by
  by_cases hr : ∃ s, t.slots[i]? = some s ∧ s.IsRunning
  · obtain ⟨s, hs, hr⟩ := hr
    by_cases h1 : 1 < s.remaining
    · rw [stepSlot_of_running hs hr h1] at h
      cases h
      have hd : ¬ s.IsDue := fun hd => Nat.not_le_of_lt h1 hd.2
      refine ⟨⟨none, ?_, ?_, ?_, ?_⟩, ?_⟩
      · simp [dueAt, hs, TimerSlot.due?, hd]
        rfl
      · rw [getElem?_modifySlot, if_pos rfl, hs]
        simp [TimerSlot.advance, hd, hr]
      · intro j hj
        rw [getElem?_modifySlot, if_neg (Ne.symm hj)]
      · simp [isFreed, hs, hd]
      · simp [isDue, hs, hd]
    · have hd : s.IsDue := ⟨hr, Nat.le_of_not_lt h1⟩
      rw [stepSlot_of_due hs hr h1] at h
      obtain ⟨u, y, he, hb⟩ := bind_eq_ok_iff.1 h
      obtain ⟨rfl, rfl⟩ := pure_eq_ok_iff.1 hb
      exact ⟨expire_ok hs hd he, by simp [isDue, hs, hd]⟩
  · have hr : ∀ s, t.slots[i]? = some s → ¬ s.IsRunning := fun s hs h => hr ⟨s, hs, h⟩
    have hd : ∀ s, t.slots[i]? = some s → ¬ s.IsDue := fun s hs hd => hr s hs hd.1
    rw [stepSlot_of_not_running hr] at h
    cases h
    refine ⟨⟨none, ?_, ?_, fun j hj => rfl, ?_⟩, ?_⟩
    · cases hs : t.slots[i]? with
      | none => simp [dueAt, hs]; rfl
      | some s => simp [dueAt, hs, TimerSlot.due?, hd s hs]; rfl
    · cases hs : t.slots[i]? with
      | none => rfl
      | some s => simp [TimerSlot.advance, hd s hs, hr s hs]
    · cases hs : t.slots[i]? with
      | none => simp [isFreed, hs]
      | some s => simp [isFreed, hs, hd s hs]
    · cases hs : t.slots[i]? with
      | none => simp [isDue, hs]
      | some s => simp [isDue, hs, hd s hs]

/-! ## All slots -/

/-- What a step does at some places, one after the other. The callback run for place `i` answers
`kept i`. -/
structure Stepped (fire : κ → EStateM Fault σ κ) (places : List Nat) (t : TimerTable κ) (x : σ)
    (kept : Nat → Option κ) (t' : TimerTable κ) (x' : σ) : Prop where
  fired : (places.filterMap t.dueAt).mapM fire x = .ok (places.filterMap kept) x'
  /-- Each of them answers. -/
  answered (i : Nat) (c : κ) : i ∈ places → t.dueAt i = some c → ∃ c', kept i = some c'
  slot (i : Nat) : i ∈ places → t'.slots[i]? = t.slots[i]?.map (·.advance (kept i))
  other (i : Nat) : i ∉ places → t'.slots[i]? = t.slots[i]?
  /-- The places of the deferrals that have run are free again. -/
  free : t'.free = (places.filter t.isFreed).reverse ++ t.free

theorem Stepped.cons {l : List Nat} {k : Option κ} {kept : Nat → Option κ} {t₁ : TimerTable κ} {x₁ : σ}
    (hi : i ∉ l) (h : SteppedAt fire i t x k t₁ x₁) (h' : Stepped fire l t₁ x₁ kept t' x') :
    Stepped fire (i :: l) t x (fun j => if j = i then k else kept j) t' x' := by
  have hne : ∀ j ∈ l, j ≠ i := fun j hj hji => hi (hji ▸ hj)
  have hdue : l.filterMap t₁.dueAt = l.filterMap t.dueAt :=
    List.filterMap_congr fun j hj => by rw [dueAt, dueAt, h.other j (hne j hj)]
  have hfreed : l.filter t₁.isFreed = l.filter t.isFreed :=
    List.filter_congr fun j hj => by rw [isFreed, isFreed, h.other j (hne j hj)]
  have hkept : (l.filterMap fun j => if j = i then k else kept j) = l.filterMap kept :=
    List.filterMap_congr fun j hj => if_neg (hne j hj)
  have happ : ∀ {β : Type} (f : Nat → Option β), (i :: l).filterMap f = (f i).toList ++ l.filterMap f := by
    intro β f
    cases hf : f i <;> simp [hf]
  refine ⟨?_, ?_, ?_, ?_, ?_⟩
  · rw [happ, happ, if_pos rfl, hkept, List.mapM_append]
    exact bind_eq_ok_iff.2 ⟨_, _, h.fired, bind_eq_ok_iff.2 ⟨_, _, hdue ▸ h'.fired, rfl⟩⟩
  · intro j c hj hc
    by_cases hji : j = i
    · subst hji
      obtain ⟨c', hk, -⟩ := h.answered hc
      exact ⟨c', (if_pos rfl).trans hk⟩
    · rw [if_neg hji]
      refine h'.answered j c (List.mem_of_ne_of_mem hji hj) ?_
      rw [dueAt, h.other j hji, ← dueAt, hc]
  · intro j hj
    by_cases hji : j = i
    · subst hji
      rw [if_pos rfl, h'.other j hi, h.slot]
    · rw [if_neg hji, h'.slot j (List.mem_of_ne_of_mem hji hj), h.other j hji]
  · intro j hj
    rw [List.mem_cons, not_or] at hj
    rw [h'.other j hj.2, h.other j hj.1]
  · rw [h'.free, h.free, hfreed, List.filter_cons]
    split <;> simp

theorem foldlM_stepSlot {l : List Nat} (hl : l.Nodup)
    (h : (l.foldlM (fun n i => do return if ← stepSlot fire i then n + 1 else n) n :
      EStateM Fault (TimerTable κ × σ) Nat) (t, x) = .ok j (t', x')) :
    (∃ kept, Stepped fire l t x kept t' x') ∧ j = n + l.countP t.isDue := by
  induction l generalizing t x n with
  | nil =>
    cases h
    exact ⟨⟨fun _ => none, rfl, by simp, by simp, fun _ _ => rfl, rfl⟩, rfl⟩
  | cons i l ih =>
    rw [List.foldlM_cons] at h
    rw [List.nodup_cons] at hl
    obtain ⟨m, ⟨t₁, x₁⟩, h₁, h₂⟩ := bind_eq_ok_iff.1 h
    obtain ⟨b, y, h₁, hm⟩ := bind_eq_ok_iff.1 h₁
    obtain ⟨rfl, rfl⟩ := pure_eq_ok_iff.1 hm
    obtain ⟨⟨k, hk⟩, rfl⟩ := stepSlot_ok h₁
    obtain ⟨⟨kept, hkept⟩, rfl⟩ := ih hl.2 h₂
    refine ⟨⟨_, hkept.cons hl.1 hk⟩, ?_⟩
    have hdue : l.countP t₁.isDue = l.countP t.isDue := by
      apply List.countP_congr
      intro j hj
      rw [isDue, isDue, hk.other j fun hji => hl.1 (hji ▸ hj)]
    rw [hdue, List.countP_cons]
    split <;> omega

/-- A step that no callback ends early runs exactly the callbacks that are due, in the order of their
places, advances every slot by one tick, and answers with the number of timers that expired. -/
theorem stepAll_ok (h : stepAll fire (t, x) = .ok n (t', x')) :
    (∃ kept, Stepped fire (List.range t.slots.size) t x kept t' x') ∧
      n = (List.range t.slots.size).countP t.isDue := by
  have := foldlM_stepSlot (n := 0) List.nodup_range h
  rwa [Nat.zero_add] at this

theorem Stepped.slots {kept : Nat → Option κ}
    (h : Stepped fire (List.range t.slots.size) t x kept t' x') (i : Nat) :
    t'.slots[i]? = t.slots[i]?.map (·.advance (kept i)) := by
  by_cases hi : i < t.slots.size
  · exact h.slot i (List.mem_range.2 hi)
  · rw [h.other i (by simpa using hi), Array.getElem?_eq_none (Nat.le_of_not_lt hi)]
    rfl

theorem mem_freed : i ∈ (List.range t.slots.size).filter t.isFreed ↔ t.isFreed i = true := by
  rw [List.mem_filter, List.mem_range, and_iff_right_iff_imp]
  intro h
  by_contra hi
  rw [isFreed, Array.getElem?_eq_none (Nat.le_of_not_lt hi)] at h
  cases h

theorem Sound.stepped (h : t.Sound) {kept : Nat → Option κ}
    (hs : Stepped fire (List.range t.slots.size) t x kept t' x') : t'.Sound := by
  have hfree : ∀ i, i ∈ t'.free ↔ t.isFreed i = true ∨ i ∈ t.free := fun i => by
    rw [hs.free, List.mem_append, List.mem_reverse, mem_freed]
  refine ⟨?_, ?_⟩
  · rw [hs.free, List.nodup_append]
    refine ⟨List.nodup_reverse.2 (List.nodup_range.filter _), h.nodup, ?_⟩
    rintro i hi j hj rfl
    obtain ⟨s, hi', hu⟩ := (h.mem_free i).1 hj
    have hf := mem_freed.1 (List.mem_reverse.1 hi)
    rw [isFreed, hi'] at hf
    simp only [Option.any_some, Bool.and_eq_true, decide_eq_true_eq] at hf
    simp [hf.1.1.1] at hu
  · intro i
    rw [hfree, h.mem_free, hs.slots, isFreed]
    cases t.slots[i]? with
    | none => simp
    | some s =>
      have := @TimerSlot.inUse_advance κ s (kept i)
      simp only [Option.map_some, Option.some.injEq, exists_eq_left', this, Option.any_some,
        Bool.and_eq_true, decide_eq_true_eq]
      exact or_comm

end TimerTable

end LteUe
