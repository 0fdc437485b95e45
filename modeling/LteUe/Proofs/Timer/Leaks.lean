import LteUe.Proofs.Timer.Recycling

/-!
# Timers that outlive their callbacks

Every timer that is made lives until its place is vacated, so the size of a table is the number of timers
made less the number of places vacated. A step that a callback ends early advances the timers before that
callback's own, none behind it, and does not release its own. A deferral whose callback faults therefore
keeps its slot: nothing frees it but a release, or another start, by its id (`TimerTable.faults_leak`).
-/

namespace LteUe

variable {κ σ : Type}

theorem TimerSlot.advance_of_not_running {s : TimerSlot κ} (hr : s.state ≠ .running) (k : Option κ) :
    s.advance k = s := by
  have hr : ¬ s.IsRunning := fun h => hr h.2
  rw [advance, if_neg fun h : s.IsDue => hr h.1, if_neg hr]

namespace TimerTable

variable {t t' u : TimerTable κ} {id : TimerId} {i n : Nat} {s : TimerSlot κ} {d : Deed κ}
  {fire : κ → EStateM Fault σ κ} {w : Deed κ × List Nat} {l : List (Deed κ × List Nat)}

/-! ## Counting -/

theorem countP_range_getElem? {α : Type} (p : α → Bool) (l : List α) (hn : l.length ≤ n) :
    (List.range n).countP (fun i => l[i]?.any p) = l.countP p := by
  induction l generalizing n with
  | nil => simp
  | cons a l ih =>
    obtain ⟨m, rfl⟩ := Nat.exists_eq_add_of_lt (Nat.lt_of_lt_of_le (Nat.zero_lt_succ _) hn)
    rw [Nat.zero_add, List.range_succ_eq_map, List.countP_cons, List.countP_cons, List.countP_map,
      ← ih (n := m) (by simpa using hn)]
    rfl

theorem size_eq_countP (hn : t.slots.size ≤ n) : t.size = (List.range n).countP t.isUsed := by
  rw [size, ← Array.countP_toList, ← countP_range_getElem? (n := n) _ _ (by simpa using hn)]
  refine List.countP_congr fun i _ => ?_
  rw [isUsed, Array.getElem?_toList]

theorem length_vacated (hn : t.slots.size ≤ n) :
    (t.vacated t').length = (List.range n).countP fun i => t.isUsed i && !t'.isUsed i := by
  rw [List.countP_eq_length_filter]
  refine List.Perm.length_eq ((List.perm_ext_iff_of_nodup nodup_vacated (List.nodup_range.filter _)).2 fun i => ?_)
  rw [mem_vacated, List.mem_filter, List.mem_range, Bool.and_eq_true, Bool.not_eq_true']
  exact (and_iff_right_of_imp fun h => Nat.lt_of_lt_of_le (lt_size_of_isUsed h.1) hn).symm

theorem countP_add_countP_and_not (p q : Nat → Bool) (l : List Nat) :
    l.countP q + l.countP (fun i => p i && !q i) = l.countP p + l.countP (fun i => q i && !p i) := by
  induction l with
  | nil => rfl
  | cons a l ih =>
    simp only [List.countP_cons]
    cases p a <;> cases q a <;> simp <;> omega

theorem isUsed_release_le (h : (t.release id).isUsed i = true) : t.isUsed i = true := by
  cases hs : t.slot? id with
  | none => rwa [release, hs] at h
  | some v =>
    rw [isUsed, getElem?_release hs] at h
    split at h
    · cases hi : t.slots[i]? with
      | none => simp [hi] at h
      | some s => simp [hi, TimerSlot.vacate] at h
    · exact h

/-- A place that is not in use comes to be in use when a timer is made there, and in no other way. -/
theorem Step.isUsed_of_not (h : Step fire t d t') (ht : t.Sound) (hi : t.isUsed i = false) :
    t'.isUsed i = d.made?.any (·.index == i) := by
  have hadvance : ∀ {k : Nat → Option κ}, t'.slots[i]? = t.slots[i]?.map (·.advance (k i)) →
      t'.isUsed i = false := by
    intro k hk
    cases hs : t.slots[i]? with
    | none => rw [isUsed, hk, hs]; rfl
    | some s =>
      rw [isUsed_of_getElem? hs] at hi
      rw [hs] at hk
      rw [isUsed_of_getElem? hk]
      exact TimerSlot.inUse_advance.2 (.inl hi)
  have hmade : ∀ {id s}, t'.slot? id = some s → (∀ j, j ≠ id.index → t'.slots[j]? = t.slots[j]?) →
      t'.isUsed i = (id.index == i) := by
    intro id s hs hj
    by_cases hid : id.index = i
    · rw [← hid, isUsed_of_slot? hs, beq_self_eq_true]
    · rw [isUsed, hj i (Ne.symm hid), ← isUsed, hi, beq_false_of_ne hid]
  cases h with
  | create =>
    obtain ⟨s, hs⟩ := (Step.create : Step fire t _ _).slot?_of_made ht rfl
    exact hmade hs (create_spec ht).2.1
  | set id ticks callback => exact (isUsed_update (f := (·.configure ticks callback)) (fun _ => rfl) id i).trans hi
  | run id => exact (isUsed_update (f := (·.start)) (fun _ => rfl) id i).trans hi
  | stop id => exact (isUsed_update (f := (·.halt)) (fun _ => rfl) id i).trans hi
  | release id =>
    refine Bool.eq_false_iff.2 fun h => ?_
    rw [isUsed_release_le h] at hi
    cases hi
  | defer ticks callback =>
    obtain ⟨s, hs⟩ := (Step.defer ticks callback : Step fire t _ _).slot?_of_made ht rfl
    exact hmade hs (defer_spec ht ticks callback).2.2.1
  | step h =>
    obtain ⟨⟨kept, hk⟩, -⟩ := stepAll_ok h
    exact hadvance (hk.slots i)
  | fault h =>
    obtain ⟨j, kept, hc⟩ := stepAll_error h
    obtain hij | rfl | hij := Nat.lt_trichotomy i j
    · exact hadvance (hc.before i hij)
    · rw [isUsed, hc.here, Option.any_map]
      exact hi
    · rw [isUsed, hc.after i hij, ← isUsed, hi]
      rfl

theorem Step.size_le (h : Step fire t d t') (ht : t.Sound) : t.slots.size ≤ t'.slots.size := by
  by_contra hlt
  obtain ⟨s, hs, -⟩ := h.ages ht (Array.getElem?_eq_getElem (Nat.lt_of_not_le hlt))
  rw [Array.getElem?_eq_none (Nat.le_refl _)] at hs
  cases hs

theorem Step.isUsed_of_made (h : Step fire t d t') (ht : t.Sound) (hd : d.made? = some id) :
    t.isUsed id.index = false := by
  have hfree : (∀ s, t.slots[id.index]? = some s → s.inUse = false) → t.isUsed id.index = false := by
    intro hu
    cases hs : t.slots[id.index]? with
    | none => rw [isUsed, hs]; rfl
    | some s => rw [isUsed_of_getElem? hs, hu s hs]
  cases h with
  | create =>
    cases hd
    obtain ⟨⟨s, hu, -, -, ho⟩, -, -⟩ := create_spec ht
    exact hfree fun v hv => ho v hv ▸ hu
  | defer ticks callback =>
    cases hd
    exact hfree (defer_spec ht ticks callback).2.1
  | _ => cases hd

/-- A deed adds the timer that it makes, if it makes one, and takes those whose places it vacates. -/
theorem Step.size_add (h : Step fire t d t') (ht : t.Sound) :
    t'.size + (t.vacated t').length = t.size + d.made?.toList.length := by
  have hle := h.size_le ht
  rw [size_eq_countP (Nat.le_refl _), size_eq_countP hle, length_vacated hle, countP_add_countP_and_not]
  congr 1
  cases hd : d.made? with
  | none =>
    refine List.countP_eq_zero.2 fun i _ => ?_
    cases hi : t.isUsed i with
    | false => simp [h.isUsed_of_not ht hi, hd]
    | true => simp
  | some id =>
    have hnew : ∀ i, (t'.isUsed i && !t.isUsed i) = (i == id.index) := by
      intro i
      by_cases hid : i = id.index
      · subst hid
        obtain ⟨s, hs⟩ := h.slot?_of_made ht hd
        simp [isUsed_of_slot? hs, h.isUsed_of_made ht hd]
      · cases hi : t.isUsed i with
        | false => simp [h.isUsed_of_not ht hi, hd, hid, Ne.symm hid]
        | true => simp [hid]
    obtain ⟨s, hs⟩ := h.slot?_of_made ht hd
    have hlt := List.mem_range.2 (lt_size_of_isUsed (isUsed_of_slot? hs))
    rw [List.countP_congr fun i _ => by rw [hnew]]
    exact List.count_eq_one_of_mem List.nodup_range hlt

theorem size_of_run (h : Run (Tells fire) (ofCapacity n) l t) :
    t.size + (l.flatMap (·.2)).length = (l.filterMap (·.1.made?)).length := by
  induction h with
  | nil => simp [size, ofCapacity]
  | @snoc l t₁ t₂ w h h' ih =>
    have hw := h'.1.size_add (sound_of_tells h)
    rw [← h'.2] at hw
    rw [List.flatMap_append, List.flatMap_singleton, List.length_append, List.filterMap_append,
      List.length_append, ← ih]
    have hmade : ([w].filterMap (·.1.made?)).length = w.1.made?.toList.length := by
      cases hd : w.1.made? <;> simp [hd]
    rw [hmade]
    omega

/-! ## Timers that do not run -/

/-- No deed touches a timer that does not run, unless it is given its id. -/
theorem Step.slot?_of_not_running (h : Step fire t d t') (ht : t.Sound) (hs : t.slot? id = some s)
    (hr : s.state ≠ .running) (hd : d.given? ≠ some id) : t'.slot? id = some s := by
  have hrest : ∀ {k : Option κ}, t'.slots[id.index]? = t.slots[id.index]?.map (·.advance k) →
      t'.slot? id = some s := by
    intro k hk
    obtain ⟨hi, hu, hg⟩ := slot?_eq_some_iff.1 hs
    rw [hi, Option.map_some, TimerSlot.advance_of_not_running hr] at hk
    exact slot?_eq_some_iff.2 ⟨hk, hu, hg⟩
  by_cases hstep : d.round? = none ∧ d ≠ .faulted
  · exact h.slot?_eq ht hs hd hstep.1 hstep.2
  cases h with
  | step h =>
    obtain ⟨⟨kept, hk⟩, -⟩ := stepAll_ok h
    exact hrest (hk.slots id.index)
  | fault h =>
    obtain ⟨j, kept, hc⟩ := stepAll_error h
    obtain hij | hij | hij := Nat.lt_trichotomy id.index j
    · exact hrest (hc.before _ hij)
    · obtain ⟨s', -, -, hj, hdue, -⟩ := hc.fault
      obtain rfl : s = s' := Option.some.inj ((slot?_eq_some_iff.1 hs).1.symm.trans (hij ▸ hj))
      exact absurd hdue.1.2 hr
    · exact (slot?_congr (hc.after _ hij)).trans hs
  | _ => exact absurd ⟨rfl, nofun⟩ hstep

theorem slot?_of_run_of_not_running (h : Run (Tells fire) t l u) (ht : t.Sound) (hs : t.slot? id = some s)
    (hr : s.state ≠ .running) (hl : ∀ w ∈ l, w.1.given? ≠ some id) : u.slot? id = some s := by
  have h : u.Sound ∧ u.slot? id = some s := by
    induction h with
    | nil => exact ⟨ht, hs⟩
    | @snoc l t₁ t₂ w h h' ih =>
      obtain ⟨ht₁, hs₁⟩ := ih fun w hw => hl w (List.mem_append_left _ hw)
      have hw := hl w (List.mem_append_right _ (List.mem_singleton_self w))
      exact ⟨h'.1.sound ht₁, h'.1.slot?_of_not_running ht₁ hs₁ hr hw⟩
  exact h.2

/-! ## What a fault leaves -/

/-- Every timer made counts until its place is vacated. A step that no callback ends early runs what is due,
keeps what the callbacks answer and advances every slot. A step that a callback ends early is cut at the place
of that callback, and from then on the timer there stays as the cut has left it, in use and without a callback,
until a deed is given its id. -/
theorem faults_leak (h : Run (Tells fire) (ofCapacity n) l t) :
    t.size + (l.flatMap (·.2)).length = (l.filterMap (·.1.made?)).length ∧
    (∀ {m : Nat} {x : σ} {t' : TimerTable κ} {x' : σ}, stepAll fire (t, x) = .ok m (t', x') →
      ∃ kept, Stepped fire (List.range t.slots.size) t x kept t' x') ∧
    ∀ {f : Fault} {x : σ} {t' : TimerTable κ} {x' : σ}, stepAll fire (t, x) = .error f (t', x') →
      ∃ i kept s, CutAt fire i t x kept f t' x' ∧ t.slots[i]? = some s ∧
        ∀ {p : List (Deed κ × List Nat)} {u : TimerTable κ}, Run (Tells fire) t' p u →
          (∀ w ∈ p, w.1.given? ≠ some ⟨i, s.generation⟩) →
          u.slot? ⟨i, s.generation⟩ =
            some { s with remaining := 0, state := .expired, callback := none } := by
  have ht := sound_of_tells h
  refine ⟨size_of_run h, fun h => (stepAll_ok h).1, fun {f x t' x'} hstep => ?_⟩
  obtain ⟨i, kept, hc⟩ := stepAll_error hstep
  obtain ⟨s, -, -, hs, hdue, -⟩ := hc.fault
  refine ⟨i, kept, s, hc, hs, fun {p u} hp hgiven => ?_⟩
  have hi := hc.here
  rw [hs, Option.map_some] at hi
  have hslot : t'.slot? ⟨i, s.generation⟩ =
      some { s with remaining := 0, state := .expired, callback := none } :=
    slot?_eq_some_iff.2 ⟨hi, hdue.1.1, rfl⟩
  exact slot?_of_run_of_not_running hp ((Step.fault hstep).sound ht) hslot nofun hgiven

/-- A callback that faults. -/
def faulty : Nat → EStateM Fault Unit Nat := fun _ => throw (.raised "callback")

/-- A table in which a deferral of one tick has been armed, and then a timer of two ticks started. -/
def brink : TimerTable Nat :=
  let t := ((ofCapacity 1).defer 1 7).2.create.2
  ((t.set ⟨1, 0⟩ 2 (some 8)).2.run ⟨1, 0⟩).2

/-- How it came about. -/
def toBrink : List (Deed Nat × List Nat) :=
  [(.deferred ⟨0, 0⟩ 1 7, []), (.created ⟨1, 0⟩, []), (.set ⟨1, 0⟩ 2 (some 8), []), (.run ⟨1, 0⟩, [])]

theorem run_toBrink : Run (Tells faulty) (ofCapacity 1) toBrink brink := by
  let t := ((ofCapacity 1).defer 1 7).2
  have h₁ : Tells faulty (ofCapacity 1) (.deferred ⟨0, 0⟩ 1 7, []) t := ⟨.defer 1 7, by decide⟩
  have h₂ : Tells faulty t (.created ⟨1, 0⟩, []) t.create.2 := ⟨.create, by decide⟩
  have h₃ : Tells faulty t.create.2 (.set ⟨1, 0⟩ 2 (some 8), []) (t.create.2.set ⟨1, 0⟩ 2 (some 8)).2 :=
    ⟨.set .., by decide⟩
  have h₄ : Tells faulty (t.create.2.set ⟨1, 0⟩ 2 (some 8)).2 (.run ⟨1, 0⟩, []) brink := ⟨.run _, by decide⟩
  exact .cons h₁ (.cons h₂ (.cons h₃ (run_singleton_iff.2 h₄)))

/-- The table after the step that the deferral ends. -/
def pastBrink : TimerTable Nat := brink.runOut 0

theorem stepAll_brink : stepAll faulty (brink, ()) = .error (.raised "callback") (pastBrink, ()) := by rfl

/-- A deferral whose callback faults keeps its slot, whatever else is done. -/
theorem faults_leak_deferral :
    brink.size = 2 ∧ stepAll faulty (brink, ()) = .error (.raised "callback") (pastBrink, ()) ∧
    ∃ s, ∀ {p u}, Run (Tells faulty) pastBrink p u → (∀ w ∈ p, w.1.given? ≠ some ⟨0, 0⟩) →
      u.slot? ⟨0, 0⟩ = some s := by
  obtain ⟨-, -, hfault⟩ := faults_leak run_toBrink
  obtain ⟨i, kept, s, hc, hs, hleak⟩ := hfault stepAll_brink
  obtain ⟨s', -, -, hs', hdue, -⟩ := hc.fault
  refine ⟨by decide, stepAll_brink, ?_⟩
  match i with
  | 0 =>
    cases hs
    exact ⟨_, hleak⟩
  | 1 =>
    cases hs'
    exact absurd hdue.2 (by decide)
  | i + 2 => cases hs

/-- It does not advance the timers behind it either, so the step does less than a step is to do. -/
theorem faults_cut_short :
    ∃ t f t', Run (Tells faulty) (ofCapacity 1) toBrink t ∧ stepAll faulty (t, ()) = .error f (t', ()) ∧
      t'.size = 2 ∧
      ¬ ∃ kept : Nat → Option Nat, ∀ i : Nat, t'.slots[i]? = t.slots[i]?.map fun s => s.advance (kept i) := by
  refine ⟨brink, _, pastBrink, run_toBrink, stepAll_brink, by decide, ?_⟩
  rintro ⟨kept, hk⟩
  -- The second timer has two ticks to go after the step as before it.
  have h : some 2 = some 1 := congrArg (Option.map fun s : TimerSlot Nat => s.remaining) (hk 1)
  cases h

end TimerTable

end LteUe
