import LteUe.Proofs.Runs
import LteUe.Proofs.Timer.Stepping

/-!
# The history of a timer table

What happens to a table in the course of time (`TimerTable.Step`): timers are made, set, started,
stopped and released, deferrals are armed, and the table is stepped, with a callback that may fault.
However that goes on, a table stays sound (`Step.sound`), a timer that is not released keeps its slot
(`Step.stands`), and no deed that is not given its id touches it (`Step.slot?_eq`, `step_advances`).
-/

namespace LteUe

variable {κ σ : Type}

/-- What is done to a table. -/
inductive Deed (κ : Type) where
  | created (id : TimerId)
  | set (id : TimerId) (ticks : Nat) (callback : Option κ)
  | run (id : TimerId)
  | stop (id : TimerId)
  | released (id : TimerId)
  | deferred (id : TimerId) (ticks : Nat) (callback : κ)
  /-- A step that ran these callbacks, each for its timer. -/
  | stepped (calls : List (TimerId × κ))
  /-- A step that a callback ended early. -/
  | faulted

namespace Deed

/-- The timer that a deed is given. A new timer is not given but answered. -/
def given? : Deed κ → Option TimerId
  | set id _ _ | run id | stop id | released id => some id
  | created _ | deferred .. | stepped _ | faulted => none

/-- The callbacks run by a step that ended. -/
def round? : Deed κ → Option (List (TimerId × κ))
  | stepped calls => some calls
  | _ => none

end Deed

/-- The callbacks run, step by step. -/
def rounds (l : List (Deed κ)) : List (List (TimerId × κ)) := l.filterMap (·.round?)

/-- The callbacks run for one timer. -/
def callsOf (id : TimerId) (l : List (TimerId × κ)) : List κ :=
  l.filterMap fun w => if w.1 = id then some w.2 else none

namespace TimerTable

variable {t t' t₁ : TimerTable κ} {id id' : TimerId} {i j n : Nat} {s : TimerSlot κ}
  {f : TimerSlot κ → TimerSlot κ} {fire : κ → EStateM Fault σ κ} {x x' : σ} {e : Fault} {l : List Nat}
  {d : Deed κ}

/-- The call that the next step makes for place `i`. -/
def callAt (t : TimerTable κ) (i : Nat) : Option (TimerId × κ) :=
  t.slots[i]?.bind fun s => s.due?.map (⟨i, s.generation⟩, ·)

/-- The calls that the next step makes, in the order of their places. -/
def calls (t : TimerTable κ) : List (TimerId × κ) := (List.range t.slots.size).filterMap t.callAt

/-- The deeds. A step runs in any context. -/
inductive Step (fire : κ → EStateM Fault σ κ) : TimerTable κ → Deed κ → TimerTable κ → Prop
  | create {t : TimerTable κ} : Step fire t (.created t.create.1) t.create.2
  | set {t : TimerTable κ} (id : TimerId) (ticks : Nat) (callback : Option κ) :
      Step fire t (.set id ticks callback) (t.set id ticks callback).2
  | run {t : TimerTable κ} (id : TimerId) : Step fire t (.run id) (t.run id).2
  | stop {t : TimerTable κ} (id : TimerId) : Step fire t (.stop id) (t.stop id)
  | release {t : TimerTable κ} (id : TimerId) : Step fire t (.released id) (t.release id)
  | defer {t : TimerTable κ} (ticks : Nat) (callback : κ) :
      Step fire t (.deferred (t.defer ticks callback).1 ticks callback) (t.defer ticks callback).2
  | step {t t' : TimerTable κ} {x x' : σ} {n : Nat} :
      stepAll fire (t, x) = .ok n (t', x') → Step fire t (.stepped t.calls) t'
  | fault {t t' : TimerTable κ} {x x' : σ} {e : Fault} :
      stepAll fire (t, x) = .error e (t', x') → Step fire t .faulted t'

/-! ## Calls -/

theorem map_calls (t : TimerTable κ) : t.calls.map (·.2) = t.due := by
  rw [calls, due, List.map_filterMap]
  refine List.filterMap_congr fun i _ => ?_
  rw [callAt, dueAt]
  cases t.slots[i]? with
  | none => rfl
  | some s => simp [Option.map_map, Function.comp_def]

theorem filterMap_ite_eq {β : Type} {l : List Nat} (hl : l.Nodup) (hi : i ∈ l) (o : Option β) :
    (l.filterMap fun j => if j = i then o else none) = o.toList := by
  induction l with
  | nil => simp at hi
  | cons j l ih =>
    rw [List.nodup_cons] at hl
    by_cases hj : j = i
    · subst hj
      have hnone : (l.filterMap fun k => if k = j then o else none) = [] :=
        List.filterMap_eq_nil_iff.2 fun k hk => if_neg fun (hkj : k = j) => hl.1 (hkj ▸ hk)
      cases o <;> simp [hnone]
    · rw [List.filterMap_cons, if_neg hj]
      exact ih hl.2 (List.mem_of_ne_of_mem (Ne.symm hj) hi)

theorem callAt_eq_some_iff {c : κ} :
    t.callAt i = some (id, c) ↔ id.index = i ∧ (t.slot? id).bind (·.due?) = some c := by
  rw [callAt, Option.bind_eq_some_iff, Option.bind_eq_some_iff]
  constructor
  · rintro ⟨s, hs, h⟩
    obtain ⟨c, hc, h⟩ := Option.map_eq_some_iff.1 h
    cases h
    have hd : s.IsDue := by
      by_contra hd
      rw [TimerSlot.due?, if_neg hd] at hc
      cases hc
    exact ⟨rfl, s, slot?_eq_some_iff.2 ⟨hs, hd.1.1, rfl⟩, hc⟩
  · rintro ⟨rfl, s, hs, hc⟩
    obtain ⟨hi, -, hg⟩ := slot?_eq_some_iff.1 hs
    exact ⟨s, hi, by rw [hc, Option.map_some, hg]⟩

theorem callsOf_calls (t : TimerTable κ) (id : TimerId) :
    callsOf id t.calls = ((t.slot? id).bind (·.due?)).toList := by
  have hcall : ∀ i, ((t.callAt i).bind fun w => if w.1 = id then some w.2 else none) =
      if i = id.index then (t.slot? id).bind (·.due?) else none := by
    intro i
    ext c
    have hw : ((t.callAt i).bind fun w => if w.1 = id then some w.2 else none) = some c ↔
        t.callAt i = some (id, c) := by
      rw [Option.bind_eq_some_iff]
      constructor
      · rintro ⟨⟨id', c'⟩, hc, h⟩
        split at h
        · rename_i hid
          cases hid
          cases h
          exact hc
        · cases h
      · exact fun h => ⟨_, h, if_pos rfl⟩
    rw [hw, callAt_eq_some_iff]
    by_cases hi : i = id.index
    · simp [hi]
    · simp [hi, Ne.symm hi]
  rw [callsOf, calls, List.filterMap_filterMap, List.filterMap_congr fun i _ => hcall i]
  by_cases hi : id.index < t.slots.size
  · exact filterMap_ite_eq List.nodup_range (List.mem_range.2 hi) _
  · have hnone : t.slot? id = none := by
      rw [slot?, Array.getElem?_eq_none (Nat.le_of_not_lt hi)]
      rfl
    simp [hnone]

/-! ## Slots that a deed leaves alone -/

theorem slot?_update_self (hs : t.slot? id = some s) (hu : (f s).inUse = s.inUse)
    (hg : (f s).generation = s.generation) : (t.update id f).2.slot? id = some (f s) := by
  obtain ⟨hi, hu', hg'⟩ := slot?_eq_some_iff.1 hs
  rw [update_of_slot? hs, slot?_eq_some_iff, getElem?_modifySlot, if_pos rfl, hi]
  exact ⟨rfl, hu.trans hu', hg.trans hg'⟩

theorem index_ne_of_slot? {s' : TimerSlot κ} (hs : t.slot? id = some s) (hs' : t.slot? id' = some s')
    (h : id' ≠ id) : id'.index ≠ id.index := by
  intro hi
  obtain ⟨h₁, -, hg⟩ := slot?_eq_some_iff.1 hs
  obtain ⟨h₂, -, hg'⟩ := slot?_eq_some_iff.1 hs'
  cases (hi ▸ h₂).symm.trans h₁
  cases id
  cases id'
  simp_all

theorem slot?_update_of_ne (hs : t.slot? id = some s) (h : id' ≠ id) :
    (t.update id' f).2.slot? id = some s := by
  cases hs' : t.slot? id' with
  | none => rwa [update, hs']
  | some s' =>
    rw [update_of_slot? hs', ← hs]
    refine slot?_congr ?_
    rw [getElem?_modifySlot, if_neg (index_ne_of_slot? hs hs' h)]

theorem slot?_release_of_ne (hs : t.slot? id = some s) (h : id' ≠ id) :
    (t.release id').slot? id = some s := by
  cases hs' : t.slot? id' with
  | none => rwa [release, hs']
  | some s' =>
    rw [← hs]
    refine slot?_congr ?_
    rw [getElem?_release hs', if_neg (index_ne_of_slot? hs hs' h)]

theorem slot?_create (ht : t.Sound) (hs : t.slot? id = some s) : t.create.2.slot? id = some s := by
  obtain ⟨hi, hu, -⟩ := slot?_eq_some_iff.1 hs
  obtain ⟨⟨u, hu', -, -, ho⟩, hj, -⟩ := create_spec ht
  have hne : id.index ≠ t.create.1.index := by
    intro h
    rw [ho s (h ▸ hi), hu'] at hu
    cases hu
  rw [← hs]
  exact slot?_congr (hj _ hne)

theorem slot?_defer (ht : t.Sound) (hs : t.slot? id = some s) (ticks : Nat) (c : κ) :
    (t.defer ticks c).2.slot? id = some s := by
  obtain ⟨hi, hu, -⟩ := slot?_eq_some_iff.1 hs
  obtain ⟨-, ho, hj, -⟩ := defer_spec ht ticks c
  have hne : id.index ≠ (t.defer ticks c).1.index := by
    intro h
    rw [ho s (h ▸ hi)] at hu
    cases hu
  rw [← hs]
  exact slot?_congr (hj _ hne)

theorem Sound.update (ht : t.Sound) (hf : ∀ s, (f s).inUse = s.inUse) (id : TimerId) :
    (t.update id f).2.Sound := by
  cases hs : t.slot? id with
  | none => rwa [TimerTable.update, hs]
  | some s =>
    rw [update_of_slot? hs]
    exact ht.modifySlot fun s _ => hf s

theorem Sound.release_any (ht : t.Sound) (id : TimerId) : (t.release id).Sound := by
  cases hs : t.slot? id with
  | none => rwa [TimerTable.release, hs]
  | some s => exact ht.release hs

/-! ## Steps that a callback ends early -/

/-- A callback that faults leaves its timer run out and without a callback. -/
theorem expire_error (h : expire fire i s (t, x) = .error e (t', x')) :
    t' = t.runOut i ∧ ∃ c, s.callback = some c ∧ fire c x = .error e x' := by
  unfold expire at h
  obtain h | ⟨_, y, h₁, h₂⟩ := bind_eq_error_iff.1 h
  · cases h
  obtain rfl : (t.runOut i, x) = y := onTable_eq_ok_iff.1 h₁
  cases hc : s.callback with
  | none => cases ho : s.oneShot <;> simp only [hc, ho] at h₂ <;> cases h₂
  | some c =>
    simp only [hc] at h₂
    obtain h₂ | ⟨k, y, -, h₃⟩ := bind_eq_error_iff.1 h₂
    · simp only [inContext] at h₂
      cases hf : fire c x with
      | ok c' x₁ => simp [hf] at h₂
      | error e' x₁ =>
        simp only [hf] at h₂
        cases h₂
        exact ⟨rfl, c, rfl, hf⟩
    · -- What follows the callback only changes the table.
      cases ho : s.oneShot <;> simp only [ho] at h₃ <;> cases h₃

theorem stepSlot_error (h : stepSlot fire i (t, x) = .error e (t', x')) :
    t' = t.runOut i ∧
      ∃ s c, t.slots[i]? = some s ∧ s.IsDue ∧ s.callback = some c ∧ fire c x = .error e x' := by
  by_cases hr : ∃ s, t.slots[i]? = some s ∧ s.IsRunning
  · obtain ⟨s, hs, hr⟩ := hr
    by_cases h1 : 1 < s.remaining
    · rw [stepSlot_of_running hs hr h1] at h
      cases h
    · rw [stepSlot_of_due hs hr h1] at h
      obtain h | ⟨_, _, -, h⟩ := bind_eq_error_iff.1 h
      · obtain ⟨ht, c, hc, hf⟩ := expire_error h
        exact ⟨ht, s, c, hs, ⟨hr, Nat.le_of_not_lt h1⟩, hc, hf⟩
      · cases h
  · rw [stepSlot_of_not_running fun s hs h => hr ⟨s, hs, h⟩] at h
    cases h

/-- What the advance of one slot keeps, and what a timer that runs out keeps, every step keeps, whether or
not a callback ends it early. -/
theorem stepAll_keeps {P : TimerTable κ → Prop}
    (hok : ∀ {i t x k t' x'}, P t → SteppedAt fire i t x k t' x' → P t')
    (herr : ∀ {t} i, P t → P (t.runOut i)) :
    Moves (fun y y' => P y.1 → P y'.1) (stepAll fire) := by
  have hc : Composes fun y y' : TimerTable κ × σ => P y.1 → P y'.1 := ⟨fun _ => id, fun h h' => h' ∘ h⟩
  have hslot : ∀ i, Moves (fun y y' => P y.1 → P y'.1) (stepSlot fire i) := by
    rintro i ⟨t, x⟩ ht
    unfold outcome
    cases h : stepSlot fire i (t, x) with
    | ok b y =>
      obtain ⟨t', x'⟩ := y
      obtain ⟨⟨k, hk⟩, -⟩ := stepSlot_ok h
      exact hok ht hk
    | error e y =>
      obtain ⟨t', x'⟩ := y
      obtain ⟨rfl, -⟩ := stepSlot_error h
      exact herr i ht
  exact hc.bind hc.get fun y => hc.foldlM fun n i => hc.bind (hslot i) fun b => hc.pure _

theorem Sound.steppedAt {k : Option κ} (ht : t.Sound) (h : SteppedAt fire i t x k t' x') : t'.Sound := by
  have hfreed : t.isFreed i = true → i ∉ t.free := by
    intro hi hfree
    obtain ⟨s, hs, hu⟩ := (ht.mem_free i).1 hfree
    simp only [isFreed, hs, Option.any_some, Bool.and_eq_true, decide_eq_true_eq] at hi
    simp [hi.1.1.1] at hu
  refine ⟨?_, fun j => ?_⟩
  · rw [h.free]
    split
    · rename_i hi
      exact List.nodup_cons.2 ⟨hfreed hi, ht.nodup⟩
    · exact ht.nodup
  · rw [h.free, List.mem_append, ht.mem_free]
    by_cases hj : j = i
    · subst hj
      rw [h.slot, isFreed]
      cases t.slots[j]? with
      | none => simp
      | some s =>
        have := @TimerSlot.inUse_advance κ s k
        by_cases hd : s.IsDue <;> cases ho : s.oneShot <;> simp_all
    · rw [h.other j hj]
      split <;> simp [hj]

theorem Sound.runOut (ht : t.Sound) (i : Nat) : (t.runOut i).Sound := ht.modifySlot fun _ _ => rfl

theorem Step.sound (h : Step fire t d t') (ht : t.Sound) : t'.Sound := by
  cases h with
  | create => exact (create_spec ht).2.2
  | set id ticks callback => exact ht.update (f := (·.configure ticks callback)) (fun _ => rfl) id
  | run id => exact ht.update (f := (·.start)) (fun _ => rfl) id
  | stop id => exact ht.update (f := (·.halt)) (fun _ => rfl) id
  | release id => exact ht.release_any id
  | defer ticks callback => exact (defer_spec ht ticks callback).2.2.2
  | step h => exact (stepAll_keeps Sound.steppedAt fun i h => h.runOut i).of_ok h ht
  | fault h => exact (stepAll_keeps Sound.steppedAt fun i h => h.runOut i).of_error h ht

theorem sound_of_run {l : List (Deed κ)} (h : Run (Step fire) (ofCapacity n) l t) : t.Sound :=
  h.invariant (sound_ofCapacity n) fun _ _ _ ht hs => hs.sound ht

/-- A deed that is not a step leaves a timer alone that it is not given. -/
theorem Step.slot?_eq (h : Step fire t d t') (ht : t.Sound) (hs : t.slot? id = some s)
    (hd : d.given? ≠ some id) (hstep : d.round? = none) (hf : d ≠ .faulted) : t'.slot? id = some s := by
  cases h with
  | create => exact slot?_create ht hs
  | set id' ticks callback => exact slot?_update_of_ne hs fun h => hd (h ▸ rfl)
  | run id' => exact slot?_update_of_ne hs fun h => hd (h ▸ rfl)
  | stop id' => exact slot?_update_of_ne hs fun h => hd (h ▸ rfl)
  | release id' => exact slot?_release_of_ne hs fun h => hd (h ▸ rfl)
  | defer ticks callback => exact slot?_defer ht hs ticks callback
  | step => cases hstep
  | fault => exact absurd rfl hf

/-! ## Timers that keep their slots -/

/-- The timer lives, and does not release itself. -/
def Stands (id : TimerId) (t : TimerTable κ) : Prop := ∃ s, t.slot? id = some s ∧ s.oneShot = false

theorem slot?_advance {k : Option κ} (hs : t.slot? id = some s) (ho : s.oneShot = false)
    (hi : t'.slots[id.index]? = t.slots[id.index]?.map (·.advance k)) :
    t'.slot? id = some (s.advance k) := by
  obtain ⟨hi', hu, hg⟩ := slot?_eq_some_iff.1 hs
  have hu' : (s.advance k).inUse = true := by
    rw [← Bool.not_eq_false, TimerSlot.inUse_advance]
    simp [hu, ho]
  rw [slot?_eq_some_iff, hi, hi']
  exact ⟨rfl, hu', (TimerSlot.generation_advance hu').trans hg⟩

theorem oneShot_advance (ho : s.oneShot = false) (k : Option κ) : (s.advance k).oneShot = false := by
  unfold TimerSlot.advance
  by_cases hd : s.IsDue
  · simp [hd, ho]
  · by_cases hr : s.IsRunning <;> simp [hd, hr, ho]

theorem Stands.steppedAt {k : Option κ} (h : Stands id t) (hk : SteppedAt fire i t x k t' x') :
    Stands id t' := by
  obtain ⟨s, hs, ho⟩ := h
  by_cases hi : i = id.index
  · subst hi
    exact ⟨_, slot?_advance hs ho hk.slot, oneShot_advance ho k⟩
  · exact ⟨s, (slot?_congr (hk.other _ (Ne.symm hi))).trans hs, ho⟩

theorem Stands.runOut (h : Stands id t) (i : Nat) : Stands id (t.runOut i) := by
  obtain ⟨s, hs, ho⟩ := h
  by_cases hi : i = id.index
  · subst hi
    obtain ⟨hi, hu, hg⟩ := slot?_eq_some_iff.1 hs
    exact ⟨_, slot?_eq_some_iff.2 ⟨getElem?_runOut hi, hu, hg⟩, ho⟩
  · exact ⟨s, (slot?_congr (getElem?_runOut_of_ne (Ne.symm hi))).trans hs, ho⟩

theorem Stands.update (h : Stands id t) (hf : ∀ s, (f s).inUse = s.inUse ∧
    (f s).generation = s.generation ∧ (f s).oneShot = s.oneShot) (id' : TimerId) :
    Stands id (t.update id' f).2 := by
  obtain ⟨s, hs, ho⟩ := h
  obtain ⟨hu, hg, ho'⟩ := hf s
  by_cases hid : id' = id
  · subst hid
    exact ⟨f s, slot?_update_self hs hu hg, ho'.trans ho⟩
  · exact ⟨s, slot?_update_of_ne hs hid, ho⟩

theorem Step.stands (h : Step fire t d t') (ht : t.Sound) (hs : Stands id t) (hd : d ≠ .released id) :
    Stands id t' := by
  cases h with
  | create => exact hs.imp fun s hs => ⟨slot?_create ht hs.1, hs.2⟩
  | set id' ticks callback =>
    exact hs.update (f := (·.configure ticks callback)) (fun _ => ⟨rfl, rfl, rfl⟩) id'
  | run id' => exact hs.update (f := (·.start)) (fun _ => ⟨rfl, rfl, rfl⟩) id'
  | stop id' => exact hs.update (f := (·.halt)) (fun _ => ⟨rfl, rfl, rfl⟩) id'
  | release id' => exact hs.imp fun s hs => ⟨slot?_release_of_ne hs.1 fun h => hd (h ▸ rfl), hs.2⟩
  | defer ticks callback => exact hs.imp fun s hs => ⟨slot?_defer ht hs.1 ticks callback, hs.2⟩
  | step h => exact (stepAll_keeps Stands.steppedAt fun i h => h.runOut i).of_ok h hs
  | fault h => exact (stepAll_keeps Stands.steppedAt fun i h => h.runOut i).of_error h hs

theorem stands_of_create (ht : t.Sound) : Stands t.create.1 t.create.2 := by
  obtain ⟨⟨s, -, hg, hs, -⟩, -, -⟩ := create_spec ht
  exact ⟨s.occupy, slot?_eq_some_iff.2 ⟨hs, rfl, hg⟩, rfl⟩

theorem stands_of_run {l : List (Deed κ)} (h : Run (Step fire) t l t') (ht : t.Sound) (hs : Stands id t)
    (hl : .released id ∉ l) : t'.Sound ∧ Stands id t' := by
  induction h with
  | nil => exact ⟨ht, hs⟩
  | snoc h h' ih =>
    rw [List.mem_append, not_or, List.mem_singleton] at hl
    obtain ⟨ht, hs⟩ := ih hl.1
    exact ⟨h'.sound ht, h'.stands ht hs (Ne.symm hl.2)⟩

/-! ## Steps that end -/

theorem foldlM_stepSlot_at (hl : l.Nodup) (hi : i ∈ l)
    (h : (l.foldlM (fun n i => do return if ← stepSlot fire i then n + 1 else n) n :
      EStateM Fault (TimerTable κ × σ) Nat) (t, x) = .ok j (t', x')) :
    ∃ t₁ x₁ k t₂ x₂, SteppedAt fire i t₁ x₁ k t₂ x₂ ∧ t₁.slots[i]? = t.slots[i]? ∧
      t'.slots[i]? = t₂.slots[i]? := by
  induction l generalizing t x n with
  | nil => simp at hi
  | cons a l ih =>
    rw [List.foldlM_cons] at h
    rw [List.nodup_cons] at hl
    obtain ⟨m, ⟨t₁, x₁⟩, h₁, h₂⟩ := bind_eq_ok_iff.1 h
    obtain ⟨b, y, h₁, hm⟩ := bind_eq_ok_iff.1 h₁
    obtain ⟨rfl, rfl⟩ := pure_eq_ok_iff.1 hm
    obtain ⟨⟨k, hk⟩, rfl⟩ := stepSlot_ok h₁
    by_cases hia : i = a
    · subst hia
      obtain ⟨⟨kept, hkept⟩, -⟩ := foldlM_stepSlot hl.2 h₂
      exact ⟨t, x, k, t₁, x₁, hk, rfl, hkept.other i hl.1⟩
    · obtain ⟨u, y, k', u', y', hu, he, he'⟩ := ih hl.2 (List.mem_of_ne_of_mem hia hi) h₂
      exact ⟨u, y, k', u', y', hu, he.trans (hk.other i hia), he'⟩

/-- A step advances a timer by one tick. If its callback is due it is run, and its answer is kept. -/
theorem step_advances (h : Step fire t d t') {fs : List (TimerId × κ)} (hd : d.round? = some fs)
    (hs : t.slot? id = some s) (ho : s.oneShot = false) :
    callsOf id fs = s.due?.toList ∧ ∃ k, t'.slot? id = some (s.advance k) ∧
      ∀ c, s.due? = some c → ∃ c' x x', k = some c' ∧ fire c x = .ok c' x' := by
  cases h with
  | step h =>
    obtain rfl := Option.some.inj hd
    obtain ⟨hi, -, -⟩ := slot?_eq_some_iff.1 hs
    refine ⟨by rw [callsOf_calls, hs]; rfl, ?_⟩
    have hlt : id.index < t.slots.size := (Array.getElem?_eq_some_iff.1 hi).1
    obtain ⟨t₁, x₁, k, t₂, x₂, hk, h₁, h₂⟩ :=
      foldlM_stepSlot_at (n := 0) List.nodup_range (List.mem_range.2 hlt) h
    refine ⟨k, slot?_advance hs ho (by rw [h₂, hk.slot, h₁]), fun c hc => ?_⟩
    obtain ⟨c', hk', hc'⟩ := hk.answered (c := c) (by rw [dueAt, h₁, hi, Option.bind_some, hc])
    exact ⟨c', x₁, x₂, hk', hc'⟩
  | _ => cases hd

end TimerTable

end LteUe
