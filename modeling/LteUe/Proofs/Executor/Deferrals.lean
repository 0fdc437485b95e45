import LteUe.Proofs.Runs
import LteUe.Proofs.Timer.Stepping

/-!
# The life of a deferral

A deferral is posted, armed later, and counts down in a slot of the timer table until it is run. Around
it other deferrals are posted and armed, tasks use timers of their own, and the timers are stepped, all
in any order (`Deferrals.Step`). What the deferrals still wait for can be told from the events alone
(`outstanding`), and the table agrees with that whatever has happened (`Accounted`). So each step of the
timers runs exactly the deferrals that are due then (`invoked_perm`).
-/

namespace LteUe

variable {κ : Type}

/-- The timers of an executor, the deferrals posted to it, and the timers in the hands of tasks. -/
structure Deferrals (κ : Type) where
  timers : TimerTable κ
  /-- Deferrals not yet armed, oldest first, each with its ticks. -/
  posted : List (Nat × κ) := []
  /-- The live timers that tasks have made for themselves. -/
  own : List TimerId := []

namespace Deferrals

/-- A new executor with room for `n` timers. -/
def start (n : Nat) : Deferrals κ where
  timers := .ofCapacity n

/-- The timers with some deferrals armed, one after the other. -/
def armAll (t : TimerTable κ) (l : List (Nat × κ)) : TimerTable κ :=
  l.foldl (fun t (ticks, callback) => (t.defer ticks callback).2) t

/-- Arms what is posted. -/
def arm (d : Deferrals κ) : Deferrals κ := { d with timers := armAll d.timers d.posted, posted := [] }

/-- The callback of the deferral at place `i` that the next step of the timers runs. -/
def invokedAt (d : Deferrals κ) (i : Nat) : Option κ :=
  d.timers.slots[i]?.bind fun s => if ⟨i, s.generation⟩ ∈ d.own then none else s.due?

/-- The callbacks of deferrals that the next step of the timers runs. The timers of tasks are left
out. -/
def invoked (d : Deferrals κ) : List κ := (List.range d.timers.slots.size).filterMap d.invokedAt

/-- The state after a step that has left the timers `t`. The timers of tasks that have expired as
deferrals live no more. -/
def stepTo (d : Deferrals κ) (t : TimerTable κ) : Deferrals κ where
  timers := t
  own := d.own.filter fun id => (t.slot? id).isSome

/-- What happens in one step. -/
inductive Event (κ : Type) where
  | posted (ticks : Nat) (callback : κ)
  | armed
  /-- A task used a timer of its own. -/
  | used
  /-- The posted deferrals were armed and the timers stepped, which ran these deferrals. -/
  | stepped (invoked : List κ)

/-- The steps. A task uses live timers of its own only, whatever it does with them; the callbacks that
a step of the timers runs may do anything to the context in which they run, but fault. -/
inductive Step : Deferrals κ → Event κ → Deferrals κ → Prop
  | post {d : Deferrals κ} (ticks : Nat) (callback : κ) :
      Step d (.posted ticks callback) { d with posted := d.posted ++ [(ticks, callback)] }
  | arm {d : Deferrals κ} : Step d .armed d.arm
  | create {d : Deferrals κ} :
      Step d .used { d with timers := d.timers.create.2, own := d.timers.create.1 :: d.own }
  | defer {d : Deferrals κ} (ticks : Nat) (callback : κ) :
      Step d .used
        { d with
          timers := (d.timers.defer ticks callback).2
          own := (d.timers.defer ticks callback).1 :: d.own }
  | set {d : Deferrals κ} {id : TimerId} (ticks : Nat) (callback : Option κ) :
      id ∈ d.own → Step d .used { d with timers := (d.timers.set id ticks callback).2 }
  | run {d : Deferrals κ} {id : TimerId} :
      id ∈ d.own → Step d .used { d with timers := (d.timers.run id).2 }
  | stop {d : Deferrals κ} {id : TimerId} :
      id ∈ d.own → Step d .used { d with timers := d.timers.stop id }
  | release {d : Deferrals κ} {id : TimerId} :
      id ∈ d.own →
        Step d .used { d with timers := d.timers.release id, own := d.own.filter (· ≠ id) }
  | step {d : Deferrals κ} {σ : Type} {fire : κ → EStateM Fault σ κ} {x x' : σ} {n : Nat}
      {t : TimerTable κ} :
      TimerTable.stepAll fire (d.arm.timers, x) = .ok n (t, x') →
        Step d (.stepped d.arm.invoked) (d.arm.stepTo t)

/-! ## What the events say -/

/-- Whether an event steps the timers. -/
def Event.isStepped : Event κ → Bool
  | stepped _ => true
  | _ => false

/-- The number of steps of the timers. -/
def steps (t : List (Event κ)) : Nat := t.countP (·.isStepped)

/-- The deferral that an event posts, and the steps it still waits for when `n` have been made since.
A deferral by no ticks waits for one step. -/
def Event.waits (n : Nat) : Event κ → Option (Nat × κ)
  | posted ticks callback => if n < max ticks 1 then some (max ticks 1 - n, callback) else none
  | _ => none

/-- The deferrals posted and not yet run, with the steps that each still waits for. -/
def outstanding : List (Event κ) → List (Nat × κ)
  | [] => []
  | e :: t => (e.waits (steps t)).toList ++ outstanding t

/-- The deferral that an event posts, if `n` steps have been made since and the next one has to run
it. -/
def Event.due? (n : Nat) : Event κ → Option κ
  | posted ticks callback => if n + 1 = max ticks 1 then some callback else none
  | _ => none

/-- The deferrals that the step after the events `t` has to run: those by `ticks` of which `ticks - 1`
steps have been made since they were posted. -/
def due : List (Event κ) → List κ
  | [] => []
  | e :: t => (e.due? (steps t)).toList ++ due t

/-- What is left to wait for after one more step; nothing if the deferral is run in it. -/
def wait (w : Nat × κ) : Option (Nat × κ) := if w.1 ≤ 1 then none else some (w.1 - 1, w.2)

/-- The callback that the next step runs. -/
def ripe (w : Nat × κ) : Option κ := if w.1 ≤ 1 then some w.2 else none

variable {d d' : Deferrals κ} {e : Event κ} {t l : List (Event κ)} {i : Nat} {c : κ}

theorem ripe_of_le {n : Nat} (h : n ≤ 1) : ripe (n, c) = some c := if_pos h

theorem ripe_of_lt {n : Nat} (h : 1 < n) : ripe (n, c) = none := if_neg (Nat.not_le_of_lt h)

theorem wait_of_le {n : Nat} (h : n ≤ 1) : wait (n, c) = none := if_pos h

theorem wait_of_lt {n : Nat} (h : 1 < n) : wait (n, c) = some (n - 1, c) :=
  if_neg (Nat.not_le_of_lt h)

theorem Event.due?_eq (e : Event κ) (n : Nat) : e.due? n = (e.waits n).bind ripe := by
  cases e with
  | posted ticks callback =>
    simp only [due?, waits]
    by_cases h : n < max ticks 1
    · rw [if_pos h, Option.bind_some]
      by_cases h1 : n + 1 = max ticks 1
      · rw [if_pos h1, ripe_of_le (by omega)]
      · rw [if_neg h1, ripe_of_lt (by omega)]
    · rw [if_neg h, if_neg (by omega)]
      rfl
  | _ => rfl

theorem Event.waits_succ (e : Event κ) (n : Nat) : e.waits (n + 1) = (e.waits n).bind wait := by
  cases e with
  | posted ticks callback =>
    simp only [waits]
    by_cases h : n < max ticks 1
    · rw [if_pos h, Option.bind_some]
      by_cases h1 : n + 1 < max ticks 1
      · rw [if_pos h1, wait_of_lt (by omega), Nat.sub_sub]
      · rw [if_neg h1, wait_of_le (by omega)]
    · rw [if_neg h, if_neg (by omega)]
      rfl
  | _ => rfl

theorem filterMap_toList {β γ : Type} (o : Option β) (f : β → Option γ) :
    o.toList.filterMap f = (o.bind f).toList := by
  cases o with
  | none => rfl
  | some b => cases h : f b <;> simp [h]

theorem due_eq (t : List (Event κ)) : due t = (outstanding t).filterMap ripe := by
  induction t with
  | nil => rfl
  | cons e t ih =>
    rw [due, outstanding, List.filterMap_append, ih, e.due?_eq, filterMap_toList]

theorem steps_append (l t : List (Event κ)) : steps (l ++ t) = steps l + steps t :=
  List.countP_append

theorem outstanding_append_singleton (t : List (Event κ)) (he : e.isStepped = false) :
    outstanding (t ++ [e]) = outstanding t ++ (e.waits 0).toList := by
  induction t with
  | nil => simp [outstanding, steps]
  | cons e' t ih =>
    have hs : steps (t ++ [e]) = steps t := by
      rw [steps_append]
      simp [steps, he]
    rw [List.cons_append, outstanding, outstanding, ih, hs, List.append_assoc]

theorem outstanding_append_stepped (t : List (Event κ)) (l : List κ) :
    outstanding (t ++ [.stepped l]) = (outstanding t).filterMap wait := by
  induction t with
  | nil => rfl
  | cons e t ih =>
    have hs : steps (t ++ [.stepped l]) = steps t + 1 := steps_append t _
    rw [List.cons_append, outstanding, outstanding, ih, hs, List.filterMap_append, e.waits_succ,
      filterMap_toList]

/-! ## What the table says -/

/-- The deferral at place `i`, with the steps it still waits for. -/
def awaitedAt (d : Deferrals κ) (i : Nat) : Option (Nat × κ) :=
  d.timers.slots[i]?.bind fun s =>
    if s.inUse = true ∧ ⟨i, s.generation⟩ ∉ d.own then s.callback.map fun c => (max s.remaining 1, c)
    else none

/-- The deferrals that are armed, with the steps that each still waits for. -/
def awaited (d : Deferrals κ) : List (Nat × κ) :=
  (List.range d.timers.slots.size).filterMap d.awaitedAt

theorem awaitedAt_eq_none (h : d.timers.slots.size ≤ i) : d.awaitedAt i = none := by
  rw [awaitedAt, Array.getElem?_eq_none h]
  rfl

theorem awaited_eq {n : Nat} (hn : d.timers.slots.size ≤ n) :
    d.awaited = (List.range n).filterMap d.awaitedAt := by
  obtain ⟨k, rfl⟩ := Nat.exists_eq_add_of_le hn
  have hk : ((List.range k).map (d.timers.slots.size + ·)).filterMap d.awaitedAt = [] := by
    rw [List.filterMap_eq_nil_iff]
    intro i hi
    obtain ⟨j, -, rfl⟩ := List.mem_map.1 hi
    exact awaitedAt_eq_none (Nat.le_add_right ..)
  rw [List.range_add, List.filterMap_append, hk, List.append_nil, awaited]

theorem awaited_filterMap {f : Nat × κ → Option (Nat × κ)}
    (h : ∀ i, d'.awaitedAt i = (d.awaitedAt i).bind f) : d'.awaited = d.awaited.filterMap f := by
  rw [awaited_eq (Nat.le_max_left _ d.timers.slots.size),
    awaited_eq (Nat.le_max_right d'.timers.slots.size _), List.filterMap_filterMap]
  exact List.filterMap_congr fun i _ => h i

theorem awaited_congr (h : ∀ i, d'.awaitedAt i = d.awaitedAt i) : d'.awaited = d.awaited := by
  have hs : d'.awaited = d.awaited.filterMap some :=
    awaited_filterMap fun i => by rw [h]; cases d.awaitedAt i <;> rfl
  rw [hs, List.filterMap_some]

theorem awaited_insert {w : Nat × κ} (hi : d.awaitedAt i = none) (hi' : d'.awaitedAt i = some w)
    (h : ∀ j, j ≠ i → d'.awaitedAt j = d.awaitedAt j) : d'.awaited.Perm (w :: d.awaited) := by
  rw [awaited_eq (Nat.le_max_left _ d.timers.slots.size),
    awaited_eq (Nat.le_max_right d'.timers.slots.size _)]
  generalize hn : max d'.timers.slots.size d.timers.slots.size = n
  have hin : i < n := by
    apply Nat.lt_of_not_le
    intro hni
    rw [awaitedAt_eq_none (by omega)] at hi'
    cases hi'
  obtain ⟨l, r, hlr⟩ := List.append_of_mem (List.mem_range.2 hin)
  have hnd : (l ++ i :: r).Nodup := hlr ▸ List.nodup_range
  have hl : ∀ j ∈ l ++ r, d'.awaitedAt j = d.awaitedAt j := fun j hj => by
    apply h j
    intro hji
    have := (List.nodup_middle.1 hnd)
    rw [List.nodup_cons] at this
    exact this.1 (hji ▸ hj)
  rw [hlr, List.filterMap_append, List.filterMap_append, List.filterMap_cons_some hi',
    List.filterMap_cons_none hi]
  rw [List.filterMap_congr fun j hj => hl j (List.mem_append_left _ hj),
    List.filterMap_congr fun j hj => hl j (List.mem_append_right _ hj)]
  exact List.perm_middle

/-! ## The invariant -/

/-- What holds of the timers whatever has happened: the table is sound, the timers of tasks live, and
every other timer is a deferral that counts down. -/
structure Inv (d : Deferrals κ) : Prop where
  /-- The free list is in order. -/
  sound : d.timers.Sound
  /-- The timers of tasks live. -/
  live (id : TimerId) : id ∈ d.own → ∃ s, d.timers.slot? id = some s
  /-- All others are deferrals, and count down. -/
  counting (i : Nat) (s : TimerSlot κ) : d.timers.slots[i]? = some s → s.inUse = true →
    ⟨i, s.generation⟩ ∉ d.own → s.oneShot = true ∧ s.state = .running ∧ ∃ c, s.callback = some c

theorem inv_start (n : Nat) : (start n : Deferrals κ).Inv where
  sound := TimerTable.sound_ofCapacity n
  live id h := by cases h
  counting i s h hu := by
    simp only [start, TimerTable.ofCapacity, Array.getElem?_replicate] at h
    split at h
    · cases h
      cases hu
    · cases h

theorem awaited_start (n : Nat) : (start n : Deferrals κ).awaited = [] := by
  refine List.filterMap_eq_nil_iff.2 fun i _ => ?_
  simp only [awaitedAt, start, TimerTable.ofCapacity, Array.getElem?_replicate]
  split
  · rfl
  · rfl

theorem Inv.post (h : d.Inv) (l : List (Nat × κ)) : { d with posted := l }.Inv :=
  ⟨h.sound, h.live, h.counting⟩

/-- A new timer in a slot that nobody uses leaves the others alone. -/
structure Fresh (t : TimerTable κ) (id : TimerId) (t' : TimerTable κ) (s : TimerSlot κ) : Prop where
  sound : t'.Sound
  slot : t'.slots[id.index]? = some s
  inUse : s.inUse = true
  generation : s.generation = id.generation
  vacant (u : TimerSlot κ) : t.slots[id.index]? = some u → u.inUse = false
  /-- All others stay as they are. -/
  other (j : Nat) : j ≠ id.index → t'.slots[j]? = t.slots[j]?

theorem fresh_create {t : TimerTable κ} (h : t.Sound) :
    ∃ s, Fresh t t.create.1 t.create.2 s := by
  obtain ⟨⟨s, hu, hg, hs, ho⟩, hj, hsound⟩ := TimerTable.create_spec h
  exact ⟨s.occupy, hsound, hs, rfl, hg, fun u hu' => ho u hu' ▸ hu, hj⟩

theorem fresh_defer {t : TimerTable κ} (h : t.Sound) (ticks : Nat) (c : κ) :
    Fresh t (t.defer ticks c).1 (t.defer ticks c).2
      (TimerTable.deferralSlot (t.defer ticks c).1.generation ticks c) := by
  obtain ⟨hs, hu, hj, hsound⟩ := TimerTable.defer_spec h ticks c
  exact ⟨hsound, hs, rfl, rfl, hu, hj⟩

section Fresh

variable {t' : TimerTable κ} {id : TimerId} {s : TimerSlot κ}

theorem Inv.not_mem_own (h : d.Inv) (hf : Fresh d.timers id t' s) : id ∉ d.own := by
  intro hid
  obtain ⟨u, hu⟩ := h.live id hid
  obtain ⟨hu, hu', -⟩ := TimerTable.slot?_eq_some_iff.1 hu
  simp [hf.vacant u hu] at hu'

theorem Fresh.slot?_eq (hf : Fresh d.timers id t' s) (h : d.Inv) {id' : TimerId} (hid : id' ∈ d.own) :
    t'.slot? id' = d.timers.slot? id' := by
  refine TimerTable.slot?_congr (hf.other _ fun hi => ?_)
  obtain ⟨u, hu⟩ := h.live id' hid
  obtain ⟨hu, hu', -⟩ := TimerTable.slot?_eq_some_iff.1 hu
  simp [hf.vacant u (hi ▸ hu)] at hu'

theorem Fresh.awaitedAt_eq_none (hf : Fresh d.timers id t' s) : d.awaitedAt id.index = none := by
  rw [awaitedAt]
  cases hs : d.timers.slots[id.index]? with
  | none => rfl
  | some u => simp [hf.vacant u hs]

theorem Inv.own (h : d.Inv) (hf : Fresh d.timers id t' s) :
    { d with timers := t', own := id :: d.own }.Inv ∧
      { d with timers := t', own := id :: d.own }.awaited = d.awaited := by
  refine ⟨⟨hf.sound, ?_, ?_⟩, awaited_congr ?_⟩
  · intro id' hid
    rcases List.mem_cons.1 hid with rfl | hid
    · exact ⟨s, TimerTable.slot?_eq_some_iff.2 ⟨hf.slot, hf.inUse, hf.generation⟩⟩
    · rw [hf.slot?_eq h hid]
      exact h.live id' hid
  · intro i u hi hu hown
    by_cases hne : i = id.index
    · subst hne
      obtain rfl : s = u := Option.some.inj (hf.slot.symm.trans hi)
      exact absurd (List.mem_cons.2 (.inl (by rw [hf.generation]))) hown
    · rw [hf.other i hne] at hi
      exact h.counting i u hi hu fun hm => hown (List.mem_cons_of_mem _ hm)
  · intro i
    by_cases hne : i = id.index
    · subst hne
      rw [hf.awaitedAt_eq_none, awaitedAt, hf.slot]
      simp [hf.generation]
    · rw [awaitedAt, awaitedAt, hf.other i hne]
      cases d.timers.slots[i]? with
      | none => rfl
      | some u =>
        have : (⟨i, u.generation⟩ : TimerId) ≠ id := fun hid => hne (hid ▸ rfl)
        simp [this]

theorem Inv.armOne (h : d.Inv) (ticks : Nat) (c : κ) :
    { d with timers := (d.timers.defer ticks c).2 }.Inv ∧
      ({ d with timers := (d.timers.defer ticks c).2 }.awaited).Perm ((max ticks 1, c) :: d.awaited) := by
  have hf := fresh_defer h.sound ticks c
  have hown := h.not_mem_own hf
  refine ⟨⟨hf.sound, fun id' hid => ?_, fun i u hi hu hown => ?_⟩,
    awaited_insert hf.awaitedAt_eq_none ?_ fun j hj => ?_⟩
  · rw [hf.slot?_eq h hid]
    exact h.live id' hid
  · by_cases hne : i = (d.timers.defer ticks c).1.index
    · subst hne
      cases hf.slot.symm.trans hi
      exact ⟨rfl, rfl, c, rfl⟩
    · exact h.counting i u (hf.other i hne ▸ hi) hu hown
  · rw [awaitedAt, hf.slot, Option.bind_some]
    exact if_pos ⟨rfl, hown⟩
  · rw [awaitedAt, awaitedAt, hf.other j hj]

end Fresh

/-! ## What tasks do with their timers -/

section Own

variable {id : TimerId} {s : TimerSlot κ} {f : TimerSlot κ → TimerSlot κ}

theorem Inv.eq_of_index (h : d.Inv) {id' : TimerId} (hid : id ∈ d.own) (hid' : id' ∈ d.own)
    (hi : id.index = id'.index) : id = id' := by
  obtain ⟨s, hs⟩ := h.live id hid
  obtain ⟨s', hs'⟩ := h.live id' hid'
  obtain ⟨hs, -, hg⟩ := TimerTable.slot?_eq_some_iff.1 hs
  obtain ⟨hs', -, hg'⟩ := TimerTable.slot?_eq_some_iff.1 hs'
  cases (hi ▸ hs).symm.trans hs'
  cases id
  cases id'
  simp_all

/-- What a task does to a timer of its own, short of releasing it, leaves the deferrals alone. -/
theorem Inv.modify (h : d.Inv) (hid : id ∈ d.own)
    (hf : ∀ s : TimerSlot κ, (f s).inUse = s.inUse ∧ (f s).generation = s.generation) :
    { d with timers := d.timers.modifySlot id.index f }.Inv ∧
      { d with timers := d.timers.modifySlot id.index f }.awaited = d.awaited := by
  obtain ⟨s, hs⟩ := h.live id hid
  obtain ⟨hs, hu, hg⟩ := TimerTable.slot?_eq_some_iff.1 hs
  have hself : (d.timers.modifySlot id.index f).slots[id.index]? = some (f s) := by
    rw [TimerTable.getElem?_modifySlot, if_pos rfl, hs]
    rfl
  have hother : ∀ j, j ≠ id.index → (d.timers.modifySlot id.index f).slots[j]? = d.timers.slots[j]? :=
    fun j hj => by rw [TimerTable.getElem?_modifySlot, if_neg (Ne.symm hj)]
  have hown : (⟨id.index, (f s).generation⟩ : TimerId) ∈ d.own := by
    rw [(hf s).2, hg]
    exact hid
  refine ⟨⟨h.sound.modifySlot fun u _ => (hf u).1, fun id' hid' => ?_, fun i u hi hu' hn => ?_⟩,
    awaited_congr fun i => ?_⟩
  · by_cases hi : id'.index = id.index
    · obtain rfl := h.eq_of_index hid' hid hi
      exact ⟨f s, TimerTable.slot?_eq_some_iff.2 ⟨hself, (hf s).1.trans hu, (hf s).2.trans hg⟩⟩
    · obtain ⟨u, hu'⟩ := h.live id' hid'
      exact ⟨u, (TimerTable.slot?_congr (hother _ hi)).trans hu'⟩
  · by_cases hne : i = id.index
    · subst hne
      obtain rfl : f s = u := Option.some.inj (hself.symm.trans hi)
      exact absurd hown hn
    · exact h.counting i u (hother i hne ▸ hi) hu' hn
  · by_cases hne : i = id.index
    · subst hne
      have hown' : (⟨id.index, s.generation⟩ : TimerId) ∈ d.own := by
        rw [hg]
        exact hid
      rw [awaitedAt, awaitedAt, hself, hs]
      simp [hown, hown']
    · rw [awaitedAt, awaitedAt, hother i hne]

theorem Inv.update (h : d.Inv) (hid : id ∈ d.own)
    (hf : ∀ s : TimerSlot κ, (f s).inUse = s.inUse ∧ (f s).generation = s.generation) :
    { d with timers := (d.timers.update id f).2 }.Inv ∧
      { d with timers := (d.timers.update id f).2 }.awaited = d.awaited := by
  obtain ⟨s, hs⟩ := h.live id hid
  rw [TimerTable.update_of_slot? hs]
  exact h.modify hid hf

/-- A task that releases a timer of its own leaves the deferrals alone. -/
theorem Inv.release (h : d.Inv) (hid : id ∈ d.own) :
    { d with timers := d.timers.release id, own := d.own.filter (· ≠ id) }.Inv ∧
      { d with timers := d.timers.release id, own := d.own.filter (· ≠ id) }.awaited = d.awaited := by
  obtain ⟨s, hs⟩ := h.live id hid
  obtain ⟨hi, hu, hg⟩ := TimerTable.slot?_eq_some_iff.1 hs
  have hself : (d.timers.release id).slots[id.index]? = some s.vacate := by
    rw [TimerTable.getElem?_release hs, if_pos rfl, hi]
    rfl
  have hother : ∀ j, j ≠ id.index → (d.timers.release id).slots[j]? = d.timers.slots[j]? :=
    fun j hj => by rw [TimerTable.getElem?_release hs, if_neg (Ne.symm hj)]
  have hne_id : ∀ {j : Nat} {g : UInt32}, j ≠ id.index → (⟨j, g⟩ : TimerId) ≠ id :=
    fun hj hjg => hj (hjg ▸ rfl)
  refine ⟨⟨h.sound.release hs, fun id' hid' => ?_, fun i u hi' hu' hn => ?_⟩,
    awaited_congr fun i => ?_⟩
  · obtain ⟨hid', hne⟩ : id' ∈ d.own ∧ id' ≠ id := by simpa using hid'
    have hidx : id'.index ≠ id.index := fun hidx => hne (h.eq_of_index hid' hid hidx)
    obtain ⟨u, hu'⟩ := h.live id' hid'
    exact ⟨u, (TimerTable.slot?_congr (hother _ hidx)).trans hu'⟩
  · by_cases hne : i = id.index
    · subst hne
      obtain rfl : s.vacate = u := Option.some.inj (hself.symm.trans hi')
      cases hu'
    · refine h.counting i u (hother i hne ▸ hi') hu' fun hm => hn ?_
      simp [hm, hne_id hne]
  · by_cases hne : i = id.index
    · subst hne
      have hown : (⟨id.index, s.generation⟩ : TimerId) ∈ d.own := by
        rw [hg]
        exact hid
      rw [awaitedAt, awaitedAt, hself, hi]
      simp [hown, TimerSlot.vacate]
    · rw [awaitedAt, awaitedAt, hother i hne]
      simp [hne_id hne]

end Own

/-! ## Arming -/

/-- The deferrals posted, with the steps that each has to wait for. -/
def pending (l : List (Nat × κ)) : List (Nat × κ) := l.map fun w => (max w.1 1, w.2)

theorem Inv.armAll (h : d.Inv) (l : List (Nat × κ)) :
    { d with timers := armAll d.timers l }.Inv ∧
      (pending l ++ d.awaited).Perm { d with timers := armAll d.timers l }.awaited := by
  induction l generalizing d with
  | nil => exact ⟨h, .refl _⟩
  | cons w l ih =>
    obtain ⟨h₁, hp₁⟩ := h.armOne w.1 w.2
    obtain ⟨h₂, hp₂⟩ := ih h₁
    refine ⟨h₂, ?_⟩
    have hp : (pending l ++ (max w.1 1, w.2) :: d.awaited).Perm _ := (hp₁.symm.append_left _).trans hp₂
    exact List.perm_middle.symm.trans hp

theorem Inv.arm (h : d.Inv) : d.arm.Inv ∧ (pending d.posted ++ d.awaited).Perm d.arm.awaited := by
  obtain ⟨h₁, hp⟩ := h.armAll d.posted
  exact ⟨h₁.post [], hp⟩

/-! ## Stepping -/

section Stepping

variable {σ : Type} {fire : κ → EStateM Fault σ κ} {x x' : σ} {n : Nat} {t' : TimerTable κ}

theorem Inv.invokedAt_eq (h : d.Inv) (i : Nat) : d.invokedAt i = (d.awaitedAt i).bind ripe := by
  rw [invokedAt, awaitedAt]
  cases hs : d.timers.slots[i]? with
  | none => rfl
  | some s =>
    rw [Option.bind_some, Option.bind_some]
    by_cases hown : (⟨i, s.generation⟩ : TimerId) ∈ d.own
    · simp [hown]
    · rw [if_neg hown]
      by_cases hu : s.inUse = true
      · obtain ⟨-, hr, c, hc⟩ := h.counting i s hs hu hown
        rw [if_pos ⟨hu, hown⟩, TimerSlot.due?, hc, Option.map_some, Option.bind_some]
        by_cases h1 : s.remaining ≤ 1
        · rw [if_pos ⟨⟨hu, hr⟩, h1⟩, ripe_of_le (by omega)]
        · rw [if_neg fun hd => h1 hd.2, ripe_of_lt (by omega)]
      · rw [if_neg fun hh => hu hh.1, TimerSlot.due?, if_neg fun hd => hu hd.1.1]
        rfl

theorem Inv.invoked_eq (h : d.Inv) : d.invoked = d.awaited.filterMap ripe := by
  rw [invoked, awaited, List.filterMap_filterMap]
  exact List.filterMap_congr fun i _ => h.invokedAt_eq i

theorem mem_own_of_stepped {u : TimerSlot κ} (hi : t'.slots[i]? = some u) (hu : u.inUse = true)
    (hown : ⟨i, u.generation⟩ ∈ d.own) : ⟨i, u.generation⟩ ∈ (d.stepTo t').own := by
  have hs : t'.slot? ⟨i, u.generation⟩ = some u := TimerTable.slot?_eq_some_iff.2 ⟨hi, hu, rfl⟩
  exact List.mem_filter.2 ⟨hown, by rw [hs]; rfl⟩

variable {kept : Nat → Option κ}
  (hst : TimerTable.Stepped fire (List.range d.timers.slots.size) d.timers x kept t' x')

include hst

/-- A timer that lives after the step is where it was, under the same id, and has not expired as a
deferral. -/
theorem of_stepped {u : TimerSlot κ} (hi : t'.slots[i]? = some u) (hu : u.inUse = true) :
    ∃ s, d.timers.slots[i]? = some s ∧ u = s.advance (kept i) ∧ s.inUse = true ∧
      u.generation = s.generation ∧ ¬ (s.IsDue ∧ s.oneShot = true) := by
  rw [hst.slots, Option.map_eq_some_iff] at hi
  obtain ⟨s, hs, rfl⟩ := hi
  have hn := mt s.inUse_advance.2 (by rw [hu]; simp)
  rw [not_or, Bool.not_eq_false] at hn
  exact ⟨s, hs, rfl, hn.1, TimerSlot.generation_advance hu, hn.2⟩

theorem Inv.awaitedAt_stepped (h : d.Inv) (i : Nat) :
    (d.stepTo t').awaitedAt i = (d.awaitedAt i).bind wait := by
  rw [awaitedAt, awaitedAt]
  cases hs : d.timers.slots[i]? with
  | none =>
    have hs' : (d.stepTo t').timers.slots[i]? = none := by rw [stepTo, hst.slots, hs]; rfl
    rw [hs']
    rfl
  | some s =>
    have hi : t'.slots[i]? = some (s.advance (kept i)) := by rw [hst.slots, hs]; rfl
    rw [stepTo, hi, Option.bind_some, Option.bind_some]
    -- a slot still in use holds a timer of a task's own, or a deferral that is not due yet
    by_cases hu : (s.advance (kept i)).inUse = true
    · obtain ⟨s', hs', -, hsu, hg, hd⟩ := of_stepped hst hi hu
      obtain rfl : s = s' := Option.some.inj (hs.symm.trans hs')
      by_cases hown : (⟨i, s.generation⟩ : TimerId) ∈ d.own
      · have := mem_own_of_stepped hi hu (hg ▸ hown)
        rw [if_neg fun hh => hh.2 this, if_neg fun hh => hh.2 hown]
        rfl
      · obtain ⟨ho, hr, c, hc⟩ := h.counting i s hs hsu hown
        have hown' : (⟨i, (s.advance (kept i)).generation⟩ : TimerId) ∉ (d.stepTo t').own :=
          fun hm => hown (hg ▸ List.mem_of_mem_filter hm)
        have h1 : ¬ s.remaining ≤ 1 := fun h1 => hd ⟨⟨⟨hsu, hr⟩, h1⟩, ho⟩
        have hadv : s.advance (kept i) = { s with remaining := s.remaining - 1 } := by
          rw [TimerSlot.advance, if_neg fun hd => h1 hd.2, if_pos ⟨hsu, hr⟩]
        rw [if_pos ⟨hu, hown'⟩, if_pos ⟨hsu, hown⟩, hadv, hc, Option.map_some, Option.map_some,
          Option.bind_some, wait_of_lt (by omega)]
        have hr' : max (s.remaining - 1) 1 = max s.remaining 1 - 1 := by omega
        rw [hr']
    · rw [if_neg fun hh => hu hh.1]
      by_cases hsu : s.inUse = true ∧ (⟨i, s.generation⟩ : TimerId) ∉ d.own
      · obtain ⟨-, -, c, hc⟩ := h.counting i s hs hsu.1 hsu.2
        have hd : s.IsDue := by
          have := s.inUse_advance.1 (Bool.not_eq_true _ ▸ hu)
          rw [hsu.1] at this
          exact (this.resolve_left (by simp)).1
        have h1 := hd.2
        rw [if_pos hsu, hc, Option.map_some, Option.bind_some, wait_of_le (by omega)]
      · rw [if_neg hsu]
        rfl

theorem Inv.stepped (h : d.Inv) : (d.stepTo t').Inv where
  sound := h.sound.stepped hst
  live id hid := Option.isSome_iff_exists.1 (List.mem_filter.1 hid).2
  counting i u hi hu hown := by
    obtain ⟨s, hs, rfl, hsu, hg, hd⟩ := of_stepped hst hi hu
    have hown' : (⟨i, s.generation⟩ : TimerId) ∉ d.own := fun hm =>
      hown (mem_own_of_stepped hi hu (hg ▸ hm))
    obtain ⟨ho, hr, c, hc⟩ := h.counting i s hs hsu hown'
    have h1 : ¬ s.IsDue := fun h1 => hd ⟨h1, ho⟩
    rw [TimerSlot.advance, if_neg h1, if_pos ⟨hsu, hr⟩]
    exact ⟨ho, hr, c, hc⟩

end Stepping

/-! ## The account -/

/-- The deferrals that wait, posted or armed, are those that the events leave outstanding. -/
structure Accounted (t : List (Event κ)) (d : Deferrals κ) : Prop where
  inv : d.Inv
  perm : (pending d.posted ++ d.awaited).Perm (outstanding t)

theorem accounted_start (n : Nat) : Accounted [] (start n : Deferrals κ) where
  inv := inv_start n
  perm := by
    rw [awaited_start]
    exact .refl _

/-- An event that neither posts a deferral nor steps the timers leaves the account as it is. -/
theorem Accounted.keep (h : Accounted t d) (he : e.isStepped = false) (hw : e.waits 0 = none)
    (hi : d'.Inv) (hp : (pending d'.posted ++ d'.awaited).Perm (pending d.posted ++ d.awaited)) :
    Accounted (t ++ [e]) d' := by
  refine ⟨hi, ?_⟩
  rw [outstanding_append_singleton t he, hw, Option.toList_none, List.append_nil]
  exact hp.trans h.perm

theorem Accounted.used (h : Accounted t d) (hi : d'.Inv ∧ d'.awaited = d.awaited)
    (hp : d'.posted = d.posted) : Accounted (t ++ [.used]) d' := by
  refine h.keep rfl rfl hi.1 ?_
  rw [hi.2, hp]

theorem Step.accounted (h : Step d e d') (ht : Accounted t d) :
    Accounted (t ++ [e]) d' ∧ ∀ l, e = .stepped l → l.Perm (due t) := by
  have hupdate : ∀ {id : TimerId} {f : TimerSlot κ → TimerSlot κ}, id ∈ d.own →
      (∀ s : TimerSlot κ, (f s).inUse = s.inUse ∧ (f s).generation = s.generation) →
      Accounted (t ++ [.used]) { d with timers := (d.timers.update id f).2 } :=
    fun hid hf => ht.used (ht.inv.update hid hf) rfl
  cases h with
  | post ticks callback =>
    refine ⟨⟨ht.inv.post _, ?_⟩, by simp⟩
    have hw : (Event.posted ticks callback).waits 0 = some (max ticks 1, callback) := by
      simp only [Event.waits]
      rw [if_pos (by omega)]
      rfl
    rw [outstanding_append_singleton t rfl, hw]
    have hp : pending (d.posted ++ [(ticks, callback)]) = pending d.posted ++ [(max ticks 1, callback)] :=
      List.map_append
    refine .trans ?_ (ht.perm.append_right _)
    rw [hp, List.append_assoc, List.append_assoc]
    exact List.perm_append_comm.append_left _
  | arm =>
    obtain ⟨hi, hp⟩ := ht.inv.arm
    exact ⟨ht.keep rfl rfl hi hp.symm, by simp⟩
  | create =>
    obtain ⟨s, hs⟩ := fresh_create ht.inv.sound
    exact ⟨ht.used (ht.inv.own hs) rfl, by simp⟩
  | defer ticks callback =>
    exact ⟨ht.used (ht.inv.own (fresh_defer ht.inv.sound ticks callback)) rfl, by simp⟩
  | set ticks callback hid => exact ⟨hupdate hid fun _ => ⟨rfl, rfl⟩, by simp⟩
  | run hid => exact ⟨hupdate hid fun _ => ⟨rfl, rfl⟩, by simp⟩
  | stop hid => exact ⟨hupdate hid fun _ => ⟨rfl, rfl⟩, by simp⟩
  | release hid => exact ⟨ht.used (ht.inv.release hid) rfl, by simp⟩
  | step hs =>
    obtain ⟨hi, hp⟩ := ht.inv.arm
    obtain ⟨⟨kept, hst⟩, -⟩ := TimerTable.stepAll_ok hs
    have hperm : d.arm.awaited.Perm (outstanding t) := hp.symm.trans ht.perm
    have haw := awaited_filterMap (hi.awaitedAt_stepped hst)
    refine ⟨⟨hi.stepped hst, ?_⟩, ?_⟩
    · rw [outstanding_append_stepped, haw]
      exact hperm.filterMap wait
    · rintro l h
      cases h
      rw [hi.invoked_eq, due_eq]
      exact hperm.filterMap ripe

theorem accounted {n : Nat} (h : Run Step (start n) t d) : Accounted t d := by
  induction h with
  | nil => exact accounted_start n
  | snoc _ h' ih => exact (h'.accounted ih).1

/-- In every run, each step of the timers runs exactly the deferrals that are due. -/
theorem invoked_perm {n : Nat} {l : List κ} {r : List (Event κ)}
    (h : Run Step (start n) (t ++ .stepped l :: r) d) : l.Perm (due t) := by
  obtain ⟨y, h₁, h₂⟩ := run_append_iff.1 h
  obtain ⟨z, h₂, -⟩ := run_cons_iff.1 h₂
  exact (h₂.accounted (accounted h₁)).2 l rfl

/-! ## Nothing is lost or doubled -/

/-- The deferral that an event posts. -/
def Event.posted? : Event κ → Option κ
  | posted _ callback => some callback
  | _ => none

/-- The deferrals that an event runs. -/
def Event.invoked : Event κ → List κ
  | stepped l => l
  | _ => []

/-- The deferrals that are posted. -/
def postedIn (t : List (Event κ)) : List κ := t.filterMap (·.posted?)

/-- The deferrals that are run. -/
def invokedIn (t : List (Event κ)) : List κ := t.flatMap (·.invoked)

theorem ripe_append_wait (l : List (Nat × κ)) :
    (l.filterMap ripe ++ (l.filterMap wait).map (·.2)).Perm (l.map (·.2)) := by
  induction l with
  | nil => exact .refl _
  | cons w l ih =>
    obtain ⟨n, c⟩ := w
    by_cases h : n ≤ 1
    · rw [List.filterMap_cons_some (ripe_of_le h), List.filterMap_cons_none (wait_of_le h)]
      exact ih.cons c
    · have h : 1 < n := Nat.lt_of_not_le h
      rw [List.filterMap_cons_none (ripe_of_lt h), List.filterMap_cons_some (wait_of_lt h)]
      exact List.perm_middle.trans (ih.cons c)

/-- In every run, the deferrals posted are those run and those outstanding. -/
theorem conserved {n : Nat} (h : Run Step (start n) t d) :
    (invokedIn t ++ (outstanding t).map (·.2)).Perm (postedIn t) := by
  induction h with
  | nil => exact .refl _
  | @snoc t y z e hr h' ih =>
    have hi : invokedIn (t ++ [e]) = invokedIn t ++ e.invoked := by simp [invokedIn]
    have hp : postedIn (t ++ [e]) = postedIn t ++ e.posted?.toList := by
      cases h : e.posted? <;> simp [postedIn, h]
    rw [hi, hp]
    by_cases hs : ∃ l, e = .stepped l
    · obtain ⟨l, rfl⟩ := hs
      have hl := (h'.accounted (accounted hr)).2 l rfl
      rw [due_eq] at hl
      rw [outstanding_append_stepped, List.append_assoc]
      refine .trans (.append_left _ ?_) (ih.trans (by simp [Event.posted?]))
      exact (hl.append_right _).trans (ripe_append_wait _)
    · have hse : e.isStepped = false := by
        cases e <;> simp_all [Event.isStepped]
      have hie : e.invoked = [] := by
        cases e <;> simp_all [Event.invoked]
      have hw : (e.waits 0).toList.map (·.2) = e.posted?.toList := by
        cases e with
        | posted ticks callback =>
          simp only [Event.waits, Event.posted?]
          rw [if_pos (by omega)]
          rfl
        | _ => rfl
      rw [outstanding_append_singleton t hse, hie, List.append_nil, List.map_append, hw,
        ← List.append_assoc]
      exact ih.append_right _

/-! ## One deferral -/

variable [DecidableEq κ]

theorem count_due? {n : Nat} (h : ∀ k, e ≠ .posted k c) : (e.due? n).toList.count c = 0 := by
  apply List.count_eq_zero.2
  intro hc
  cases e with
  | posted k c' =>
    simp only [Event.due?] at hc
    split at hc
    · obtain rfl : c = c' := by simpa using hc
      exact h k rfl
    · cases hc
  | _ => cases hc

theorem count_due_append (h : ∀ n, Event.posted n c ∉ l) :
    (due (l ++ t)).count c = (due t).count c := by
  induction l with
  | nil => rfl
  | cons e l ih =>
    rw [List.cons_append, due, List.count_append, ih fun n hn => h n (List.mem_cons_of_mem _ hn),
      count_due? fun k hk => h k (by simp [hk]), Nat.zero_add]

theorem count_due_of_not_posted (h : ∀ n, Event.posted n c ∉ t) : (due t).count c = 0 := by
  have := count_due_append (t := []) h
  rwa [List.append_nil] at this

/-- A deferral posted once is due once: when `max ticks 1 - 1` steps have been made since. -/
theorem count_due {ticks : Nat} (hl : ∀ n, Event.posted n c ∉ l) (ht : ∀ n, Event.posted n c ∉ t) :
    (due (l ++ .posted ticks c :: t)).count c = if steps t + 1 = max ticks 1 then 1 else 0 := by
  rw [count_due_append hl, due, List.count_append, count_due_of_not_posted ht, Nat.add_zero]
  simp only [Event.due?]
  split
  · exact List.count_singleton_self
  · rfl

end Deferrals

end LteUe
