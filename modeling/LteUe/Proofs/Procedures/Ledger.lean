import LteUe.Proofs.Procedures.Steps
import Mathlib.Algebra.Order.Group.Multiset
import Mathlib.Tactic.Abel

/-!
# The ledger of the procedures

What has come of each procedure that is neither refused nor over, whatever its worker and its place in a queue
may be. Of such a ledger it is easy to say what one step does: a call adds an entry, and an entry goes on or is
struck out (`Ledger.Step`). So what has happened to a procedure tells where it is, and every procedure started
is over, or has its one entry (`Ledger.sound`).
-/

namespace LteUe.Procedures

variable {κ : Type}

/-- Where a procedure is that has been started and is not over. -/
inductive Situation where
  | queued (j : Job)
  | taken (j : Job)
  /-- The worker has a task to enqueue, or waits for room. -/
  | reporting (u : Task)
  | waiting (u : Task)
  | running (u : Task)
deriving DecidableEq

/-- How a procedure goes on, or comes to its end. -/
inductive Goes : Situation → Chapter κ → Option Situation → Prop
  | receive (j : Job) : Goes (.queued j) .received (some (.taken j))
  | ask {j : Job} (p : Procedure) (r : Radio) :
      j = p.job → Goes (.taken j) (.asked p r) (some (.reporting (p.report r)))
  | report (u : Task) : Goes (.reporting u) (.reported u) (some (.waiting u))
  | turnAway (u : Task) : Goes (.reporting u) (.turnedAway u) none
  | begin (u : Task) : Goes (.waiting u) (.begun u) (some (.running u))
  | drop (u : Task) : Goes (.waiting u) (.dropped u) none
  | complete {u : Task} {calls : List (Call κ)} :
      (∀ (p : Procedure) r, u = p.report r → calls = [p.told r]) → Goes (.running u) (.completed u calls) none

/-- The procedures by the numbers of their calls. -/
structure Ledger where
  /-- How many calls there have been. -/
  started : Nat
  /-- Where the procedures are. -/
  entries : Multiset (Nat × Situation)

namespace Ledger

/-- The entry of call `n`, if its procedure is neither refused nor over. -/
def entry (n : Nat) (o : Option Situation) : Multiset (Nat × Situation) := o.elim 0 fun σ => {(n, σ)}

/-- The steps of a ledger. -/
inductive Step : Ledger → Nat × Chapter κ → Ledger → Prop
  | refuse {k : Ledger} (p : Procedure) :
      Step k (k.started, .called p false) { k with started := k.started + 1 }
  | enter {k : Ledger} (p : Procedure) :
      Step k (k.started, .called p true)
        ⟨k.started + 1, entry k.started (some (.queued p.job)) + k.entries⟩
  | go {i n : Nat} {σ : Situation} {c : Chapter κ} {o : Option Situation} {s : Multiset (Nat × Situation)} :
      Goes σ c o → Step ⟨i, entry n (some σ) + s⟩ (n, c) ⟨i, entry n o + s⟩

/-- Where the procedure of call `n` is. -/
def find (k : Ledger) (n : Nat) : Multiset Situation := (k.entries.filter (·.1 = n)).map (·.2)

end Ledger

/-- What has happened to a procedure that is where it is. -/
inductive Tale : Option Situation → List (Chapter κ) → Prop
  | refused (p : Procedure) : Tale none [.called p false]
  | queued (p : Procedure) : Tale (some (.queued p.job)) [.called p true]
  | taken (p : Procedure) : Tale (some (.taken p.job)) [.called p true, .received]
  | reporting (p : Procedure) (r : Radio) :
      Tale (some (.reporting (p.report r))) [.called p true, .received, .asked p r]
  | turnedAway (p : Procedure) (r : Radio) :
      Tale none [.called p true, .received, .asked p r, .turnedAway (p.report r)]
  | waiting (p : Procedure) (r : Radio) :
      Tale (some (.waiting (p.report r))) [.called p true, .received, .asked p r, .reported (p.report r)]
  | dropped (p : Procedure) (r : Radio) :
      Tale none [.called p true, .received, .asked p r, .reported (p.report r), .dropped (p.report r)]
  | running (p : Procedure) (r : Radio) :
      Tale (some (.running (p.report r)))
        [.called p true, .received, .asked p r, .reported (p.report r), .begun (p.report r)]
  | completed (p : Procedure) (r : Radio) :
      Tale none [.called p true, .received, .asked p r, .reported (p.report r), .begun (p.report r),
        .completed (p.report r) [p.told r]]

variable {σ : Situation} {o : Option Situation} {c : Chapter κ} {l : List (Chapter κ)} {k k' : Ledger}
  {m m' : List (Nat × Chapter κ)} {e : Nat × Chapter κ} {n : Nat}

theorem job_injective : Function.Injective Procedure.job := by
  rintro (_ | a) (_ | b) h
  · rfl
  · cases h
  · cases h
  · cases h
    rfl

theorem Tale.go (h : Tale (some σ) l) (hg : Goes σ c o) : Tale o (l ++ [c]) := by
  cases hg with
  | receive j =>
    cases h with
    | queued p => exact .taken p
  | ask p r hj =>
    cases h with
    | taken q =>
      obtain rfl : q = p := job_injective hj
      exact .reporting q r
  | report u =>
    cases h with
    | reporting p r => exact .waiting p r
  | turnAway u =>
    cases h with
    | reporting p r => exact .turnedAway p r
  | begin u =>
    cases h with
    | waiting p r => exact .running p r
  | drop u =>
    cases h with
    | waiting p r => exact .dropped p r
  | complete hc =>
    cases h with
    | running p r =>
      rw [hc p r rfl]
      exact .completed p r

theorem Tale.way (h : Tale o l) : ∃ p r, ∃ w ∈ ways p r, l <+: w := by
  have r₀ : Radio := { found := {}, selectable := {} }
  cases h with
  | refused p => exact ⟨p, r₀, _, .head _, List.prefix_rfl⟩
  | queued p => exact ⟨p, r₀, _, .tail _ (.head _), _, rfl⟩
  | taken p => exact ⟨p, r₀, _, .tail _ (.head _), _, rfl⟩
  | reporting p r => exact ⟨p, r, _, .tail _ (.head _), _, rfl⟩
  | turnedAway p r => exact ⟨p, r, _, .tail _ (.tail _ (.head _)), List.prefix_rfl⟩
  | waiting p r => exact ⟨p, r, _, .tail _ (.head _), _, rfl⟩
  | dropped p r => exact ⟨p, r, _, .tail _ (.tail _ (.tail _ (.head _))), List.prefix_rfl⟩
  | running p r => exact ⟨p, r, _, .tail _ (.head _), _, rfl⟩
  | completed p r => exact ⟨p, r, _, .tail _ (.head _), List.prefix_rfl⟩

/-! ## Histories -/

theorem own_snoc_self (n : Nat) (m : List (Nat × Chapter κ)) (c : Chapter κ) :
    own n (m ++ [(n, c)]) = own n m ++ [c] := by
  simp [own]

theorem own_snoc_of_ne {i : Nat} (h : i ≠ n) (m : List (Nat × Chapter κ)) (c : Chapter κ) :
    own n (m ++ [(i, c)]) = own n m := by
  simp [own, h]

theorem callers_snoc (f : Chapter κ → Bool) (m : List (Nat × Chapter κ)) (n : Nat) (c : Chapter κ) :
    (callers f (m ++ [(n, c)]) : Multiset Nat) = callers f m + if f c then {n} else 0 := by
  rw [callers, List.filter_append, List.map_append, ← Multiset.coe_add]
  congr 1
  cases h : f c <;> simp [h]

/-- Whoever goes on has been started before, and is over or is not. -/
theorem Goes.counted (h : Goes σ c o) (n : Nat) : c.isAccepted = false ∧
    (if c.isCompleted then {n} else 0) + (if c.isLost then {n} else 0) + o.elim 0 (fun _ => {n}) =
      ({n} : Multiset Nat) := by
  cases h <;> exact ⟨rfl, rfl⟩

namespace Ledger

variable {i : Nat} {s : Multiset (Nat × Situation)}

theorem find_entry_self (i n : Nat) (o : Option Situation) (s : Multiset (Nat × Situation)) :
    find ⟨i, entry n o + s⟩ n = o.elim 0 ({·}) + find ⟨i, s⟩ n := by
  cases o with
  | none => simp [find, entry]
  | some σ => simp [find, entry]

theorem find_entry_of_ne {i j : Nat} (h : j ≠ n) (o : Option Situation) (s : Multiset (Nat × Situation)) :
    find ⟨i, entry j o + s⟩ n = find ⟨i, s⟩ n := by
  cases o with
  | none => simp [find, entry]
  | some σ => simp [find, entry, h]

theorem map_entry (n : Nat) (o : Option Situation) : (entry n o).map (·.1) = o.elim 0 fun _ => {n} := by
  cases o <;> rfl

/-! ## What a ledger says -/

/-- What the ledger `k` says after all that has happened to procedures. -/
structure Sound (m : List (Nat × Chapter κ)) (k : Ledger) : Prop where
  fresh (n : Nat) : k.started ≤ n → own n m = [] ∧ k.find n = 0
  tale (n : Nat) : n < k.started → ∃ o, Tale o (own n m) ∧ k.find n = o.elim 0 ({·})
  balance : (callers (·.isAccepted) m : Multiset Nat) =
    callers (·.isCompleted) m + callers (·.isLost) m + k.entries.map (·.1)

theorem sound_start : Sound ([] : List (Nat × Chapter κ)) ⟨0, 0⟩ where
  fresh _ _ := ⟨rfl, rfl⟩
  tale n h := absurd h (Nat.not_lt_zero n)
  balance := rfl

theorem Sound.call (h : Sound m k) (p : Procedure) (ht : Tale (κ := κ) o [.called p o.isSome]) :
    Sound (m ++ [(k.started, .called p o.isSome)]) ⟨k.started + 1, entry k.started o + k.entries⟩ := by
  obtain ⟨hown, hfind⟩ := h.fresh k.started (Nat.le_refl _)
  have hne : ∀ n, n ≠ k.started → own n (m ++ [(k.started, .called p o.isSome)]) = own n m ∧
      find ⟨k.started + 1, entry k.started o + k.entries⟩ n = k.find n :=
    fun n hn => ⟨own_snoc_of_ne (Ne.symm hn) m _, find_entry_of_ne (Ne.symm hn) o _⟩
  refine ⟨fun n hn => ?_, fun n hn => ?_, ?_⟩
  · obtain ⟨ho, hf⟩ := hne n (Nat.ne_of_gt hn)
    rw [ho, hf]
    exact h.fresh n (Nat.le_of_succ_le hn)
  · obtain hn | rfl := Nat.lt_succ_iff_lt_or_eq.1 hn
    · obtain ⟨ho, hf⟩ := hne n (Nat.ne_of_lt hn)
      rw [ho, hf]
      exact h.tale n hn
    · refine ⟨o, ?_, ?_⟩
      · rw [own_snoc_self, hown]
        exact ht
      · exact (find_entry_self ..).trans ((congrArg _ hfind).trans (add_zero _))
  · rw [callers_snoc, callers_snoc, callers_snoc, h.balance, Multiset.map_add, map_entry]
    cases o with
    | none => simp [Chapter.isAccepted, Chapter.isCompleted, Chapter.isLost]
    | some σ =>
      show _ + ({k.started} : Multiset Nat) = _ + 0 + (_ + 0) + ({k.started} + _)
      abel

/-- An entry is the only one of its call, and tells how far the procedure has come. -/
theorem Sound.only (h : Sound m ⟨i, entry n (some σ) + s⟩) :
    n < i ∧ Tale (some σ) (own n m) ∧ find ⟨i, s⟩ n = 0 := by
  have hfind : find ⟨i, entry n (some σ) + s⟩ n = σ ::ₘ find ⟨i, s⟩ n := find_entry_self ..
  have hn : n < i := by
    by_contra hn
    rw [(h.fresh n (Nat.le_of_not_lt hn)).2] at hfind
    exact Multiset.zero_ne_cons hfind
  obtain ⟨o, ht, hf⟩ := h.tale n hn
  rw [hfind] at hf
  cases o with
  | none => exact absurd hf Multiset.cons_ne_zero
  | some σ' =>
    obtain ⟨rfl, hs⟩ := (Multiset.singleton_eq_cons_iff _).1 hf.symm
    exact ⟨hn, ht, hs⟩

theorem Sound.go (h : Sound m ⟨i, entry n (some σ) + s⟩) (hg : Goes σ c o) :
    Sound (m ++ [(n, c)]) ⟨i, entry n o + s⟩ := by
  have hne : ∀ j, j ≠ n → own j (m ++ [(n, c)]) = own j m ∧
      find ⟨i, entry n o + s⟩ j = find ⟨i, entry n (some σ) + s⟩ j :=
    fun j hj => ⟨own_snoc_of_ne (Ne.symm hj) m _,
      (find_entry_of_ne (Ne.symm hj) o s).trans (find_entry_of_ne (Ne.symm hj) _ s).symm⟩
  obtain ⟨hn, ht, hs⟩ := h.only
  refine ⟨fun j hj => ?_, fun j hj => ?_, ?_⟩
  · obtain ⟨ho, hf⟩ := hne j (Nat.ne_of_gt (Nat.lt_of_lt_of_le hn hj))
    rw [ho, hf]
    exact h.fresh j hj
  · by_cases hjn : j = n
    · subst hjn
      refine ⟨o, ?_, ?_⟩
      · rw [own_snoc_self]
        exact ht.go hg
      · exact (find_entry_self ..).trans ((congrArg _ hs).trans (add_zero _))
    · obtain ⟨ho, hf⟩ := hne j hjn
      rw [ho, hf]
      exact h.tale j hj
  · obtain ⟨ha, hc⟩ := hg.counted n
    rw [callers_snoc, callers_snoc, callers_snoc, h.balance, Multiset.map_add, Multiset.map_add, map_entry,
      map_entry, if_neg (by simp [ha])]
    have hsum : ∀ a b c d a' b' : Multiset Nat, a + a' + (b + b') + (c + d) = a + b + (a' + b' + c + d) := by
      intro a b c d a' b'
      abel
    rw [hsum, hc, add_zero]
    rfl

theorem Sound.step (h : Sound m k) (hs : Step k e k') : Sound (m ++ [e]) k' := by
  cases hs with
  | refuse p =>
    have hr := h.call (o := none) p (.refused p)
    rwa [show entry k.started none + k.entries = k.entries from zero_add _] at hr
  | enter p => exact h.call p (.queued p)
  | go hg => exact h.go hg

theorem Sound.run (h : Sound m k) (hr : Run Step k m' k') : Sound (m ++ m') k' := by
  induction hr with
  | nil => rwa [List.append_nil]
  | snoc _ hs ih =>
    rw [← List.append_assoc]
    exact ih.step hs

/-! ## What has happened to a procedure -/

theorem Sound.story (h : Sound m k) (n : Nat) : own n m = [] ∨ ∃ o, Tale o (own n m) := by
  by_cases hn : n < k.started
  · obtain ⟨o, ht, -⟩ := h.tale n hn
    exact .inr ⟨o, ht⟩
  · exact .inl (h.fresh n (Nat.le_of_not_lt hn)).1

theorem Sound.way (h : Sound m k) (n : Nat) : ∃ p r, ∃ w ∈ ways p r, own n m <+: w := by
  obtain hn | ⟨o, ht⟩ := h.story n
  · exact ⟨.search, { found := {}, selectable := {} }, _, .head _, hn ▸ List.nil_prefix⟩
  · exact ht.way

theorem Sound.once (h : Sound m k) (n : Nat) {f : Chapter κ → Bool}
    (hf : f ∈ [Chapter.isAccepted, Chapter.isAsked, Chapter.isReported, Chapter.isCompleted]) :
    (own n m).countP f ≤ 1 := by
  obtain ⟨p, r, w, hw, hp⟩ := h.way n
  refine (hp.sublist.countP_le).trans ?_
  simp only [ways, List.mem_cons, List.not_mem_nil, or_false] at hw hf
  obtain rfl | rfl | rfl | rfl := hw <;> obtain rfl | rfl | rfl | rfl := hf <;>
    simp [List.countP_cons, Chapter.isAccepted, Chapter.isAsked, Chapter.isReported, Chapter.isCompleted]

theorem count_callers (f : Chapter κ → Bool) (m : List (Nat × Chapter κ)) (n : Nat) :
    (callers f m).count n = (own n m).countP f := by
  induction m with
  | nil => rfl
  | cons e m ih =>
    obtain ⟨i, c⟩ := e
    by_cases hi : i = n
    · cases hf : f c <;> simp [callers, own, hi, hf] at ih ⊢ <;> exact ih
    · cases hf : f c <;> simp [callers, own, hi, hf] at ih ⊢ <;> exact ih

theorem Sound.nodup (h : Sound m k) : (callers (·.isAccepted) m).Nodup :=
  List.nodup_iff_count_le_one.2 fun n => (count_callers ..).trans_le (h.once n (.head _))

theorem Sound.answer (h : Sound m k) {n : Nat} {u : Task} {calls : List (Call κ)}
    (hc : .completed u calls ∈ own n m) :
    ∃ p r, .called p true ∈ own n m ∧ .asked p r ∈ own n m ∧ u = p.report r ∧ calls = [p.told r] := by
  obtain hn | ⟨o, ht⟩ := h.story n
  · rw [hn] at hc
    cases hc
  · generalize own n m = l at ht hc ⊢
    cases ht with
    | completed p r =>
      obtain ⟨rfl, rfl⟩ : u = p.report r ∧ calls = [p.told r] := by simpa using hc
      exact ⟨p, r, by simp, by simp, rfl, rfl⟩
    | _ => simp at hc

theorem Sound.refused (h : Sound m k) {n : Nat} {p : Procedure}
    (hc : .called p false ∈ own n m) : own n m = [.called p false] := by
  obtain hn | ⟨o, ht⟩ := h.story n
  · rw [hn] at hc
    cases hc
  · generalize own n m = l at ht hc ⊢
    cases ht with
    | refused q =>
      obtain rfl : p = q := by simpa using hc
      rfl
    | _ => simp at hc

end Ledger

end LteUe.Procedures
