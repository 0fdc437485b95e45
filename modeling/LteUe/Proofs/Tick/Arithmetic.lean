import LteUe.Proofs.Outcome
import LteUe.Proofs.Tti

/-!
# Tick ids in words

Tick ids are computed in words of 32 bits, and the wrap does not divide the number of words. Both words
are reduced before they are subtracted, so that no sum exceeds a word and no difference falls below zero:
computed with `plus?` and `minus?`, which give up where the result is no word, ids come out the same. On
integers stepping back is subtraction modulo the wrap, and a report covers as many ids as ticks have passed,
one after the other, up to the id that it reports (`Tti.arithmetic_exact`).
-/

namespace LteUe.Tti

variable {tti jump a b c : UInt32}

/-- The sum of two words, if it is a word. -/
def plus? (a b : UInt32) : Option UInt32 :=
  if a.toNat + b.toNat < 2 ^ 32 then some (a + b) else none

/-- The difference of two words, if it is a word. -/
def minus? (a b : UInt32) : Option UInt32 :=
  if b.toNat ≤ a.toNat then some (a - b) else none

/-- `Tti.sub`, where every sum and every difference must be a word. -/
def sub? (tti n : UInt32) : Option UInt32 := do
  let raised ← plus? (tti % wrap) wrap
  let id ← minus? raised (n % wrap)
  return id % wrap

/-- `Tti.subTick`, in the same way. -/
def subTick? (tti jump : UInt32) (i : Nat) : Option UInt32 := do
  let left ← minus? jump (UInt32.ofNat i)
  let distance ← minus? left 1
  sub? tti distance

/-- `Tti.subTicks`, in the same way. -/
def subTicks? (tti jump : UInt32) : Option (List UInt32) :=
  (List.range jump.toNat).mapM (subTick? tti jump)

/-- What a report of `tti` after `jump` ticks covers. -/
structure Covers (tti jump : UInt32) (ids : List UInt32) : Prop where
  length : ids.length = jump.toNat
  below : ∀ id ∈ ids, id.toNat < 10240
  follow : ids.IsChain fun a b => b.toNat = (a.toNat + 1) % 10240
  last : ∀ id, ids.getLast? = some id → id.toNat = tti.toNat % 10240

/-! ## No word is left -/

theorem plus?_eq_some_iff : plus? a b = some c ↔ c.toNat = a.toNat + b.toNat := by
  have hc := c.toNat_lt
  unfold plus?
  split
  · rename_i h
    have hab : (a + b).toNat = a.toNat + b.toNat := by rw [UInt32.toNat_add, Nat.mod_eq_of_lt h]
    rw [Option.some.injEq, ← UInt32.toNat_inj, hab]
    exact eq_comm
  · simp only [reduceCtorEq, false_iff]
    omega

theorem minus?_eq_some_iff : minus? a b = some c ↔ c.toNat + b.toNat = a.toNat := by
  unfold minus?
  split
  · rename_i h
    have hab : (a - b).toNat = a.toNat - b.toNat := UInt32.toNat_sub_of_le _ _ h
    rw [Option.some.injEq, ← UInt32.toNat_inj, hab]
    omega
  · simp only [reduceCtorEq, false_iff]
    omega

theorem sub?_eq (tti n : UInt32) : sub? tti n = some (sub tti n) := by
  have hw : wrap.toNat = 10240 := rfl
  have htti : (tti % wrap).toNat < 10240 := by
    rw [UInt32.toNat_mod, hw]
    apply Nat.mod_lt
    omega
  have hn : (n % wrap).toNat < 10240 := by
    rw [UInt32.toNat_mod, hw]
    apply Nat.mod_lt
    omega
  have hplus : (tti % wrap + wrap).toNat = (tti % wrap).toNat + wrap.toNat := by
    rw [UInt32.toNat_add]
    apply Nat.mod_eq_of_lt
    omega
  have hminus : (tti % wrap + wrap - n % wrap).toNat + (n % wrap).toNat = (tti % wrap + wrap).toNat := by
    rw [UInt32.toNat_sub_of_le _ _ (by rw [UInt32.le_iff_toNat_le]; omega)]
    omega
  simp [sub?, sub, plus?_eq_some_iff.2 hplus, minus?_eq_some_iff.2 hminus]

theorem subTick?_eq {i : Nat} (hi : i < jump.toNat) : subTick? tti jump i = some (subTick tti jump i) := by
  have hi' : (UInt32.ofNat i).toNat = i := UInt32.toNat_ofNat_of_lt' (lt_trans hi jump.toNat_lt)
  have hleft : (jump - UInt32.ofNat i).toNat + (UInt32.ofNat i).toNat = jump.toNat := by
    rw [UInt32.toNat_sub_of_le _ _ (by rw [UInt32.le_iff_toNat_le]; omega)]
    omega
  have hdistance : (jump - UInt32.ofNat i - 1).toNat + (1 : UInt32).toNat = (jump - UInt32.ofNat i).toNat := by
    rw [toNat_distance hi, UInt32.toNat_one]
    omega
  simp [subTick?, subTick, minus?_eq_some_iff.2 hleft, minus?_eq_some_iff.2 hdistance, sub?_eq]

theorem subTicks?_eq (tti jump : UInt32) : subTicks? tti jump = some (subTicks tti jump) := by
  apply mapM_eq_some_map_iff.2
  intro i hi
  exact subTick?_eq (List.mem_range.1 hi)

theorem covers_subTicks (tti jump : UInt32) : Covers tti jump (subTicks tti jump) where
  length := length_subTicks tti jump
  below _ := lt_wrap_of_mem_subTicks
  follow := isChain_subTicks tti jump
  last id h := by
    have hj : jump ≠ 0 := by
      rintro rfl
      simp [subTicks] at h
    rw [getLast?_subTicks hj, Option.some.injEq] at h
    rw [← h, UInt32.toNat_mod]
    rfl

/-- Words suffice for tick ids, stepping back is subtraction modulo the wrap, and a report covers the ticks
since the one before it, so that two reports cover what one report of all their ticks does. -/
theorem arithmetic_exact :
    (∀ tti n, sub? tti n = some (sub tti n) ∧
      ((sub tti n).toNat : Int) = ((tti.toNat : Int) - n.toNat) % 10240) ∧
    (∀ tti jump, subTicks? tti jump = some (subTicks tti jump) ∧ Covers tti jump (subTicks tti jump)) ∧
    ∀ tti a b : UInt32, a.toNat + b.toNat < 2 ^ 32 →
      subTicks tti (a + b) = subTicks (sub tti b) a ++ subTicks tti b := by
  refine ⟨?_, ?_, ?_⟩
  · intro tti n
    exact ⟨sub?_eq tti n, toNat_sub tti n⟩
  · intro tti jump
    exact ⟨subTicks?_eq tti jump, covers_subTicks tti jump⟩
  · intro tti a b h
    exact (subTicks_append tti h).symm

/-- The greatest word is reported after more ticks than the wrap has, and so is what comes before. -/
theorem arithmetic_exact_beyond_wrap :
    (20000 : UInt32).toNat + (10241 : UInt32).toNat < 2 ^ 32 ∧
      subTicks 4294967295 30241 = subTicks 4094 20000 ++ subTicks 4294967295 10241 := by
  have h : (20000 : UInt32).toNat + (10241 : UInt32).toNat < 2 ^ 32 := by decide
  exact ⟨h, arithmetic_exact.2.2 4294967295 20000 10241 h⟩

end LteUe.Tti
