import LteUe.Tti
import Mathlib.Data.Int.ModEq
import Mathlib.Data.List.Chain

/-!
# The ids that reports cover

A report of the clock covers as many ids as ticks have passed, and reports that follow one another cover
the ids that one report of them all would cover (`Tti.flatMap_reports`).
-/

namespace LteUe.Tti

variable {tti tti' a b n jump : UInt32}

theorem toNat_sub (tti n : UInt32) : ((sub tti n).toNat : Int) = ((tti.toNat : Int) - n.toNat) % 10240 := by
  have hw : (wrap : UInt32).toNat = 10240 := rfl
  have h₁ : (tti % wrap).toNat = tti.toNat % 10240 := by rw [UInt32.toNat_mod, hw]
  have h₂ : (n % wrap).toNat = n.toNat % 10240 := by rw [UInt32.toNat_mod, hw]
  have h₃ : (tti % wrap + wrap).toNat = tti.toNat % 10240 + 10240 := by
    rw [UInt32.toNat_add, h₁, hw]
    omega
  have hle : n % wrap ≤ tti % wrap + wrap := by
    rw [UInt32.le_iff_toNat_le, h₂, h₃]
    omega
  rw [sub, UInt32.toNat_mod, UInt32.toNat_sub_of_le _ _ hle, h₂, h₃, hw]
  omega

theorem toNat_distance {i : Nat} (hi : i < jump.toNat) :
    (jump - UInt32.ofNat i - 1).toNat = jump.toNat - i - 1 := by
  have hj := jump.toNat_lt
  have h₁ : (UInt32.ofNat i).toNat = i := UInt32.toNat_ofNat_of_lt' (lt_trans hi hj)
  have h₂ : (jump - UInt32.ofNat i).toNat = jump.toNat - i := by
    rw [UInt32.toNat_sub_of_le _ _ (by rw [UInt32.le_iff_toNat_le, h₁]; omega), h₁]
  rw [UInt32.toNat_sub_of_le _ _ (by rw [UInt32.le_iff_toNat_le, h₂]; simp; omega), h₂]
  rfl

theorem length_subTicks (tti jump : UInt32) : (subTicks tti jump).length = jump.toNat := by
  rw [subTicks, List.length_map, List.length_range]

/-! ## What one report covers -/

theorem toNat_subTick (tti : UInt32) {i : Nat} (hi : i < jump.toNat) :
    ((subTick tti jump i).toNat : Int) = ((tti.toNat : Int) - (jump.toNat - i - 1)) % 10240 := by
  have h : ((jump.toNat - i - 1 : Nat) : Int) = jump.toNat - i - 1 := by omega
  rw [subTick, toNat_sub, toNat_distance hi, h]

theorem lt_wrap_of_mem_subTicks {id : UInt32} (h : id ∈ subTicks tti jump) : id.toNat < 10240 := by
  obtain ⟨i, hi, rfl⟩ := List.mem_map.1 h
  have := toNat_subTick tti (List.mem_range.1 hi)
  omega

/-- The ids that a report covers follow one another modulo the wrap. -/
theorem isChain_subTicks (tti jump : UInt32) :
    (subTicks tti jump).IsChain fun a b => b.toNat = (a.toNat + 1) % 10240 := by
  rw [List.isChain_iff_getElem]
  intro i hi
  rw [length_subTicks] at hi
  have h₁ := toNat_subTick tti (show i < jump.toNat by omega)
  have h₂ := toNat_subTick tti hi
  simp only [subTicks, List.getElem_map, List.getElem_range]
  omega

theorem toNat_pos (h : jump ≠ 0) : 0 < jump.toNat :=
  Nat.pos_of_ne_zero fun h₀ => h (UInt32.toNat_inj.1 h₀)

theorem head?_subTicks (h : jump ≠ 0) : (subTicks tti jump).head? = some (subTick tti jump 0) := by
  obtain ⟨n, hn⟩ := Nat.exists_eq_succ_of_ne_zero (toNat_pos h).ne'
  rw [subTicks, hn, List.range_succ_eq_map]
  rfl

theorem getLast?_subTicks (h : jump ≠ 0) : (subTicks tti jump).getLast? = some (tti % wrap) := by
  have hpos := toNat_pos h
  obtain ⟨n, hn⟩ := Nat.exists_eq_succ_of_ne_zero hpos.ne'
  have hlast : subTick tti jump n = tti % wrap := by
    apply UInt32.toNat_inj.1
    have h₁ := toNat_subTick tti (show n < jump.toNat by omega)
    have h₂ : (tti % wrap).toNat = tti.toNat % 10240 := UInt32.toNat_mod _ _
    omega
  rw [subTicks, hn, List.range_succ, List.map_append, List.getLast?_append]
  exact congrArg some hlast

theorem next?_of_lt (h : a.toNat < 10240) : ∃ b, next? a = some b ∧ b.toNat = (a.toNat + 1) % 10240 := by
  have hsucc : (a + 1).toNat = a.toNat + 1 := by
    rw [UInt32.toNat_add]
    exact Nat.mod_eq_of_lt (by show a.toNat + 1 < 2 ^ 32; omega)
  refine ⟨(a + 1) % wrap, if_pos (by show a.toNat + 1 < 2 ^ 32; omega), ?_⟩
  rw [UInt32.toNat_mod, hsucc]
  rfl

/-- A report begins with the id after the end of another one if it has come so many ticks after it. -/
theorem next?_eq_some_subTick_iff (tti tti' : UInt32) (h : jump ≠ 0) :
    next? (tti' % wrap) = some (subTick tti jump 0) ↔ tti.toNat ≡ tti'.toNat + jump.toNat [MOD 10240] := by
  have hmod : (tti' % wrap).toNat = tti'.toNat % 10240 := UInt32.toNat_mod _ _
  obtain ⟨b, hb, hnat⟩ := next?_of_lt (a := tti' % wrap) (by omega)
  have hfirst := toNat_subTick tti (toNat_pos h)
  rw [hb, Option.some.injEq, ← UInt32.toNat_inj, Nat.ModEq]
  omega

/-! ## Reports one after the other -/

/-- The ids of the `n` ticks up to the point `p` of a clock that never comes round. -/
def upTo (p : Int) (n : Nat) : List UInt32 :=
  (List.range n).map fun i : Nat => UInt32.ofNat ((p - (n - i - 1)) % 10240).toNat

theorem subTicks_eq_upTo (tti jump : UInt32) : subTicks tti jump = upTo tti.toNat jump.toNat := by
  refine List.map_congr_left fun i hi => ?_
  rw [← toNat_subTick tti (List.mem_range.1 hi), Int.toNat_natCast, UInt32.ofNat_toNat]

theorem upTo_congr {p q : Int} (h : p % 10240 = q % 10240) (n : Nat) : upTo p n = upTo q n := by
  refine List.map_congr_left fun i _ => ?_
  have hi : (p - (n - i - 1)) % 10240 = (q - (n - i - 1)) % 10240 := by omega
  rw [hi]

theorem upTo_append (p : Int) (m n : Nat) : upTo (p - n) m ++ upTo p n = upTo p (m + n) := by
  rw [upTo, upTo, upTo, List.range_add, List.map_append, List.map_map]
  refine congrArg₂ (· ++ ·) (List.map_congr_left fun i _ => ?_) (List.map_congr_left fun i _ => ?_)
  · have hi : p - n - (m - i - 1) = p - ((m + n : Nat) - i - 1) := by omega
    rw [hi]
  · have hi : p - (n - i - 1) = p - ((m + n : Nat) - (m + i : Nat) - 1) := by omega
    rw [Function.comp_apply, hi]

/-- A report covers what two reports cover that follow one another. -/
theorem subTicks_append (tti : UInt32) (h : a.toNat + b.toNat < 2 ^ 32) :
    subTicks (sub tti b) a ++ subTicks tti b = subTicks tti (a + b) := by
  have hab : (a + b).toNat = a.toNat + b.toNat := by rw [UInt32.toNat_add, Nat.mod_eq_of_lt h]
  have hb : ((sub tti b).toNat : Int) % 10240 = ((tti.toNat : Int) - b.toNat) % 10240 := by
    rw [toNat_sub, Int.emod_emod]
  rw [subTicks_eq_upTo, subTicks_eq_upTo, subTicks_eq_upTo, hab, upTo_congr hb, upTo_append]

/-- The reports that end at `tti` one after the other, each after so many ticks. -/
def reports (tti : UInt32) : List UInt32 → List (UInt32 × UInt32)
  | [] => []
  | jump :: jumps => (jumps.foldr (fun n tti => sub tti n) tti, jump) :: reports tti jumps

/-- How many ticks the reports cover. -/
def total (jumps : List UInt32) : Nat := (jumps.map (·.toNat)).sum

@[simp] theorem total_nil : total [] = 0 := rfl

@[simp] theorem total_cons (jump : UInt32) (jumps : List UInt32) :
    total (jump :: jumps) = jump.toNat + total jumps := List.sum_cons

theorem total_append (jumps jumps' : List UInt32) : total (jumps ++ jumps') = total jumps + total jumps' := by
  rw [total, List.map_append, List.sum_append]
  rfl

theorem toNat_foldr_sub (tti : UInt32) (jumps : List UInt32) :
    ((jumps.foldr (fun n tti => sub tti n) tti).toNat : Int) % 10240 =
      ((tti.toNat : Int) - total jumps) % 10240 := by
  induction jumps with
  | nil => simp
  | cons jump jumps ih =>
    rw [List.foldr_cons, toNat_sub, total_cons]
    omega

/-- Together the reports cover all their ticks, however many there are. -/
theorem flatMap_reports (tti : UInt32) (jumps : List UInt32) :
    (reports tti jumps).flatMap (fun r => subTicks r.1 r.2) = upTo tti.toNat (total jumps) := by
  induction jumps with
  | nil => rfl
  | cons jump jumps ih =>
    rw [reports, List.flatMap_cons, ih, total_cons, subTicks_eq_upTo, upTo_congr (toNat_foldr_sub tti jumps),
      upTo_append]

end LteUe.Tti
