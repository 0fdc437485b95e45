/-!
# Base sixteen

Numbers and octets in base sixteen. Digits above nine are written in lower case and read in either
case. An octet has two digits, so reading what has been written gives it back.
-/

namespace LteUe.Hex

def digit? (c : Char) : Option Nat :=
  if c.isDigit then some (c.toNat - '0'.toNat)
  else if 'a' ≤ c ∧ c ≤ 'f' then some (c.toNat - 'a'.toNat + 10)
  else if 'A' ≤ c ∧ c ≤ 'F' then some (c.toNat - 'A'.toNat + 10)
  else none

def number? (digits : List Char) : Option Nat :=
  digits.foldlM (fun n c => return 16 * n + (← digit? c)) 0

/-- The octets that pairs of digits write. -/
def octets? : List Char → Option (List UInt8)
  | [] => some []
  | [_] => none
  | a :: b :: rest => do
    let n ← number? [a, b]
    return .ofNat n :: (← octets? rest)

def ofOctet (b : UInt8) : List Char :=
  [Nat.digitChar (b.toNat / 16), Nat.digitChar (b.toNat % 16)]

def ofOctets (octets : List UInt8) : String := String.ofList (octets.flatMap ofOctet)

theorem digit?_digitChar {n : Nat} (h : n < 16) : digit? (Nat.digitChar n) = some n := by
  have : ∀ n : Fin 16, digit? (Nat.digitChar n) = some n.val := by decide
  exact this ⟨n, h⟩

theorem number?_ofOctet (b : UInt8) : number? (ofOctet b) = some b.toNat := by
  have hb : b.toNat < 256 := b.toNat_lt
  simp [number?, ofOctet, digit?_digitChar (show b.toNat / 16 < 16 by omega),
    digit?_digitChar (show b.toNat % 16 < 16 by omega)]
  omega

/-- What has been written reads as the same octets. -/
theorem octets?_flatMap_ofOctet (octets : List UInt8) :
    octets? (octets.flatMap ofOctet) = some octets := by
  induction octets with
  | nil => rfl
  | cons b rest ih =>
    have h : octets? (ofOctet b ++ rest.flatMap ofOctet) = do
        let n ← number? (ofOctet b)
        return .ofNat n :: (← octets? (rest.flatMap ofOctet)) := rfl
    simp [h, number?_ofOctet, ih]

end LteUe.Hex
