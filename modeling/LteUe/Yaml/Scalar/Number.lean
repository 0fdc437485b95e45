import LteUe.Text.Hex

/-!
# Texts that are more than texts

What a text reads as where it stands without quotes: a whole number, a decimal number, a truth value
or nothing. A sign before digits with a leading zero makes no number of them, yet such a text is never
written without quotes either.
-/

namespace LteUe.Yaml

/-! ### Whole numbers -/

/-- Whether a text is a sign, if any, and more than one digit with a leading zero. Such a text is no
number. -/
def isZeroPadded (digits : List Char) : Bool :=
  let digits := match digits with
    | '+' :: rest | '-' :: rest => rest
    | _ => digits
  1 < digits.length && digits.head? == some '0' && digits.all Char.isDigit

/-- The value of digits in a base from `2` to `16`. There must be one digit at least. -/
def digitsValue? (base : Nat) (digits : List Char) : Option Nat :=
  if digits.isEmpty then none
  else digits.foldlM (fun n c => do
    let d ← Hex.digit? c
    if d < base then some (base * n + d) else none) 0

/-- The whole number that a text without a sign writes: in base sixteen, eight or two behind `0x`,
`0o` and `0b`, and otherwise in base ten without leading zeros. -/
def magnitude? : List Char → Option Nat
  | '0' :: 'x' :: digits => digitsValue? 16 digits
  | '0' :: 'o' :: digits => digitsValue? 8 digits
  | '0' :: 'b' :: digits => digitsValue? 2 digits
  | digits => if isZeroPadded digits then none else digitsValue? 10 digits

def unsigned? (text : String) : Option Nat :=
  match text.toList with
  | '+' :: rest => magnitude? rest
  | chars => magnitude? chars

/-- How far below zero the whole number lies that a text writes behind a minus sign. -/
def negative? (text : String) : Option Nat :=
  match text.toList with
  | '-' :: rest => magnitude? rest
  | _ => none

def isWhole (text : String) : Bool :=
  (unsigned? text).any (· < 1 <<< 128) || (negative? text).any (· ≤ 1 <<< 127)

/-! ### Decimal numbers -/

structure Decimal where
  coefficient : Nat
  /-- By how many places the point stands behind them. -/
  exponent : Int
deriving DecidableEq, Repr

namespace Decimal

def exponent? : List Char → Option Int
  | [] => some 0
  | mark :: rest =>
    if mark == 'e' || mark == 'E' then
      match rest with
      | '-' :: digits => (digitsValue? 10 digits).map fun n => -(n : Int)
      | '+' :: digits | digits => (digitsValue? 10 digits).map Int.ofNat
    else none

/-- The decimal number that a text without a sign writes: digits, which a point may split, and an
exponent. There must be one digit at least. -/
def ofText? (text : List Char) : Option Decimal := do
  let (whole, rest) := text.span Char.isDigit
  let (fraction, rest) := match rest with
    | '.' :: rest => rest.span Char.isDigit
    | rest => ([], rest)
  let coefficient ← digitsValue? 10 (whole ++ fraction)
  return ⟨coefficient, (← exponent? rest) - fraction.length⟩

/-- From here on a number rounds to infinity in double precision: half a unit above the greatest
finite one. -/
def limit : Nat := (1 <<< 1024) - (1 <<< 970)

/-- Whether a number is finite in double precision. A power of ten beyond `309` digits, or with more
places than the coefficient has bits, decides whatever its size is. -/
def isFinite (d : Decimal) : Bool :=
  match d.exponent with
  | .ofNat e => d.coefficient * Nat.pow 10 (min e 309) < limit
  | .negSucc e => d.coefficient < limit * Nat.pow 10 (min (e + 1) (d.coefficient.log2 + 1))

end Decimal

/-- Whether a text writes a decimal number that is finite in double precision, an infinity or no
number. -/
def isReal (text : String) : Bool :=
  let size := match text.toList with
    | '+' :: rest | '-' :: rest => rest
    | chars => chars
  [".inf", ".Inf", ".INF"].contains (String.ofList size) ||
    [".nan", ".NaN", ".NAN"].contains text || (Decimal.ofText? size).any Decimal.isFinite

/-! ### Truth values and nothing -/

def flag? : String → Option Bool
  | "true" | "True" | "TRUE" => some true
  | "false" | "False" | "FALSE" => some false
  | _ => none

def isNothing (text : String) : Bool := ["", "~", "null", "Null", "NULL"].contains text

/-- Whether a text reads as something else than a text where it stands without quotes, or nearly
so. -/
def isAmbiguous (text : String) : Bool :=
  isNothing text || (flag? text).isSome || isWhole text || isZeroPadded text.toList || isReal text

end LteUe.Yaml
