import LteUe.Text.Hex
import LteUe.Yaml.Scalar.Folding

/-!
# Quoted scalars

Between single quotes a quote is written twice and all else stands for itself; between double quotes a
backslash starts an escape. Line breaks fold.
-/

namespace LteUe.Yaml

inductive Quote where
  | single
  | double
deriving DecidableEq, Repr

def Quote.mark : Quote → Char
  | single => '\''
  | double => '"'

def escaped? : Char → Option Char
  | '0' => some '\x00'
  | 'a' => some '\x07'
  | 'b' => some '\x08'
  | 't' | '\t' => some '\t'
  | 'n' => some '\n'
  | 'v' => some '\x0b'
  | 'f' => some '\x0c'
  | 'r' => some '\r'
  | 'e' => some '\x1b'
  | ' ' => some ' '
  | '"' => some '"'
  | '/' => some '/'
  | '\\' => some '\\'
  | 'N' => some '\u0085'
  | '_' => some '\u00a0'
  | 'L' => some '\u2028'
  | 'P' => some '\u2029'
  | _ => none

def escapeDigits? : Char → Option Nat
  | 'x' => some 2
  | 'u' => some 4
  | 'U' => some 8
  | _ => none

/-- Reads an escape behind its backslash: the character it stands for, and the length read. -/
def escape? : List Char → Option (Char × Nat)
  | [] => none
  | letter :: rest =>
    match escapeDigits? letter with
    | none => (escaped? letter).map (·, 1)
    | some k => do
      guard (k ≤ rest.length)
      let n ← Hex.number? (rest.take k)
      if h : n.isValidChar then some (Char.ofNatAux n h, k + 1) else none

/-- Reads the rest of a quoted scalar up to its closing quote, in at most as many steps as given; the
characters read so far come first. -/
def quotedRest (q : Quote) : Nat → Cursor → List Char → Option (List Char × Cursor)
  | 0, _, _ => none
  | n + 1, c, acc =>
    if c.seesDocumentMark then none
    else match c.rest with
    | [] => none
    | d :: rest =>
      if isGap d then
        let (gap, c) := c.takeGap
        quotedRest q n c (acc ++ foldGap gap)
      else if d == q.mark then
        if q = .single ∧ rest.head? = some d then quotedRest q n (c.skip 2) (acc ++ [d])
        else some (acc, c.skip)
      else if q = .double ∧ d == '\\' then
        -- an escaped line break joins the lines
        if c.sees isBreak 1 then
          let (gap, c) := c.skip.skipBreak.takeGap
          quotedRest q n c (acc ++ breaksOf gap)
        else do
          let (e, k) ← escape? rest
          quotedRest q n (c.skip (k + 1)) (acc ++ [e])
      else quotedRest q n c.skip (acc ++ [d])

def quotedScalar (q : Quote) (c : Cursor) : Option (List Char × Cursor) :=
  quotedRest q (c.rest.length + 1) c.skip []

end LteUe.Yaml
