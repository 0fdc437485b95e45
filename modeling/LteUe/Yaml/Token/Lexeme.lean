import LteUe.Yaml.Scalar.Quoted
import LteUe.Yaml.Token

/-!
# Directives, anchors and tags

Each function reads one of the shorter tokens from its indicator on. A malformed one has no answer.
-/

namespace LteUe.Yaml

/-! ### Tags -/

/-- Characters of a tag. Verbatim tags and directives hold a few more. -/
def isTagCharacter (verbatim : Bool) (c : Char) : Bool :=
  isWord c || ";/?:@&=+$.%!~*'()".toList.contains c || (verbatim && ",[]".toList.contains c)

def percentOctet? : List Char → Option (Nat × List Char)
  | '%' :: a :: b :: rest => do return ((← Hex.number? [a, b]), rest)
  | _ => none

def encodedLength? (octet : Nat) : Option Nat :=
  if octet < 0x80 then some 1
  else if 0xc0 ≤ octet ∧ octet < 0xe0 then some 2
  else if 0xe0 ≤ octet ∧ octet < 0xf0 then some 3
  else if 0xf0 ≤ octet ∧ octet < 0xf8 then some 4
  else none

/-- Reads `k` further octets of an encoded character, and appends their bits to those before. -/
def furtherOctets? : Nat → Nat → List Char → Option (Nat × List Char)
  | 0, n, rest => some (n, rest)
  | k + 1, n, rest => do
    let (octet, rest) ← percentOctet? rest
    guard (0x80 ≤ octet ∧ octet < 0xc0)
    furtherOctets? k (64 * n + (octet - 0x80)) rest

def percentCharacter? (text : List Char) : Option (Char × List Char) := do
  let (octet, rest) ← percentOctet? text
  let k ← encodedLength? octet
  let first := if k = 1 then octet else octet % (1 <<< (7 - k))
  let (n, rest) ← furtherOctets? (k - 1) first rest
  -- the code of no character reads as the replacement character
  return (if h : n.isValidChar then Char.ofNatAux n h else '\ufffd', rest)

/-- Resolves the percent signs of a tag, in at most as many steps as given. -/
def percentDecoded? : Nat → List Char → Option (List Char)
  | 0, _ => none
  | _ + 1, [] => some []
  | n + 1, '%' :: rest => do
    let (c, rest) ← percentCharacter? ('%' :: rest)
    return c :: (← percentDecoded? n rest)
  | n + 1, c :: rest => do return c :: (← percentDecoded? n rest)

/-- Reads the characters of a tag. What follows a `NUL` is not part of it. -/
def tagText (verbatim : Bool) (c : Cursor) : Option (List Char × Cursor) := do
  let (raw, c) := c.takeWhile (isTagCharacter verbatim)
  let text ← percentDecoded? (raw.length + 1) raw
  return (text.takeWhile (· != '\x00'), c)

def tagHandle (c : Cursor) : Option (List Char × Cursor) := do
  guard (c.sees (· == '!'))
  let (name, c) := c.skip.takeWhile isWord
  if c.sees (· == '!') then return ('!' :: name ++ ['!'], c.skip)
  else return ('!' :: name, c)

/-- Whether a handle ends with a mark of its own. -/
def isClosedHandle (handle : List Char) : Bool :=
  2 ≤ handle.length && handle.getLast? == some '!'

/-- Reads a tag. The handle is empty if the tag is written in full. -/
def tagToken (inFlow : Bool) (c : Cursor) : Option (Token × Cursor) := do
  let (handle, suffix, c) ← parts c
  guard (c.seesGap || (inFlow && c.sees (· == ',')))
  return (.tag (String.ofList handle) (String.ofList suffix), c)
where
  parts (c : Cursor) : Option (List Char × List Char × Cursor) := do
    -- between angle brackets a tag is written in full
    if c.sees (· == '<') 1 then
      let c := c.skip 2
      guard (c.sees (isTagCharacter true))
      let (text, c) ← tagText true c
      guard (c.sees (· == '>'))
      return ([], text, c.skip)
    else
      let (handle, c) ← tagHandle c
      if isClosedHandle handle then
        guard (c.sees (isTagCharacter false))
        let (suffix, c) ← tagText false c
        return (handle, suffix, c)
      else
        let (rest, c) ← tagText false c
        let suffix := handle.tail ++ rest
        return if suffix.isEmpty then ([], ['!'], c) else (['!'], suffix, c)

/-! ### Anchors -/

def anchorName (c : Cursor) : Option (String × Cursor) := do
  let (name, c) := c.skip.takeWhile isWord
  guard (!name.isEmpty && (c.seesGap || c.sees ("?:,]\x7d%@`".toList.contains ·)))
  return (String.ofList name, c)

/-! ### Directives -/

def versionNumber (c : Cursor) : Option (Nat × Cursor) := do
  let (digits, c) := c.takeWhile Char.isDigit
  guard (!digits.isEmpty && digits.length ≤ 9)
  return (digits.foldl (fun n d => 10 * n + (d.toNat - '0'.toNat)) 0, c)

/-- Reads a directive from its percent sign to the end of its line. -/
def directiveToken (c : Cursor) : Option (Token × Cursor) := do
  let (name, c) := c.skip.takeWhile isWord
  guard c.seesGap
  let c := c.skipWhile isSpace
  match String.ofList name with
  | "YAML" =>
    let (major, c) ← versionNumber c
    guard (c.sees (· == '.'))
    let (minor, c) ← versionNumber c.skip
    return (.version major minor, ← c.skipLineRest)
  | "TAG" =>
    let (handle, c) ← tagHandle c
    guard (isClosedHandle handle || handle == ['!'])
    guard (c.sees isSpace)
    let c := c.skipWhile isSpace
    guard (c.sees (isTagCharacter true))
    let (start, c) ← tagText true c
    guard c.seesGap
    return (.tagDirective (String.ofList handle) (String.ofList start), ← c.skipLineRest)
  | _ => none

end LteUe.Yaml
