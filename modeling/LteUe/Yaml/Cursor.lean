/-!
# Reading a document character by character

The character classes of YAML, and a cursor that knows the line and the column of the rest of a text.
A line ends with a carriage return, a line feed, both in this order, `U+0085`, `U+2028` or `U+2029`;
read as text, all but the last two are a line feed.
-/

namespace LteUe.Yaml

def isBreak (c : Char) : Bool :=
  c == '\n' || c == '\r' || c == '\u0085' || c == '\u2028' || c == '\u2029'

def isSpace (c : Char) : Bool := c == ' ' || c == '\t'

def isGap (c : Char) : Bool := isSpace c || isBreak c

def isWord (c : Char) : Bool := c.isAlphanum || c == '_' || c == '-'

def isAllowed (c : Char) : Bool :=
  c == '\t' || c == '\n' || c == '\r' || c == '\u0085' || (' ' ≤ c && c ≤ '~') ||
    ('\u00a0' ≤ c && c ≤ '\ufffd') || 0x10000 ≤ c.toNat

/-- The breaks of a text, as they read; all else is left out. -/
def breaksOf : List Char → List Char
  | [] => []
  | '\r' :: '\n' :: rest => '\n' :: breaksOf rest
  | c :: rest =>
    if c == '\u2028' || c == '\u2029' then c :: breaksOf rest
    else if isBreak c then '\n' :: breaksOf rest
    else breaksOf rest

/-- The rest of a text, and where it starts. -/
structure Cursor where
  rest : List Char
  index : Nat := 0
  line : Nat := 0
  column : Nat := 0
deriving Repr

namespace Cursor

def peek (c : Cursor) (k : Nat := 0) : Option Char := c.rest[k]?

def sees (c : Cursor) (p : Char → Bool) (k : Nat := 0) : Bool := (c.peek k).any p

/-- Whether a gap or the end of the text comes after `k` characters. -/
def seesGap (c : Cursor) (k : Nat := 0) : Bool := (c.peek k).all isGap

def seesLineEnd (c : Cursor) : Bool := c.peek.all isBreak

/-- The cursor behind the next `k` characters, which stay on the line. -/
def skip (c : Cursor) (k : Nat := 1) : Cursor where
  rest := c.rest.drop k
  index := c.index + k
  line := c.line
  column := c.column + k

def skipBreak (c : Cursor) : Cursor :=
  match c.rest with
  | '\r' :: '\n' :: rest => ⟨rest, c.index + 2, c.line + 1, 0⟩
  | d :: rest => if isBreak d then ⟨rest, c.index + 1, c.line + 1, 0⟩ else c
  | [] => c

def skipWhile (c : Cursor) (p : Char → Bool) : Cursor :=
  c.skip (c.rest.takeWhile p).length

def takeWhile (c : Cursor) (p : Char → Bool) : List Char × Cursor :=
  (c.rest.takeWhile p, c.skipWhile p)

def takeBreak (c : Cursor) : List Char × Cursor :=
  (breaksOf (c.rest.take 1), c.skipBreak)

/-- The cursor behind the given characters, over the ends of lines. -/
def past (c : Cursor) : List Char → Cursor
  | [] => c
  | '\r' :: '\n' :: rest => past c.skipBreak rest
  | d :: rest => past (if isBreak d then c.skipBreak else c.skip) rest

def takeGap (c : Cursor) : List Char × Cursor :=
  let gap := c.rest.takeWhile isGap
  (gap, c.past gap)

/-- Whether a line starts here with three characters `mark` and a gap. -/
def seesMark (c : Cursor) (mark : Char) : Bool :=
  c.column == 0 && c.rest.take 3 == [mark, mark, mark] && c.seesGap 3

def seesDocumentMark (c : Cursor) : Bool := c.seesMark '-' || c.seesMark '.'

/-- Skips spaces and tabs, a comment, and the end of the line. Anything else has no answer. -/
def skipLineRest (c : Cursor) : Option Cursor :=
  let c := c.skipWhile isSpace
  let c := if c.sees (· == '#') then c.skipWhile (!isBreak ·) else c
  if c.seesLineEnd then some c.skipBreak else none

end Cursor

end LteUe.Yaml
