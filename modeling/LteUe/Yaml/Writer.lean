import LteUe.Yaml.Cursor
import LteUe.Yaml.Scalar.Number

/-!
# Writing scalars

The written form of a text as a value in an indented mapping. A text of several lines is a literal
block. A text that without quotes would read as a number, a truth value or nothing is quoted; any
other stands for itself if it can, and is quoted otherwise.
-/

namespace LteUe.Yaml

def isWritable (c : Char) : Bool :=
  c == '\n' || (' ' ≤ c && c ≤ '~') ||
    ('\u00a0' ≤ c && c ≤ '\ufffd' && c != '\ufeff') || 0x10000 ≤ c.toNat

/-- Whether the characters before and behind make an indicator of a character. -/
def isMark (before : Option Char) (c : Char) (behind : Option Char) : Bool :=
  match before with
  | none => ",[]\x7b\x7d#&*!|>'\"%@`".toList.contains c || ("?:-".toList.contains c && behind.all isGap)
  | some b => (c == ':' && behind.all isGap) || (c == '#' && isGap b)

def hasMark (before : Option Char) : List Char → Bool
  | [] => false
  | c :: rest => isMark before c rest.head? || hasMark (some c) rest

def hasPair (p q : Char → Bool) (text : List Char) : Bool :=
  (text.zip text.tail).any fun (a, b) => p a && q b

def needsEscapes (text : List Char) : Bool :=
  !text.all isWritable || hasPair (· == ' ') isBreak text

def isPlain (text : List Char) : Bool :=
  !(needsEscapes text || text.any isBreak || text.head?.any (· == ' ') ||
    text.getLast?.any (· == ' ') || hasMark none text || "---".toList.isPrefixOf text ||
    "...".toList.isPrefixOf text)

/-- The digits of a number in base sixteen, in upper case, filled up to a length. -/
def upperHex (length n : Nat) : List Char :=
  let digits := (Nat.toDigits 16 n).map Char.toUpper
  List.replicate (length - digits.length) '0' ++ digits

def doubleQuotedChar (c : Char) : List Char :=
  match c with
  | '\x00' => ['\\', '0']
  | '\x07' => ['\\', 'a']
  | '\x08' => ['\\', 'b']
  | '\t' => ['\\', 't']
  | '\n' => ['\\', 'n']
  | '\x0b' => ['\\', 'v']
  | '\x0c' => ['\\', 'f']
  | '\r' => ['\\', 'r']
  | '\x1b' => ['\\', 'e']
  | '"' => ['\\', '"']
  | '\\' => ['\\', '\\']
  | '\u0085' => ['\\', 'N']
  | '\u2028' => ['\\', 'L']
  | '\u2029' => ['\\', 'P']
  | c =>
    if isWritable c then [c]
    else if c.toNat ≤ 0xff then '\\' :: 'x' :: upperHex 2 c.toNat
    else if c.toNat ≤ 0xffff then '\\' :: 'u' :: upperHex 4 c.toNat
    else '\\' :: 'U' :: upperHex 8 c.toNat

def doubleQuoted (text : List Char) : List Char :=
  '"' :: text.flatMap doubleQuotedChar ++ ['"']

/-- A text between single quotes. A line after a break starts at column `indent`. -/
def singleQuoted (indent : Nat) (text : List Char) : List Char :=
  '\'' :: go false text ++ ['\'']
where
  /-- The characters; the first argument says whether a break comes before them. -/
  go (broken : Bool) : List Char → List Char
    | [] => if broken then List.replicate indent ' ' else []
    | c :: rest =>
      if isBreak c then c :: go true rest
      else
        let pad := if broken then List.replicate indent ' ' else []
        pad ++ (if c == '\'' then ['\'', '\''] else [c]) ++ go false rest

/-- The marks of a literal block: whether its first line starts with a space or is empty, and what
becomes of the breaks at its end. -/
def literalMarks (text : List Char) : List Char :=
  let first := if text.head?.any (fun c => c == ' ' || isBreak c) then ['2'] else []
  let last := match text.reverse with
    | c :: rest => if !isBreak c then ['-'] else if rest.head?.all isBreak then ['+'] else []
    | [] => ['-']
  first ++ last

def literalBlock (indent : Nat) (text : List Char) : List Char :=
  '|' :: literalMarks text ++ '\n' :: go true text
where
  /-- The characters; the first argument says whether a line begins. -/
  go (begins : Bool) : List Char → List Char
    | [] => []
    | c :: rest =>
      if isBreak c then c :: go true rest
      else (if begins then List.replicate indent ' ' else []) ++ c :: go false rest

/-- The written form of a text as a value. Its further lines start at column `indent`. -/
def writeText (indent : Nat) (s : String) : String :=
  let text := s.toList
  String.ofList <|
    if text.contains '\n' then
      if needsEscapes text || text.getLast? == some ' ' then doubleQuoted text
      else literalBlock indent text
    else if !isAmbiguous s && isPlain text then text
    else if needsEscapes text || hasPair isBreak (· == ' ') text then doubleQuoted text
    else singleQuoted indent text

end LteUe.Yaml
