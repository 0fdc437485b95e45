import LteUe.Yaml.Scalar.Block
import LteUe.Yaml.Scalar.Plain
import LteUe.Yaml.Token.Lexeme

/-!
# Splitting a document into tokens

A lexer reads tokens from left to right and keeps track of indentation and brackets. A key needs no
mark of its own: when the colon behind it is met, the tokens `blockMapping` and `key` are inserted
where it began. Such a key lies on one line and is at most 1024 characters long.

A malformed document has no tokens.
-/

namespace LteUe.Yaml

/-- A place where a key without a mark may have begun. -/
structure KeyStart where
  /-- Whether a colon must follow. -/
  required : Bool
  tokens : Nat
  index : Nat
  line : Nat
  column : Nat
deriving Repr

/-- What has been read, and where. -/
structure Lexer where
  cursor : Cursor
  tokens : Array Token := #[]
  /-- The columns of the open blocks, innermost first. -/
  blocks : List Nat := []
  /-- Where a key may have begun in the block, or in the innermost brackets. -/
  start : Option KeyStart := none
  /-- The same for the block and the brackets around, one for each pair of brackets. -/
  outer : List (Option KeyStart) := []
  /-- Whether a key without a mark may begin here. -/
  keyAllowed : Bool := true
deriving Repr

abbrev Lex := StateT Lexer Option

namespace Lexer

def inFlow (l : Lexer) : Bool := !l.outer.isEmpty

def startsLeftOf (l : Lexer) (column : Nat) : Bool := l.blocks.head?.all (· < column)

end Lexer

namespace Lex

def fail {α : Type} : Lex α := StateT.lift none

def require (b : Bool) : Lex Unit := if b then pure () else fail

def emit (t : Token) : Lex Unit :=
  modify fun l => { l with tokens := l.tokens.push t }

def allowKey (b : Bool) : Lex Unit :=
  modify fun l => { l with keyAllowed := b }

def skip (k : Nat) : Lex Unit :=
  modify fun l => { l with cursor := l.cursor.skip k }

def read {α : Type} (f : Cursor → Option (α × Cursor)) : Lex α := do
  match f (← get).cursor with
  | some (a, c) =>
    modify fun l => { l with cursor := c }
    return a
  | none => fail

/-! ### Keys without a mark -/

/-- Whether a key that began at `k` can no longer end at the cursor. -/
def isStale (c : Cursor) (k : KeyStart) : Bool := k.line < c.line || k.index + 1024 < c.index

/-- The start of a key, unless it is too far back. A required one must not be. -/
def freshen (c : Cursor) : Option KeyStart → Option (Option KeyStart)
  | some k => if isStale c k then (if k.required then none else some none) else some (some k)
  | none => some none

def dropStale : Lex Unit := do
  let l ← get
  match freshen l.cursor l.start, l.outer.mapM (freshen l.cursor) with
  | some start, some outer => set { l with start := start, outer := outer }
  | _, _ => fail

/-- Forgets where a key may have begun. A required one must not be forgotten. -/
def dropStart : Lex Unit := do
  require !((← get).start.any (·.required))
  modify fun l => { l with start := none }

/-- Notes that a key may begin at the cursor. It is required if the block begins in this column. -/
def noteStart : Lex Unit := do
  let l ← get
  if l.keyAllowed then
    dropStart
    let c := l.cursor
    let required := !l.inFlow && l.blocks.head? == some c.column
    modify fun l => { l with start := some ⟨required, l.tokens.size, c.index, c.line, c.column⟩ }

/-! ### Indentation -/

/-- Opens a block at a column, if none starts there or further right. Its token is inserted at the
given place. -/
def openBlock (column place : Nat) (t : Token) : Lex Unit := do
  let l ← get
  if !l.inFlow && l.startsLeftOf column then
    set { l with
      blocks := column :: l.blocks
      tokens := l.tokens.insertIdxIfInBounds place t }

/-- Closes the blocks that start right of `column`; all of them if none is given. -/
def closeBlocks (column : Option Nat) : Lex Unit := do
  let l ← get
  if !l.inFlow then
    let closed := l.blocks.takeWhile fun b => column.all (· < b)
    set { l with
      blocks := l.blocks.drop closed.length
      tokens := l.tokens ++ Array.replicate closed.length Token.blockEnd }

/-! ### Tokens -/

/-- Skips spaces, comments and line breaks. A tab is skipped only where no key may begin. A byte order
mark at the start of a line is skipped, and counts as a column. -/
def skipToToken : Nat → Lex Unit
  | 0 => pure ()
  | n + 1 => do
    let l ← get
    let c := l.cursor
    let c := if c.column == 0 && c.sees (· == '\ufeff') then c.skip else c
    let tabs := l.inFlow || !l.keyAllowed
    let c := c.skipWhile fun d => d == ' ' || (tabs && d == '\t')
    let c := if c.sees (· == '#') then c.skipWhile (!isBreak ·) else c
    if c.sees isBreak then
      set { l with cursor := c.skipBreak, keyAllowed := l.keyAllowed || !l.inFlow }
      skipToToken n
    else
      set { l with cursor := c }

def directive : Lex Unit := do
  closeBlocks none
  dropStart
  allowKey false
  emit (← read directiveToken)

def documentMark (t : Token) : Lex Unit := do
  closeBlocks none
  dropStart
  allowKey false
  skip 3
  emit t

def openBracket (t : Token) : Lex Unit := do
  -- the bracket may begin a key of its own, which is put aside for the keys inside
  noteStart
  modify fun l => { l with start := none, outer := l.start :: l.outer }
  allowKey true
  skip 1
  emit t

def closeBracket (t : Token) : Lex Unit := do
  dropStart
  modify fun l => match l.outer with
    | start :: outer => { l with start := start, outer := outer }
    | [] => l
  allowKey false
  skip 1
  emit t

def comma : Lex Unit := do
  dropStart
  allowKey true
  skip 1
  emit .flowEntry

def openBlockHere (t : Token) : Lex Unit := do
  let l ← get
  unless l.inFlow do
    require l.keyAllowed
    openBlock l.cursor.column l.tokens.size t

def dash : Lex Unit := do
  openBlockHere .blockSequence
  dropStart
  allowKey true
  skip 1
  emit .blockEntry

def questionMark : Lex Unit := do
  openBlockHere .blockMapping
  dropStart
  allowKey !(← get).inFlow
  skip 1
  emit .key

/-- The colon before a value. It makes a key of what began before it on the line. -/
def colon : Lex Unit := do
  let l ← get
  match l.start with
  | some k =>
    set { l with
      tokens := l.tokens.insertIdxIfInBounds k.tokens .key
      start := none
      keyAllowed := false }
    openBlock k.column k.tokens .blockMapping
  | none =>
    openBlockHere .blockMapping
    allowKey !l.inFlow
  skip 1
  emit .value

def named (t : String → Token) : Lex Unit := do
  noteStart
  allowKey false
  emit (t (← read anchorName))

def tag : Lex Unit := do
  noteStart
  allowKey false
  emit (← read (tagToken (← get).inFlow))

def block (style : Style) : Lex Unit := do
  dropStart
  allowKey true
  let text ← read (blockScalar (style == .folded) (← get).blocks.head?)
  emit (.scalar style (String.ofList text))

def quoted (style : Style) (q : Quote) : Lex Unit := do
  noteStart
  allowKey false
  emit (.scalar style (String.ofList (← read (quotedScalar q))))

/-- A scalar without quotes. When it ends with a line, a key may begin behind it. -/
def plain : Lex Unit := do
  noteStart
  let l ← get
  match plainScalar l.inFlow (l.blocks.head?.elim 0 (· + 1)) l.cursor with
  | some (text, c, ended) =>
    set { l with cursor := c, keyAllowed := ended }
    emit (.scalar .plain (String.ofList text))
  | none => fail

def isIndicator (c : Char) : Bool := "-?:,[]\x7b\x7d#&*!|>'\"%@`".toList.contains c

def seesPlain (inFlow : Bool) (c : Cursor) : Bool :=
  c.sees (fun d => !isGap d && !isIndicator d) ||
    (c.sees (· == '-') && !c.sees isSpace 1) ||
    (!inFlow && c.sees (fun d => d == '?' || d == ':') && !c.seesGap 1)

def next : Lex Unit := do
  let l ← get
  let c := l.cursor
  let flow := l.inFlow
  -- between brackets a mark needs no gap behind it
  let marks := flow || c.seesGap 1
  match c.peek with
  | none => fail
  | some d =>
    if c.column == 0 && d == '%' then directive
    else if c.seesMark '-' then documentMark .documentStart
    else if c.seesMark '.' then documentMark .documentEnd
    else if d == '[' then openBracket .flowSequence
    else if d == '\x7b' then openBracket .flowMapping
    else if d == ']' then closeBracket .flowSequenceEnd
    else if d == '\x7d' then closeBracket .flowMappingEnd
    else if d == ',' then comma
    else if d == '-' && c.seesGap 1 then dash
    else if d == '?' && marks then questionMark
    else if d == ':' && marks then colon
    else if d == '*' then named .alias
    else if d == '&' then named .anchor
    else if d == '!' then tag
    else if d == '|' && !flow then block .literal
    else if d == '>' && !flow then block .folded
    else if d == '\'' then quoted .singleQuoted .single
    else if d == '"' then quoted .doubleQuoted .double
    else if seesPlain flow c then plain
    else fail

/-- Ends the document at the end of the text, as if a line ended there. -/
def finish : Lex Unit := do
  closeBlocks none
  dropStart

/-- Reads tokens to the end of the text, in at most as many steps as given. -/
def run : Nat → Lex Unit
  | 0 => fail
  | n + 1 => do
    skipToToken ((← get).cursor.rest.length + 1)
    dropStale
    let l ← get
    closeBlocks (some l.cursor.column)
    if l.cursor.rest.isEmpty then finish
    else
      next
      run n

end Lex

def Token.scan (text : String) : Option (List Token) := do
  let chars := text.toList
  guard (chars.all isAllowed)
  let (_, l) ← StateT.run (Lex.run (chars.length + 1)) { cursor := { rest := chars } }
  return l.tokens.toList

end LteUe.Yaml
