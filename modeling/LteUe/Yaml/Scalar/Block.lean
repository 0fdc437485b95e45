import LteUe.Yaml.Scalar.Folding

/-!
# Block scalars

A scalar whose lines are set off by their indentation. A literal one keeps its line breaks, a folded
one folds them between lines that do not start with a space; the header says what becomes of the
breaks at the end.
-/

namespace LteUe.Yaml

/-- What becomes of the line breaks at the end of a block scalar. -/
inductive Chomping where
  | strip
  | clip
  | keep
deriving DecidableEq, Repr

namespace Chomping

def ofMark? : Char → Option Chomping
  | '-' => some strip
  | '+' => some keep
  | _ => none

end Chomping

/-- Reads the header behind the indicator of a block scalar, with its two marks in either order. The
depth is written as a digit from `1` to `9`. -/
def blockHeader (c : Cursor) : Option (Chomping × Option Nat × Cursor) := do
  let (chomping, c) := mark c
  let (depth, c) ← digit c
  let (chomping, c) := if chomping.isNone then mark c else (chomping, c)
  return (chomping.getD .clip, depth, ← c.skipLineRest)
where
  mark (c : Cursor) : Option Chomping × Cursor :=
    match c.peek.bind Chomping.ofMark? with
    | some m => (some m, c.skip)
    | none => (none, c)
  digit (c : Cursor) : Option (Option Nat × Cursor) :=
    match c.peek with
    | some d =>
      if d == '0' then none
      else if d.isDigit then some (some (d.toNat - '0'.toNat), c.skip)
      else some (none, c)
    | none => some (none, c)

/-- Reads blank lines and the indentation of the line after them, in at most as many steps as given.
`indent` bounds the spaces that count as indentation; a tab must not stand among them. The answer
holds the breaks and the largest column met. -/
def blockBreaks (indent : Option Nat) :
    Nat → Cursor → List Char → Nat → Option (List Char × Nat × Cursor)
  | 0, _, _, _ => none
  | n + 1, c, breaks, deepest => do
    let spaces := (c.rest.takeWhile (· == ' ')).length
    let c := c.skip (indent.elim spaces fun i => min spaces (i - c.column))
    let deepest := max deepest c.column
    guard !(c.sees (· == '\t') && indent.all (c.column < ·))
    if c.sees isBreak then
      let (b, c) := c.takeBreak
      blockBreaks indent n c (breaks ++ b) deepest
    else
      return (breaks, deepest, c)

/-- Reads the lines of a block scalar at column `indent`, in at most as many steps as given. `lead` is
the break behind the line before, `breaks` are the blank lines after it, and `spaced` says whether
that line starts with a space. -/
def blockLines (folded : Bool) (indent : Nat) :
    Nat → Cursor → List Char → List Char → List Char → Bool →
      Option (List Char × List Char × List Char × Cursor)
  | 0, _, _, _, _, _ => none
  | n + 1, c, acc, lead, breaks, spaced =>
    if c.column == indent && c.peek.isSome then do
      let startsSpaced := c.sees isSpace
      let folds := folded && lead == ['\n'] && !spaced && !startsSpaced
      let between := if folds then foldBreaks (lead ++ breaks) else lead ++ breaks
      let (line, c) := c.takeWhile (!isBreak ·)
      let (lead, c) := c.takeBreak
      let (breaks, _, c) ← blockBreaks (some indent) (c.rest.length + 1) c [] 0
      blockLines folded indent n c (acc ++ between ++ line) lead breaks startsSpaced
    else
      some (acc, lead, breaks, c)

/-- Reads a block scalar that starts here. `parent` is the column of the block around it, if there is
one. -/
def blockScalar (folded : Bool) (parent : Option Nat) (c : Cursor) : Option (List Char × Cursor) := do
  let (chomping, depth, c) ← blockHeader c.skip
  let least := parent.elim 0 (· + 1)
  let fixed := depth.map fun d => parent.elim d (· + d)
  let (breaks, deepest, c) ← blockBreaks fixed (c.rest.length + 1) c [] 0
  -- without a depth the first line decides, if it lies deeper than the block around
  let indent := fixed.getD (max deepest (max least 1))
  let (text, lead, breaks, c) ← blockLines folded indent (c.rest.length + 1) c [] [] breaks false
  return match chomping with
    | .strip => (text, c)
    | .clip => (text ++ lead, c)
    | .keep => (text ++ lead ++ breaks, c)

end LteUe.Yaml
