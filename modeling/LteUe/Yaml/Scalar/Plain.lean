import LteUe.Yaml.Scalar.Folding

/-!
# Plain scalars

A scalar without quotes ends where the text around it goes on: before a colon or a comment, where a
line is not indented deep enough, and, between brackets, before a comma or a bracket.
-/

namespace LteUe.Yaml

def isFlowMark (c : Char) : Bool :=
  c == ',' || c == '[' || c == ']' || c == '{' || c == '}'

/-- The longest part of a text that belongs to a plain scalar and holds no gap. Between brackets a
colon must not stand right before a mark. -/
def plainRun (inFlow : Bool) : List Char → Option (List Char)
  | [] => some []
  | c :: rest =>
    if isGap c then some []
    else if inFlow && c == ':' && rest.head?.any (fun d => isFlowMark d || d == '?') then none
    else if (c == ':' && rest.head?.all isGap) || (inFlow && isFlowMark c) then some []
    else (plainRun inFlow rest).map (c :: ·)

/-- Reads a plain scalar that may lie at columns from `indent` on, in at most as many steps as given.
The characters read so far come first, then the gap behind them. The last answer says whether the
scalar ended with a line. -/
def plainRest (inFlow : Bool) (indent : Nat) :
    Nat → Cursor → List Char → List Char → Option (List Char × Cursor × Bool)
  | 0, _, _, _ => none
  | n + 1, c, acc, gap => do
    let ended := (acc, c, gap.any isBreak)
    if c.seesDocumentMark || c.sees (· == '#') then return ended
    let run ← plainRun inFlow c.rest
    if run.isEmpty then return ended
    let acc := acc ++ foldGap gap ++ run
    let c := c.skip run.length
    let (gap, c) := c.takeGap
    if gap.isEmpty then return (acc, c, false)
    guard !(tabsIndent indent gap)
    if !inFlow && c.column < indent then return (acc, c, gap.any isBreak)
    plainRest inFlow indent n c acc gap

def plainScalar (inFlow : Bool) (indent : Nat) (c : Cursor) :
    Option (List Char × Cursor × Bool) :=
  plainRest inFlow indent (c.rest.length + 1) c [] []

end LteUe.Yaml
