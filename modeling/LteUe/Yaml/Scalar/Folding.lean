import LteUe.Yaml.Cursor

/-!
# Folding of lines

What stands between two words of a scalar that may go over several lines. A gap without a line break
reads as it is; one line break reads as a space, and more of them as all but the first.
-/

namespace LteUe.Yaml

/-- The text of a gap that starts with the line break `breaks.head`. -/
def foldBreaks : List Char → List Char
  | ['\n'] => [' ']
  | '\n' :: more => more
  | breaks => breaks

def foldGap (gap : List Char) : List Char :=
  match breaksOf gap with
  | [] => gap
  | breaks => foldBreaks breaks

/-- Whether a tab stands left of column `indent` on one of the lines that a gap starts. -/
def tabsIndent (indent : Nat) (gap : List Char) : Bool :=
  go (gap.dropWhile (!isBreak ·)) 0
where
  go : List Char → Nat → Bool
    | [], _ => false
    | c :: rest, column =>
      if isBreak c then go rest 0
      else (c == '\t' && column < indent) || go rest (column + 1)

end LteUe.Yaml
