import LteUe.Yaml.Cursor

/-!
# Tokens

The words of a document. Indentation shows as tokens of its own: a block starts with `blockSequence`
or `blockMapping` and ends with `blockEnd`.
-/

namespace LteUe.Yaml

/-- How a scalar is written. -/
inductive Style where
  | plain
  | singleQuoted
  | doubleQuoted
  | literal
  | folded
deriving DecidableEq, Repr

/-- A word of a document. -/
inductive Token where
  | version (major minor : Nat)
  /-- A short form for the start of tags. -/
  | tagDirective (handle start : String)
  | documentStart
  | documentEnd
  | blockSequence
  | blockMapping
  /-- The end of an indented block. -/
  | blockEnd
  | flowSequence
  | flowSequenceEnd
  | flowMapping
  | flowMappingEnd
  /-- The dash before an entry. -/
  | blockEntry
  /-- The comma behind an entry. -/
  | flowEntry
  | key
  | value
  | alias (name : String)
  | anchor (name : String)
  /-- The type of the next node, in its short form. -/
  | tag (handle suffix : String)
  | scalar (style : Style) (text : String)
deriving DecidableEq, Repr

end LteUe.Yaml
