import LteUe.Report.Basic
import LteUe.Yaml.Writer

/-!
# Written reports

A report as an indented document: each named value on a line of its own, records two columns further
in, and the values of a list behind dashes at the column of their name.
-/

namespace LteUe.Report

/-- The text of a value that has no lines of its own. Its further lines start at column `indent`. -/
def inline? (indent : Nat) : Report → Option String
  | null => some "null"
  | flag b => some (toString b)
  | num n => some (toString n)
  | text s => some (Yaml.writeText indent s)
  | list [] => some "[]"
  | record [] => some "\x7b\x7d"
  | list (_ :: _) | record (_ :: _) => none

/-- The columns by which the lines of a value stand further in than its name. -/
def depth : Report → Nat
  | record _ => 2
  | _ => 0

def dashed : List (Nat × String) → List (Nat × String)
  | [] => []
  | (column, line) :: rest => (column - 2, "- " ++ line) :: rest

mutual

def lines (column : Nat) : Report → List (Nat × String)
  | list items => itemLines column items
  | record fields => fieldLines column fields
  | null | flag _ | num _ | text _ => []

def itemLines (column : Nat) : List Report → List (Nat × String)
  | [] => []
  | item :: rest =>
    (match item.inline? (column + 2) with
      | some value => [(column, s!"- {value}")]
      | none => dashed (lines (column + 2) item)) ++ itemLines column rest

def fieldLines (column : Nat) : List (String × Report) → List (Nat × String)
  | [] => []
  | (key, value) :: rest =>
    (match value.inline? (column + 2) with
      | some line => [(column, s!"{key}: {line}")]
      | none => (column, s!"{key}:") :: lines (column + value.depth) value) ++ fieldLines column rest

end

/-- A line at its column, with a line feed at its end unless it ends in a break of its own. -/
def ended (column : Nat) (line : String) : String :=
  String.ofList (List.replicate column ' ') ++
    (if line.toList.getLast?.any Yaml.isBreak then line else line ++ "\n")

def write (r : Report) : String :=
  match r.inline? 0 with
  | some value => ended 0 value
  | none => String.join ((lines 0 r).map fun (column, line) => ended column line)

end LteUe.Report
