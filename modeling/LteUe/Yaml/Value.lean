import LteUe.Yaml.Node
import LteUe.Yaml.Scalar.Number

/-!
# Values of nodes

What a node reads as where a record, a number, a truth value or a text is wanted. A reference reads as
the node it names.
-/

namespace LteUe.Yaml

namespace Document

/-- The text of a scalar that may be more than a text: a plain one, or a literal one of the type
asked for. -/
def bareText? (d : Document) (type : String) (node : Node) : Option String := do
  match ← d.resolve node with
  | .scalar _ .plain text => some text
  | .scalar (some tag) .literal text => if tag == type then some text else none
  | _ => none

def natBelow? (d : Document) (bound : Nat) (node : Node) : Option Nat := do
  let n ← unsigned? (← d.bareText? "tag:yaml.org,2002:int" node)
  if n < bound then some n else none

def bool? (d : Document) (node : Node) : Option Bool := do
  flag? (← d.bareText? "tag:yaml.org,2002:bool" node)

/-- The text that a node holds. Every scalar is a text. -/
def text? (d : Document) (node : Node) : Option String := do
  match ← d.resolve node with
  | .scalar _ _ text => some text
  | _ => none

/-- The fields that a node holds; a node where nothing is written has none. The keys must be texts. -/
def fields? (d : Document) (node : Node) : Option (List (String × Node)) := do
  match ← d.resolve node with
  | .mapping entries => entries.mapM fun (key, value) => return (← d.text? key, value)
  | .scalar _ .plain "" => some []
  | _ => none

end Document

/-- The value of the field of a name among the fields of a record, or what stands in for it. There
must not be two. -/
def field {α : Type} (fields : List (String × Node)) (name : String) (read : Node → Option α)
    (fallback : α) : Option α :=
  match fields.filter (·.1 == name) with
  | [] => some fallback
  | [(_, node)] => read node
  | _ => none

end LteUe.Yaml
