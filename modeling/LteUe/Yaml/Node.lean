import LteUe.Yaml.Event
import LteUe.Yaml.Token.Lexer

/-!
# Nodes

A document as a tree. A reference to a named node stays a reference, since a node may refer to itself;
`Document.resolve` follows it.
-/

namespace LteUe.Yaml

inductive Node where
  | scalar (tag : Option String) (style : Style) (text : String)
  | sequence (items : List Node)
  /-- A mapping, in the order in which it is written. -/
  | mapping (entries : List (Node × Node))
  /-- A reference to the node of a number. -/
  | ref (id : Nat)

namespace Node

mutual

/-- The node that begins here, and the events behind it, in at most as many steps as given. -/
def ofEvents? : Nat → List Event → Option (Node × List Event)
  | 0, _ => none
  | n + 1, events =>
    match events with
    | .scalar tag style text :: rest => some (.scalar tag style text, rest)
    | .ref id :: rest => some (.ref id, rest)
    | .sequence :: rest => do
      let (items, rest) ← items? n rest
      return (.sequence items, rest)
    | .mapping :: rest => do
      let (entries, rest) ← entries? n rest
      return (.mapping entries, rest)
    | _ => none

def items? : Nat → List Event → Option (List Node × List Event)
  | 0, _ => none
  | n + 1, events =>
    match events with
    | .sequenceEnd :: rest => some ([], rest)
    | events => do
      let (item, rest) ← ofEvents? n events
      let (items, rest) ← items? n rest
      return (item :: items, rest)

def entries? : Nat → List Event → Option (List (Node × Node) × List Event)
  | 0, _ => none
  | n + 1, events =>
    match events with
    | .mappingEnd :: rest => some ([], rest)
    | events => do
      let (key, rest) ← ofEvents? n events
      let (value, rest) ← ofEvents? n rest
      let (entries, rest) ← entries? n rest
      return ((key, value) :: entries, rest)

end

end Node

structure Document where
  root : Option Node
  /-- The named nodes by their numbers. -/
  named : List (Nat × Node) := []

namespace Document

def ofEvents? (e : Events) : Option Document := do
  let events := e.events.toList
  let nodeAt (place : Nat) : Option Node :=
    (Node.ofEvents? (events.length + 1) (events.drop place)).map Prod.fst
  if events.isEmpty then
    return { root := none }
  else
    return {
      root := some (← nodeAt 0)
      -- the last place comes first, so the last node to begin is the one looked up
      named := e.places.filterMap fun (id, place) => (nodeAt place).map (id, ·) }

def ofText? (text : String) : Option Document := do
  ofEvents? (← Events.ofTokens? (← Token.scan text))

/-- The node itself, where a reference is followed. -/
def resolve (d : Document) : Node → Option Node
  | .ref id => d.named.lookup id
  | node => some node

end Document

end LteUe.Yaml
