import LteUe.Yaml.Token

/-!
# Events

A document as a series of events: nodes in the order in which they begin, with the ends of sequences
and mappings. `Events.ofTokens?` reads the one document that a list of tokens holds.

Names are numbered as they are met, by the number of different names before, and a reference holds the
number that its name has then. Of several nodes with one number the last to begin is meant.

The functions of the grammar read one construct each, in at most as many steps as given.
-/

namespace LteUe.Yaml

/-- What comes next in a document. -/
inductive Event where
  | scalar (tag : Option String) (style : Style) (text : String)
  | sequence
  | sequenceEnd
  /-- A mapping begins; keys and values alternate in it. -/
  | mapping
  | mappingEnd
  /-- A reference to the node of a number. -/
  | ref (id : Nat)
deriving DecidableEq, Repr

/-- The node that stands where nothing is written. -/
def Event.nothing : Event := .scalar none .plain ""

structure Events where
  events : Array Event := #[]
  /-- The numbers of named nodes, each with the place at which its node begins; the last one first. -/
  places : List (Nat × Nat) := []
deriving Repr

/-- Reading events from tokens. -/
structure Composer extends Events where
  tokens : List Token
  names : List (String × Nat) := []
  /-- The short forms of tags that are known. -/
  handles : List (String × String) := []

abbrev Compose := StateT Composer Option

namespace Compose

def fail {α : Type} : Compose α := StateT.lift none

def peek : Compose (Option Token) := return (← get).tokens.head?

def skip : Compose Unit := modify fun s => { s with tokens := s.tokens.tail }

def emit (e : Event) : Compose Unit := modify fun s => { s with events := s.events.push e }

/-- Appends the event that begins a node, and notes its name. -/
def begin (name : Option String) (e : Event) : Compose Unit := do
  if let some name := name then
    modify fun s => { s with
      names := (name, s.names.length) :: s.names.filter (·.1 != name)
      places := (s.names.length, s.events.size) :: s.places }
  emit e

def reference (name : String) : Compose Unit := do
  match (← get).names.lookup name with
  | some id => emit (.ref id)
  | none => fail

def accept (t : Token) : Compose Bool := do
  if (← peek) == some t then
    skip
    return true
  else
    return false

def expect (t : Token) : Compose Unit := do
  unless ← accept t do fail

def meets (ts : List Token) : Compose Bool := do
  return (← peek).all (ts.contains ·)

/-! ### Properties of nodes -/

def anchor? : Compose (Option String) := do
  match ← peek with
  | some (.anchor name) =>
    skip
    return some name
  | _ => return none

def tag? : Compose (Option (String × String)) := do
  match ← peek with
  | some (.tag handle suffix) =>
    skip
    return some (handle, suffix)
  | _ => return none

def properties : Compose (Option String × Option (String × String)) := do
  match ← anchor? with
  | some name => return (some name, ← tag?)
  | none =>
    match ← tag? with
    | some tag => return (← anchor?, some tag)
    | none => return (none, none)

/-- A tag in full. Its handle must be known. -/
def fullTag : Option (String × String) → Compose (Option String)
  | none => return none
  | some ("", suffix) => return some suffix
  | some (handle, suffix) => do
    match (← get).handles.lookup handle with
    | some start => return some (start ++ suffix)
    | none => fail

/-! ### Nodes -/

/-- Where a node stands. -/
inductive Place where
  | block
  /-- In a mapping in a block, where a sequence need not be indented. -/
  | blockMapping
  | flow
deriving DecidableEq, Repr

mutual

def node (place : Place) : Nat → Compose Unit
  | 0 => fail
  | n + 1 => do
    if let some (.alias name) ← peek then
      skip
      reference name
      return
    let (anchor, short) ← properties
    let tag ← fullTag short
    match ← peek with
    | some (.scalar style text) =>
      skip
      begin anchor (.scalar (tag.filter (· != "!")) style text)
    | some .flowSequence =>
      skip
      begin anchor .sequence
      flowSequence true n
    | some .flowMapping =>
      skip
      begin anchor .mapping
      flowMapping true n
    | t =>
      if t == some .blockEntry && place == .blockMapping then
        begin anchor .sequence
        flatSequence n
      else if t == some .blockSequence && place != .flow then
        skip
        begin anchor .sequence
        blockSequence n
      else if t == some .blockMapping && place != .flow then
        skip
        begin anchor .mapping
        blockMapping n
      else if anchor.isSome || tag.isSome then
        begin anchor (.scalar tag .plain "")
      else fail

/-- The node of a place, or nothing if one of the tokens `ends` comes next. -/
def nodeOr (place : Place) (ends : List Token) : Nat → Compose Unit
  | 0 => fail
  | n + 1 => do
    if ← meets ends then emit .nothing else node place n

def blockSequence : Nat → Compose Unit
  | 0 => fail
  | n + 1 => do
    if ← accept .blockEntry then
      nodeOr .block [.blockEntry, .blockEnd] n
      blockSequence n
    else
      expect .blockEnd
      emit .sequenceEnd

/-- The entries of a sequence that is not indented. -/
def flatSequence : Nat → Compose Unit
  | 0 => fail
  | n + 1 => do
    if ← accept .blockEntry then
      nodeOr .block [.blockEntry, .key, .value, .blockEnd] n
      flatSequence n
    else
      emit .sequenceEnd

def blockMapping : Nat → Compose Unit
  | 0 => fail
  | n + 1 => do
    if ← accept .key then
      nodeOr .blockMapping [.key, .value, .blockEnd] n
      if ← accept .value then
        nodeOr .blockMapping [.key, .value, .blockEnd] n
      else
        emit .nothing
      blockMapping n
    else
      expect .blockEnd
      emit .mappingEnd

/-- The entries of a sequence in brackets, and its end. A comma separates all but the first. -/
def flowSequence (first : Bool) : Nat → Compose Unit
  | 0 => fail
  | n + 1 => do
    if ← accept .flowSequenceEnd then
      emit .sequenceEnd
    else
      unless first do expect .flowEntry
      if ← accept .key then
        emit .mapping
        singleEntry n
        emit .mappingEnd
        flowSequence false n
      -- a comma may stand before the bracket
      else if ← accept .flowSequenceEnd then
        emit .sequenceEnd
      else
        node .flow n
        flowSequence false n

/-- The one entry of a mapping without braces. The token behind an empty key is passed over. -/
def singleEntry : Nat → Compose Unit
  | 0 => fail
  | n + 1 => do
    if ← meets [.value, .flowEntry, .flowSequenceEnd] then
      skip
      emit .nothing
    else
      node .flow n
    if ← accept .value then
      nodeOr .flow [.flowEntry, .flowSequenceEnd] n
    else
      emit .nothing

def flowMapping (first : Bool) : Nat → Compose Unit
  | 0 => fail
  | n + 1 => do
    if ← accept .flowMappingEnd then
      emit .mappingEnd
    else
      unless first do expect .flowEntry
      if ← accept .key then
        nodeOr .flow [.value, .flowEntry, .flowMappingEnd] n
        if ← accept .value then
          nodeOr .flow [.flowEntry, .flowMappingEnd] n
        else
          emit .nothing
        flowMapping false n
      -- a comma may stand before the brace
      else if ← accept .flowMappingEnd then
        emit .mappingEnd
      else
        node .flow n
        emit .nothing
        flowMapping false n

end

/-! ### The document -/

def isKnownVersion (major minor : Nat) : Bool := major == 1 && (minor == 1 || minor == 2)

/-- The directives of a document, in at most as many steps as given. At most one sets the version, and
no handle is set twice. -/
def directives (versioned : Bool) : Nat → Compose Unit
  | 0 => pure ()
  | n + 1 => do
    match ← peek with
    | some (.version major minor) =>
      if versioned || !isKnownVersion major minor then fail
      skip
      directives true n
    | some (.tagDirective handle start) =>
      if ((← get).handles.lookup handle).isSome then fail
      modify fun s => { s with handles := s.handles ++ [(handle, start)] }
      skip
      directives versioned n
    | _ => pure ()

def standardHandles : List (String × String) := [("!", "!"), ("!!", "tag:yaml.org,2002:")]

def documentEnds : Nat → Compose Unit
  | 0 => pure ()
  | n + 1 => do if ← accept .documentEnd then documentEnds n

def opensDocument : Token → Bool
  | .version .. | .tagDirective .. | .documentStart => true
  | _ => false

def document (fuel : Nat) : Compose Unit := do
  if (← peek).isNone then return
  let opened := (← peek).any opensDocument
  if opened then
    directives false fuel
    expect .documentStart
  modify fun s => { s with handles := s.handles ++ standardHandles }
  -- a document that has been opened may be empty
  let bare := (← peek).all fun t => opensDocument t || t == .documentEnd
  if opened && bare then emit .nothing else node .block fuel
  documentEnds fuel
  if (← peek).isSome then fail

end Compose

/-- The events of the one document that the tokens hold; there are none if there are no tokens. -/
def Events.ofTokens? (tokens : List Token) : Option Events := do
  let (_, s) ← StateT.run (Compose.document (8 * tokens.length + 8)) { tokens := tokens }
  return s.toEvents

end LteUe.Yaml
