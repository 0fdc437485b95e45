/-!
# Result slots

A result slot carries one value from a writer to a reader that waits for it. Any number of writers
may be made for a slot; a writer is used up by its put. The slot keeps the first value put while its
reader is there, and a reader that waits learns that no value can come once no writer is left.

Every operation is one atomic step; `ResultSlot.wait` says `.parked` when the reader goes on waiting.
-/

namespace LteUe

variable {α : Type}

/-- Why a wait ended without a value. -/
inductive SlotError where
  /-- No writer is left and none has put a value. -/
  | abandoned
  | timeout
deriving DecidableEq, Repr

namespace SlotError

def name : SlotError → String
  | abandoned => "Abandoned"
  | timeout => "Timeout"

def message : SlotError → String
  | abandoned => "result slot abandoned before a value was written"
  | timeout => "timed out waiting for the result slot"

end SlotError

/-- A place for one value. -/
structure ResultSlot (α : Type) where
  value : Option α := none
  writers : Nat := 0
  reading : Bool := true
deriving DecidableEq, Repr

namespace ResultSlot

def empty : ResultSlot α := {}

def addWriter (s : ResultSlot α) : ResultSlot α :=
  { s with writers := s.writers + 1 }

def dropWriter (s : ResultSlot α) : ResultSlot α :=
  { s with writers := s.writers - 1 }

/-- A writer puts a value and is used up. The put fails if the slot holds a value or its reader is
gone. -/
def put (s : ResultSlot α) (a : α) : Bool × ResultSlot α :=
  if s.reading && s.value.isNone then
    (true, { s.dropWriter with value := some a })
  else
    (false, s.dropWriter)

def dropReader (s : ResultSlot α) : ResultSlot α :=
  { s with value := none, reading := false }

inductive Wait (α : Type) where
  | over (result : Except SlotError α)
  | parked

/-- One look of a waiting reader. A value is delivered even when no writer is left. -/
def wait (s : ResultSlot α) : Wait α :=
  match s.value with
  | some a => .over (.ok a)
  | none => if s.writers = 0 then .over (.error .abandoned) else .parked

def waitTimeout (s : ResultSlot α) : Except SlotError α :=
  match s.wait with
  | .over result => result
  | .parked => .error .timeout

end ResultSlot

end LteUe
