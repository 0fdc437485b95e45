import LteUe.Fault

/-!
# Tick-driven timers

A timer counts down by one with every step of its table and runs its callback when it reaches zero.
The table keeps timers in slots and hands released slots out again, the last released first. A
`TimerId` carries the generation of its slot, a 32-bit word that every release advances, so an id
addresses its slot only until that timer is released (and again after `2 ^ 32` releases of the slot).

Callbacks are values of a type `κ`; what they do is given to `TimerTable.stepAll` as a function. They
run in a context `σ`, may fault, and answer with the callback to keep.
-/

namespace LteUe

variable {κ σ : Type}

/-- Names a timer: its slot and the generation of the slot when the timer was made. -/
structure TimerId where
  index : Nat
  generation : UInt32
deriving DecidableEq, Repr

inductive TimerState where
  | idle
  | running
  /-- Run out and not started again. -/
  | expired
deriving DecidableEq, Repr

/-- A place for one timer. -/
structure TimerSlot (κ : Type) where
  /-- Advanced by every release. -/
  generation : UInt32 := 0
  inUse : Bool := false
  /-- Whether the timer releases itself when it expires. -/
  oneShot : Bool := false
  duration : Nat := 0
  remaining : Nat := 0
  state : TimerState := .idle
  callback : Option κ := none
deriving Repr

namespace TimerSlot

/-- A new timer in the slot: idle, without duration and callback. -/
def occupy (s : TimerSlot κ) : TimerSlot κ where
  generation := s.generation
  inUse := true

def configure (s : TimerSlot κ) (ticks : Nat) (callback : Option κ) : TimerSlot κ :=
  { s with duration := ticks, remaining := ticks, state := .idle, callback := callback }

def start (s : TimerSlot κ) : TimerSlot κ :=
  { s with remaining := s.duration, state := .running }

def halt (s : TimerSlot κ) : TimerSlot κ :=
  { s with state := .idle }

/-- The slot without its timer, one generation on. -/
def vacate (s : TimerSlot κ) : TimerSlot κ :=
  { s with inUse := false, callback := none, state := .idle, generation := s.generation + 1 }

def IsRunning (s : TimerSlot κ) : Prop := s.inUse = true ∧ s.state = .running

instance (s : TimerSlot κ) : Decidable s.IsRunning := inferInstanceAs (Decidable (_ ∧ _))

end TimerSlot

/-- Timers in recycled slots. -/
structure TimerTable (κ : Type) where
  slots : Array (TimerSlot κ) := #[]
  /-- The places of the slots not in use, the next to be handed out first. -/
  free : List Nat := []
deriving Repr

namespace TimerTable

/-- A table of `n` free slots, the lowest to be handed out first. -/
def ofCapacity (n : Nat) : TimerTable κ where
  slots := Array.replicate n {}
  free := List.range n

def modifySlot (t : TimerTable κ) (i : Nat) (f : TimerSlot κ → TimerSlot κ) : TimerTable κ :=
  { t with slots := t.slots.modify i f }

/-- The slot that an id addresses: in use, and of the same generation. -/
def slot? (t : TimerTable κ) (id : TimerId) : Option (TimerSlot κ) :=
  t.slots[id.index]?.filter fun s => s.inUse && s.generation == id.generation

/-- Changes the slot that an id addresses, and says whether there is one. -/
def update (t : TimerTable κ) (id : TimerId) (f : TimerSlot κ → TimerSlot κ) :
    Bool × TimerTable κ :=
  match t.slot? id with
  | some _ => (true, t.modifySlot id.index f)
  | none => (false, t)

/-- Takes the place at the head of the free list, or a new one at the end of the table. -/
def claim (t : TimerTable κ) : Nat × TimerTable κ :=
  match t.free with
  | i :: rest => (i, { t with free := rest })
  | [] => (t.slots.size, { t with slots := t.slots.push {} })

def create (t : TimerTable κ) : TimerId × TimerTable κ :=
  let (i, t) := t.claim
  let generation := t.slots[i]?.elim 0 (·.generation)
  (⟨i, generation⟩, t.modifySlot i (·.occupy))

def set (t : TimerTable κ) (id : TimerId) (ticks : Nat) (callback : Option κ) :
    Bool × TimerTable κ :=
  t.update id (·.configure ticks callback)

/-- Starts a timer, or starts it again, from its full duration. -/
def run (t : TimerTable κ) (id : TimerId) : Bool × TimerTable κ :=
  t.update id (·.start)

def stop (t : TimerTable κ) (id : TimerId) : TimerTable κ :=
  (t.update id (·.halt)).2

def release (t : TimerTable κ) (id : TimerId) : TimerTable κ :=
  match t.slot? id with
  | some _ => { t.modifySlot id.index (·.vacate) with free := id.index :: t.free }
  | none => t

def isRunning (t : TimerTable κ) (id : TimerId) : Bool :=
  (t.slot? id).any (·.state == .running)

def isExpired (t : TimerTable κ) (id : TimerId) : Bool :=
  (t.slot? id).any (·.state == .expired)

def remaining? (t : TimerTable κ) (id : TimerId) : Option Nat :=
  ((t.slot? id).filter (·.state == .running)).map (·.remaining)

def defer (t : TimerTable κ) (ticks : Nat) (callback : κ) : TimerId × TimerTable κ :=
  let (id, t) := t.create
  (id, t.modifySlot id.index fun s => { s.configure ticks (some callback) with oneShot := true }.start)

/-! ### Stepping -/

/-- Runs an action on the context while the table stands by. -/
def inContext {α : Type} (x : EStateM Fault σ α) : EStateM Fault (TimerTable κ × σ) α :=
  fun (t, s) => match x s with
    | .ok a s => .ok a (t, s)
    | .error e s => .error e (t, s)

def onTable (f : TimerTable κ → TimerTable κ) : EStateM Fault (TimerTable κ × σ) Unit :=
  modify fun (t, s) => (f t, s)

/-- Expires the timer in slot `s` at place `i`: its callback is taken out and run; a one-shot timer is
released, any other keeps what its callback answers. A callback that faults is lost. -/
def expire (fire : κ → EStateM Fault σ κ) (i : Nat) (s : TimerSlot κ) :
    EStateM Fault (TimerTable κ × σ) Unit := do
  onTable (·.modifySlot i fun s => { s with remaining := 0, state := .expired, callback := none })
  if let some callback := s.callback then
    let kept ← inContext (fire callback)
    unless s.oneShot do
      onTable (·.modifySlot i fun s => { s with callback := some kept })
  if s.oneShot then
    onTable (·.release ⟨i, s.generation⟩)

def stepSlot (fire : κ → EStateM Fault σ κ) (i : Nat) : EStateM Fault (TimerTable κ × σ) Bool := do
  match (← get).1.slots[i]? with
  | none => return false
  | some s =>
    if s.IsRunning then
      if 1 < s.remaining then
        onTable (·.modifySlot i fun s => { s with remaining := s.remaining - 1 })
        return false
      else
        expire fire i s
        return true
    else
      return false

/-- Advances every running timer by one tick, in the order of their places, and answers with the
number of those that expired. A timer of duration `0` or `1` expires in the first step after it was
started. The first callback that faults ends the step where it stands. -/
def stepAll (fire : κ → EStateM Fault σ κ) : EStateM Fault (TimerTable κ × σ) Nat := do
  -- callbacks do not reach the table, so no slot is added on the way
  let places := List.range (← get).1.slots.size
  places.foldlM (fun expired i => do
    return if ← stepSlot fire i then expired + 1 else expired) 0

/-! ### Counting -/

def size (t : TimerTable κ) : Nat := t.slots.countP (·.inUse)

def runningCount (t : TimerTable κ) : Nat :=
  t.slots.countP fun s => s.inUse && s.state == .running

def text (t : TimerTable κ) : String :=
  s!"TimerFacility \x7b timers: {t.size}, running: {t.runningCount} \x7d"

end TimerTable

end LteUe
