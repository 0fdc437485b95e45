import LteUe.Stack.Shared

/-!
# Requests

What users and the radio ask of a stack without waiting for an answer. A request that may wait for room
in its queue has no answer while that queue is full.
-/

namespace LteUe.Shared

variable {κ : Type}

/-! ### Requests of users -/

def attachRefused (e : PushError Task) : Log.Event where
  level := .warn
  target := .nas
  message := s!"attach request not queued: {e.message}"

/-- Asks for an attach, and says whether the request was enqueued. Only a running stack takes one. -/
def requestAttach (s : Shared κ) : Bool × Shared κ :=
  if s.state ≠ .running then (false, s)
  else match s.tryEnqueue .ue .attach with
    | (.ok (), s) => (true, s)
    | (.error e, s) => (false, s.report (attachRefused e))

def uplinkDiscarded (lcid : Lcid) : Log.Event where
  level := .warn
  target := .pdcp
  message := "gateway queue full, SDU discarded"
  fields := [("lcid", .num lcid)]

/-- Enqueues an uplink packet without waiting. One that finds the queue full is counted. -/
def tryUplink (s : Shared κ) (lcid : Lcid) (sdu : Bytes) : Bool × Shared κ :=
  match s.tryEnqueue .gateway (.uplink lcid sdu false) with
  | (.ok (), s) => (true, s)
  | (.error e, s) =>
    (false, if e.isFull then
      { s with uplinkDropped := s.uplinkDropped + 1 }.report (uplinkDiscarded lcid) else s)

/-- Enqueues an uplink packet, and says whether it was taken. A caller that waits for room is never
told that the queue is full. -/
def uplink (s : Shared κ) (lcid : Lcid) (sdu : Bytes) (blocking : Bool) : Option (Bool × Shared κ) :=
  if blocking then
    (s.enqueue .gateway (.uplink lcid sdu true)).map fun (r, s) => (r.isOk, s)
  else some (s.tryUplink lcid sdu)

/-! ### Reports of the radio -/

def notifySync (s : Shared κ) (inSync : Bool) : Option (Shared κ) :=
  (s.enqueue .sync (.sync inSync)).map Prod.snd

def advanceClock (s : Shared κ) (tti jump : UInt32) : Option (Shared κ) :=
  (s.enqueue .sync (.tick tti jump)).map Prod.snd

end LteUe.Shared
