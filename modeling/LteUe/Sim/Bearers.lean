import LteUe.Layers.Radio
import LteUe.Storage.Files

/-!
# Bearers

The packets that wait to be sent, channel by channel. A tick with a connection sends as many as it is
granted, those of the lower channels first.
-/

namespace LteUe

/-- Packets that wait to be sent, and what has been sent. -/
structure Bearers where
  /-- The waiting packets of each channel, oldest first; the channels ascend. -/
  queues : List (Lcid × List Bytes) := []
  sentBytes : Nat := 0
  sentPackets : Nat := 0
  connected : Bool := false
deriving DecidableEq, Repr

namespace Bearers

/-- Adds a packet behind those of its channel. -/
def enqueue (lcid : Lcid) (pdu : Bytes) : List (Lcid × List Bytes) → List (Lcid × List Bytes)
  | [] => [(lcid, [pdu])]
  | (c, pdus) :: rest =>
    if lcid = c then (c, pdus ++ [pdu]) :: rest
    else if lcid < c then (lcid, [pdu]) :: (c, pdus) :: rest
    else (c, pdus) :: enqueue lcid pdu rest

def push (b : Bearers) (lcid : Lcid) (pdu : Bytes) : Bearers :=
  { b with queues := enqueue lcid pdu b.queues }

def waiting (b : Bearers) (lcid : Lcid) : List Bytes := (b.queues.lookup lcid).getD []

def hasData (b : Bearers) (lcid : Lcid) : Bool := !(b.waiting lcid).isEmpty

/-- Takes up to `grant` packets out of the queues, in their order. -/
def take (grant : Nat) : List (Lcid × List Bytes) → List Bytes × List (Lcid × List Bytes)
  | [] => ([], [])
  | (c, pdus) :: rest =>
    let (sent, rest) := take (grant - pdus.length) rest
    (pdus.take grant ++ sent, (c, pdus.drop grant) :: rest)

def transmit (b : Bearers) (grant : Nat) : List Bytes × Bearers :=
  let (sent, queues) := take grant b.queues
  (sent, { b with
    queues := queues
    sentBytes := b.sentBytes + sent.flatten.length
    sentPackets := b.sentPackets + sent.length })

end Bearers

end LteUe
