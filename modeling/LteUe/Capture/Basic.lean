import LteUe.Text.Quoted
import LteUe.World

/-!
# Captures

A capture takes the packets of a layer into a sink. The layer that writes and the executor that closes
it share one capture. The first write that fails closes it, so does a close, and after that the sink is
left alone.
-/

namespace LteUe

/-- A place for the packets of a capture. Opening and writing may fail, with a text. -/
class CaptureSink (S : Type) where
  start : S → String → World → Except String Unit × S × World
  write : S → Bytes → World → Except String Unit × S × World
  close : S → World → S × World

/-- A capture whose sink has been opened. -/
structure Capture (S : Type) where
  layer : String
  sink : S
  isOpen : Bool := true
deriving Repr

namespace Capture

variable {S : Type} [CaptureSink S]

def writeFailed (c : Capture S) (e : String) : Log.Event where
  level := .warn
  target := .stack
  message := s!"capture write failed, closing: {e}"
  fields := [("layer", .text c.layer)]

def shut (c : Capture S) (w : World) : Capture S × World :=
  let (sink, w) := CaptureSink.close c.sink w
  ({ c with sink := sink, isOpen := false }, w)

def write (c : Capture S) (pdu : Bytes) (w : World) : Capture S × World :=
  if c.isOpen then
    match CaptureSink.write c.sink pdu w with
    | (.ok (), sink, w) => ({ c with sink := sink }, w)
    | (.error e, sink, w) => { c with sink := sink }.shut (w.report (c.writeFailed e))
  else (c, w)

def close (c : Capture S) (w : World) : Capture S × World :=
  if c.isOpen then c.shut w else (c, w)

def text (c : Capture S) : String :=
  s!"CaptureHandle \x7b layer: {Text.quoted c.layer}, open: {c.isOpen} \x7d"

end Capture

end LteUe
