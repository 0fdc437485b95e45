import LteUe.Log
import LteUe.Storage.BufferedFile
import LteUe.Text.Hex
import LteUe.Text.Quoted

/-!
# Captures in files

A file sink writes a capture as text: a header, one line for each packet with its length and its
octets in base sixteen, and a footer when it is closed. Opening it again starts another file; only
when that has been made is the file before given up, without a footer.
-/

namespace LteUe

/-- A sink that writes to a file. -/
structure FileSink where
  layer : String
  /-- The file opened last. -/
  path : Option String := none
  writer : Option BufferedFile := none
deriving Repr

namespace FileSink

def header (layer : String) : List String := ["# ", layer, " capture\n"]

def line (pdu : Bytes) : List String := [toString pdu.length, " ", Hex.ofOctets pdu, "\n"]

def footer : List String := ["# closed\n"]

/-- The files when the sink goes away. -/
def drop (s : FileSink) (f : Files) : Files := s.writer.elim f fun w => w.drop f

def open? (s : FileSink) (path : String) (f : Files) : Except FileError Unit × FileSink × Files :=
  match f.create path with
  | .error e => (.error e, s, f)
  | .ok (location, f) =>
    match BufferedFile.writeTexts (header s.layer) ({ location := location }, f) with
    -- the file before stays the sink's
    | .error e (w, f) => (.error e, s, w.drop f)
    | .ok _ (w, f) => (.ok (), { s with path := some path, writer := some w }, s.drop f)

def write? (s : FileSink) (pdu : Bytes) (f : Files) : Except FileError Unit × FileSink × Files :=
  match s.writer with
  | none => (.error .notOpen, s, f)
  | some w =>
    match BufferedFile.writeTexts (line pdu) (w, f) with
    | .ok _ (w, f) => (.ok (), { s with writer := some w }, f)
    | .error e (w, f) => (.error e, { s with writer := some w }, f)

def cannotFlush (s : FileSink) (e : FileError) : Log.Event where
  level := .warn
  target := .stack
  message := s!"cannot flush capture: {e.message}"
  fields := [("layer", .text s.layer),
    ("path", .text (s.path.elim "None" fun p => s!"Some({Text.quoted p})"))]

/-- Writes the footer and gives up the file. -/
def close (s : FileSink) (f : Files) : FileSink × Files × List Log.Event :=
  match s.writer with
  | none => (s, f, [])
  | some w =>
    let closed := { s with writer := none }
    match (do BufferedFile.writeTexts footer; BufferedFile.flush) (w, f) with
    | .ok _ (_, f) => (closed, f, [])
    | .error e (w, f) => (closed, w.drop f, [s.cannotFlush e])

end FileSink

end LteUe
