import LteUe.Storage.Files

/-!
# Buffered files

A writer that collects small pieces and writes them out when they would fill its buffer. It writes at
a place of its own in the file, behind what it has written out before.
-/

namespace LteUe

/-- A file open for writing. -/
structure BufferedFile where
  location : Location
  /-- Where the buffer goes. -/
  offset : Nat := 0
  /-- What has not been written out. -/
  buffer : Bytes := []
deriving Repr

namespace BufferedFile

def capacity : Nat := 8192

/-- Work on a buffered file and on the files; a failure keeps both as they are. -/
abbrev Write := EStateM FileError (BufferedFile × Files)

def writeOut (b : Bytes) : Write Unit := do
  let (w, f) ← get
  match f.writeAt w.location w.offset b with
  | .ok f => set ({ w with offset := w.offset + b.length }, f)
  | .error e => throw e

def flush : Write Unit := do
  let (w, _) ← get
  unless w.buffer.isEmpty do
    writeOut w.buffer
    modify fun (w, f) => ({ w with buffer := [] }, f)

def append (b : Bytes) : Write Unit :=
  modify fun (w, f) => ({ w with buffer := w.buffer ++ b }, f)

/-- Writes a piece. The buffer is written out first if it has no room for the piece, and a piece as
large as the buffer goes to the file itself. -/
def write (b : Bytes) : Write Unit := do
  if capacity - (← get).1.buffer.length < b.length then flush
  if capacity ≤ b.length then writeOut b else append b

def writeTexts (pieces : List String) : Write Unit :=
  pieces.forM fun s => write (Bytes.ofText s)

/-- What is left of the files when the writer goes away: the buffer is written out if it can be. -/
def drop (w : BufferedFile) (f : Files) : Files :=
  match flush (w, f) with
  | .ok _ (_, f) => f
  | .error _ (_, f) => f

end BufferedFile

end LteUe
