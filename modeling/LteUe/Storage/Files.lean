/-!
# Files

The files that a run can reach: those of its own directory, which starts empty, and those of a few
directories of the system. A name is followed part by part, and the first part that leads nowhere
decides how it fails. A file is created by opening it for writing; opening it again empties it, and
whoever opened it before goes on writing to the same file.
-/

namespace LteUe

abbrev Bytes := List UInt8

namespace Bytes

def ofText (s : String) : Bytes := s.toList.flatMap String.utf8EncodeChar

def repeated (b : Bytes) (n : Nat) : Bytes :=
  if b.isEmpty then [] else (List.replicate n b).flatten

def toText? (b : Bytes) : Option String := String.fromUTF8? ⟨b.toArray⟩

end Bytes

inductive FileError where
  /-- There is no such file, or no directory that could hold it. -/
  | notFound
  | isDirectory
  /-- A part of the name before the last is that of a file. -/
  | notDirectory
  | nameTooLong
  | nulInName
  | storageFull
  | notText
  | notOpen
deriving DecidableEq, Repr

namespace FileError

def message : FileError → String
  | notFound => "No such file or directory (os error 2)"
  | isDirectory => "Is a directory (os error 21)"
  | notDirectory => "Not a directory (os error 20)"
  | nameTooLong => "File name too long (os error 36)"
  | nulInName => "file name contained an unexpected NUL byte"
  | storageFull => "No space left on device (os error 28)"
  | notText => "stream did not contain valid UTF-8"
  | notOpen => "capture not open"

end FileError

/-- Where a file lies. -/
structure Location where
  /-- Whether the parts lead from the root, and not from the directory of the run. -/
  absolute : Bool
  /-- The parts of the name. Those that lead up from the directory of the run come first. -/
  parts : List String
deriving DecidableEq, Repr

namespace Location

def inRoot : List String :=
  ["bin", "boot", "dev", "etc", "home", "lib", "mnt", "opt", "proc", "root", "run", "sbin", "srv",
    "sys", "tmp", "usr", "var"]

/-- The device whose every write fails. -/
def fullDevice : Location := ⟨true, ["dev", "full"]⟩

/-- The device that keeps nothing. -/
def nullDevice : Location := ⟨true, ["dev", "null"]⟩

/-- Whether a location is that of a directory: the one of the run, one above it, the root, or one in
the root. -/
def isDirectory (l : Location) : Bool :=
  match l.absolute, l.parts with
  | true, [] => true
  | true, [part] => inRoot.contains part
  | true, _ => false
  | false, parts => parts.all (· == "..")

/-- The directory above another one. The root is above itself. -/
def parent (dir : Location) : Location :=
  if dir.absolute then { dir with parts := dir.parts.dropLast }
  else { dir with parts := ".." :: dir.parts }

def child (dir : Location) (part : String) : Except FileError Location :=
  if 255 < part.utf8ByteSize then .error .nameTooLong
  else .ok { dir with parts := dir.parts ++ [part] }

end Location

structure Files where
  entries : List (Location × Bytes) := []
deriving Repr

namespace Files

def get? (f : Files) (l : Location) : Option Bytes :=
  if l = Location.nullDevice then some [] else f.entries.lookup l

def put (f : Files) (l : Location) (b : Bytes) : Files :=
  if l ∈ [Location.nullDevice, Location.fullDevice] then f
  else { entries := (l, b) :: f.entries.filter (·.1 ≠ l) }

def isFile (f : Files) (l : Location) : Bool :=
  l = Location.fullDevice || (f.get? l).isSome

/-- The directory to which a part of a name leads from another one. -/
def enter (f : Files) (dir : Location) (part : String) : Except FileError Location := do
  if part = "." then return dir
  if part = ".." then return dir.parent
  let l ← dir.child part
  if l.isDirectory then return l
  throw (if f.isFile l then .notDirectory else .notFound)

/-- The directory to which a name leads before its last part, and that part. A name without a part of
its own at the end is that of a directory. -/
def follow (f : Files) (name : String) : Except FileError (Location × String) := do
  if name.toList.contains '\x00' then throw .nulInName
  if name.isEmpty then throw .notFound
  if 4096 ≤ name.utf8ByteSize then throw .nameTooLong
  let parts := (name.splitOn "/").filter (· != "")
  let dir ← parts.dropLast.foldlM f.enter ⟨name.startsWith "/", []⟩
  match parts.getLast? with
  | none | some "." | some ".." => throw .isDirectory
  | some last => return (dir, last)

def asksDirectory (name : String) : Bool := name.endsWith "/"

def read (f : Files) (name : String) : Except FileError Bytes := do
  let (dir, last) ← f.follow name
  let l ← dir.child last
  if l.isDirectory then throw .isDirectory
  match f.get? l with
  | some b => if asksDirectory name then throw .notDirectory else return b
  | none => throw .notFound

def readText (f : Files) (name : String) : Except FileError String := do
  match Bytes.toText? (← f.read name) with
  | some s => return s
  | none => throw .notText

def create (f : Files) (name : String) : Except FileError (Location × Files) := do
  let (dir, last) ← f.follow name
  if asksDirectory name then throw .isDirectory
  let l ← dir.child last
  if l.isDirectory then throw .isDirectory
  return (l, f.put l [])

/-- Writes octets at a place in a file. What lies between the end of the file and that place is
filled with zeros. -/
def writeAt (f : Files) (l : Location) (offset : Nat) (b : Bytes) : Except FileError Files :=
  if l = Location.fullDevice then .error .storageFull
  else
    let old := (f.get? l).getD []
    let front := old.take offset ++ List.replicate (offset - old.length) 0
    .ok (f.put l (front ++ b ++ old.drop (offset + b.length)))

end Files

end LteUe
