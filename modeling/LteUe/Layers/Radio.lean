/-!
# The radio

Cells, what a search for them finds, and why a connection is made. The driver of the radio answers
questions that take long; it is asked by background workers only.
-/

namespace LteUe

structure Cell where
  pci : Nat := 0
  earfcn : Nat := 0
deriving DecidableEq, Repr

inductive SearchResult where
  | cellFound
  | cellNotFound
  | error
deriving DecidableEq, Repr

namespace SearchResult

def name : SearchResult → String
  | cellFound => "cell_found"
  | cellNotFound => "cell_not_found"
  | error => "error"

def label : SearchResult → String
  | cellFound => "CellFound"
  | cellNotFound => "CellNotFound"
  | error => "Error"

def ofName? (s : String) : Option SearchResult := [cellFound, cellNotFound, error].find? (·.name == s)

end SearchResult

/-- Why a connection is asked for. -/
inductive EstablishmentCause where
  | moSignalling
  | moData
deriving DecidableEq, Repr

namespace EstablishmentCause

def name : EstablishmentCause → String
  | moSignalling => "mo_signalling"
  | moData => "mo_data"

def label : EstablishmentCause → String
  | moSignalling => "MoSignalling"
  | moData => "MoData"

def ofName? (s : String) : Option EstablishmentCause := [moSignalling, moData].find? (·.name == s)

def standard : EstablishmentCause := moSignalling

end EstablishmentCause

abbrev Lcid := Nat

namespace Lcid

def srb1 : Lcid := 1

def drb1 : Lcid := 3

end Lcid

/-- A radio by its answers. -/
structure Radio where
  result : SearchResult := .cellFound
  found : Cell
  /-- The one cell that can be selected. -/
  selectable : Cell
  /-- The text with which every search faults, if it does. -/
  fault : Option String := none
deriving DecidableEq, Repr

namespace Radio

def select (r : Radio) (cell : Cell) : Bool := cell = r.selectable

end Radio

end LteUe
