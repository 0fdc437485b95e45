import LteUe.Config.Document
import LteUe.Layers.Radio

/-!
# Settings of the simulated network

A document overlays the default settings; a field of another name makes it malformed.
-/

namespace LteUe

open Yaml

/-- The behaviour of the simulated network. -/
structure SimSettings where
  imsi : String := "001010123456789"
  pci : Nat := 1
  earfcn : Nat := 3400
  searchDelayMillis : Nat := 20
  /-- The ticks between connection and registration. -/
  attachDelayTicks : Nat := 10
  grantPerTick : Nat := 1
deriving DecidableEq, Repr

namespace SimSettings

def cell (s : SimSettings) : Cell := ⟨s.pci, s.earfcn⟩

def radio (s : SimSettings) : Radio := { found := s.cell, selectable := s.cell }

def names : List String :=
  ["imsi", "pci", "earfcn", "search_delay_ms", "attach_delay_ticks", "grant_pdus_per_tti"]

/-- The fields of a document over settings. -/
def overlay (s : SimSettings) (d : Document) : Option SimSettings := do
  let fields ← d.record? names
  return {
    imsi := ← field fields "imsi" d.text? s.imsi
    pci := ← field fields "pci" d.u32? s.pci
    earfcn := ← field fields "earfcn" d.u32? s.earfcn
    searchDelayMillis := ← field fields "search_delay_ms" d.u64? s.searchDelayMillis
    attachDelayTicks := ← field fields "attach_delay_ticks" d.u32? s.attachDelayTicks
    grantPerTick := ← field fields "grant_pdus_per_tti" d.u64? s.grantPerTick }

def ofText? (text : String) : Option SimSettings := do
  ({} : SimSettings).overlay (← Document.ofText? text)

end SimSettings

end LteUe
