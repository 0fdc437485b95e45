import LteUe.Log
import LteUe.Span
import LteUe.Storage.Files

/-!
# What lies around a stack

The log, the files, the clock, and a notebook in which observers write down what they see. Every
reading of the clock is later than the one before.
-/

namespace LteUe

/-- What lies around a stack. -/
structure World where
  notes : Array String := #[]
  log : Array Log.Event := #[]
  files : Files := {}
  now : Span := .zero

namespace World

def note (w : World) (text : String) : World := { w with notes := w.notes.push text }

def report (w : World) (e : Log.Event) : World := { w with log := w.log.push e }

def reportAll (w : World) (es : List Log.Event) : World := es.foldl report w

def readClock (w : World) : Span × World :=
  let now := w.now + ⟨1⟩
  (now, { w with now := now })

def sleep (w : World) (d : Span) : World := { w with now := w.now + d }

def turnPage (w : World) : World := { w with notes := #[], log := #[] }

end World

end LteUe
