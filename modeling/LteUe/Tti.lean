/-!
# Tick ids

The radio clock counts subframes. A tick id is a 32-bit word read modulo `Tti.wrap`, since 1024 radio
frames of ten subframes come round. `Tti.sub` steps back from an id, and `Tti.subTicks` lists the ids
that one report of the clock covers.
-/

namespace LteUe

namespace Tti

/-- Tick ids come round after 1024 radio frames of ten subframes. -/
def wrap : UInt32 := 10240

/-- The id `n` ticks before `tti`, modulo `wrap`. Both words are reduced first, so the sum stays far
below the word size. -/
def sub (tti n : UInt32) : UInt32 :=
  (tti % wrap + wrap - n % wrap) % wrap

/-- The id after `tti`, modulo `wrap`; none if the word itself has no successor. -/
def next? (tti : UInt32) : Option UInt32 :=
  if tti.toNat + 1 < UInt32.size then some ((tti + 1) % wrap) else none

/-- The `i`-th of the `jump` ids that end at `tti`, counted from `0`. -/
def subTick (tti jump : UInt32) (i : Nat) : UInt32 :=
  sub tti (jump - UInt32.ofNat i - 1)

/-- The ids covered by a report of `tti` after `jump` ticks, oldest first; the last one is `tti`. -/
def subTicks (tti jump : UInt32) : List UInt32 :=
  (List.range jump.toNat).map (subTick tti jump)

/-- The first `n` of them. -/
def firstSubTicks (n : Nat) (tti jump : UInt32) : List UInt32 :=
  (List.range (min n jump.toNat)).map (subTick tti jump)

end Tti

end LteUe
