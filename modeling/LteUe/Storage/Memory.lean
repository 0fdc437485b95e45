import LteUe.Fault

/-!
# Room in memory

Values that are to lie side by side need room for all of them at once. An address reaches fewer than
`2 ^ 63` octets; asking for more is a fault.
-/

namespace LteUe.Memory

/-- How many octets an address reaches. -/
def addressable : Nat := (1 <<< 63) - 1

/-- Makes room for `count` values of `size` octets each. -/
def reserve (size count : Nat) : Except Fault Unit :=
  if count * size ≤ addressable then .ok () else .error .roomOverflow

end LteUe.Memory
