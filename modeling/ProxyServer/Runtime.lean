import ProxyServer.Library.FaultState
import ProxyServer.Library.WordBytes

/-! What the program relies on from C++: fixed-width integers and the ways a run ends early.
The build passes no optimisation flag, so signed overflow wraps.
-/

namespace ProxyServer

/-- How a run of the program stops being defined.
`memory` is an access outside an object, `emptyVector` an index into an empty vector,
`assertion` a failed `assert`, `exhausted` the uncaught `throw(0)` of a full pool and
`endless` a loop that never leaves.
-/
inductive Fault
  | memory
  | emptyVector
  | assertion
  | exhausted
  | endless
  deriving DecidableEq, Repr

/-- Conversion to a 32-bit `int`. -/
def toInt32 (value : Int) : Int :=
  Int.bmod value 4294967296

/-- Conversion to a 16-bit `short`. -/
def toInt16 (value : Int) : Int :=
  Int.bmod value 65536

/-- Conversion to a `WORD`. -/
def toWord (value : Int) : Nat :=
  (value % 65536).toNat

/-- Conversion to a 32-bit `unsigned int`. -/
def toUInt32 (value : Int) : Nat :=
  (value % 4294967296).toNat

/-- Arithmetic of `unsigned int` on naturals: what is left after wrapping. -/
def wrap32 (value : Nat) : Nat :=
  value % 4294967296

theorem wrap32_of_lt {value : Nat} (small : value < 4294967296)
    : wrap32 value = value :=
  Nat.mod_eq_of_lt small

theorem toInt32_of_range {value : Int} (low : -2147483648 ≤ value)
    (high : value < 2147483648)
    : toInt32 value = value :=
  Int.bmod_eq_of_le (by omega) (by omega)

theorem toInt16_of_range {value : Int} (low : -32768 ≤ value) (high : value < 32768)
    : toInt16 value = value :=
  Int.bmod_eq_of_le (by omega) (by omega)

end ProxyServer
