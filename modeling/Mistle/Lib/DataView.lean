import Mathlib.Algebra.Ring.Nat
import Mathlib.Data.List.Basic

/-!
# Views of Bytes

Numbers read from and written into a list of bytes at an offset, in big-endian
order, as a view over a buffer does it. An offset beyond the end reads zero and
writes nothing; a caller checks the length first.

## Main definitions

* `DataView.getUint8`, `DataView.getUint32`: Reading.
* `DataView.setUint8`, `DataView.setUint32`, `DataView.setBytes`: Writing.
-/

namespace Mistle

namespace DataView

def getUint8 (view : List UInt8) (offset : Nat) : Nat := (view.getD offset 0).toNat

def getUint32 (view : List UInt8) (offset : Nat) : Nat :=
  getUint8 view offset * 2 ^ 24 + getUint8 view (offset + 1) * 2 ^ 16
    + getUint8 view (offset + 2) * 2 ^ 8 + getUint8 view (offset + 3)

/-- The low eight bits of a number, at an offset. -/
def setUint8 (view : List UInt8) (offset value : Nat) : List UInt8 :=
  view.set offset (UInt8.ofNat value)

/-- The low 32 bits of a number, at an offset. -/
def setUint32 (view : List UInt8) (offset value : Nat) : List UInt8 :=
  setUint8 (setUint8 (setUint8 (setUint8 view offset (value / 2 ^ 24)) (offset + 1)
    (value / 2 ^ 16)) (offset + 2) (value / 2 ^ 8)) (offset + 3) value

/-- Bytes over a view, from an offset on. -/
def setBytes (view : List UInt8) (bytes : List UInt8) (offset : Nat) : List UInt8 :=
  view.take offset ++ bytes ++ view.drop (offset + bytes.length)

end DataView

end Mistle
