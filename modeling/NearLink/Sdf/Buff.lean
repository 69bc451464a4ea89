import Mathlib.Algebra.Order.Ring.Nat
import Mathlib.Data.List.Basic

/-!
# Data buffers

`SDF_Buff_S` is one allocation with a data window inside it: `dataOff` bytes
of headroom, `dataLen` bytes of data, and the remaining tailroom.  The model
keeps the three regions as byte lists, so the lengths the source tracks by
hand (`dataOff + dataLen ≤ buffLen`) agree by construction.
-/

namespace NearLink.Sdf

abbrev Bytes := List UInt8

def buffMaxHeadroomSize : Nat := 14

def buffMaxTailroomSize : Nat := 2

structure Buff where
  head : Bytes
  data : Bytes
  tail : Bytes
  deriving DecidableEq

namespace Buff

def new (size : Nat) : Buff :=
  { head := [], data := [], tail := List.replicate size 0 }

def newWithReserve (size : Nat) : Buff :=
  { head := List.replicate buffMaxHeadroomSize 0
    data := []
    tail := List.replicate (size + buffMaxTailroomSize) 0 }

/-- `SDF_DataLenGet` -/
def dataLen (buff : Buff) : Nat := buff.data.length

/-- `SDF_BuffAppend` followed by the copy of `bytes` into the space it
returns. -/
def append (buff : Buff) (bytes : Bytes) : Option Buff :=
  if bytes.length > buff.tail.length then none
  else some { buff with
    data := buff.data ++ bytes
    tail := buff.tail.drop bytes.length }

/-- `SDF_BuffPrepend` followed by the write of `bytes` into the space it
returns. -/
def prepend (buff : Buff) (bytes : Bytes) : Option Buff :=
  if bytes.length > buff.head.length then none
  else some { buff with
    head := buff.head.take (buff.head.length - bytes.length)
    data := bytes ++ buff.data }

def trimPrefix (buff : Buff) (size : Nat) : Option Buff :=
  if size > buff.data.length then none
  else some { buff with
    head := buff.head ++ buff.data.take size
    data := buff.data.drop size }

def trimSuffix (buff : Buff) (size : Nat) : Option Buff :=
  if size > buff.data.length then none
  else some { buff with
    data := buff.data.take (buff.data.length - size)
    tail := buff.data.drop (buff.data.length - size) ++ buff.tail }

/-- A buffer that already holds `bytes` and still has its whole reserve. -/
def ofData (bytes : Bytes) : Buff :=
  { head := List.replicate buffMaxHeadroomSize 0
    data := bytes
    tail := List.replicate buffMaxTailroomSize 0 }

variable {bytes : Bytes} {buff : Buff}

theorem append_eq_some (room : bytes.length ≤ buff.tail.length) :
    buff.append bytes = some { buff with
      data := buff.data ++ bytes
      tail := buff.tail.drop bytes.length } := by
  simp [append, Nat.not_lt.mpr room]

theorem prepend_eq_some (room : bytes.length ≤ buff.head.length) :
    buff.prepend bytes = some { buff with
      head := buff.head.take (buff.head.length - bytes.length)
      data := bytes ++ buff.data } := by
  simp [prepend, Nat.not_lt.mpr room]

end Buff

end NearLink.Sdf
