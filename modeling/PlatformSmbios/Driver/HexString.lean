import PlatformSmbios.Driver.LogSmbiosData

/-!
# `I64ToHexString`

The serial number and SKU strings of the system-information record are written by this
helper: it clears the target buffer, then writes the nibbles of a 64-bit value from the most
significant down, as long as a byte is left for the terminator.  The model keeps the C types
where they matter: `TargetStringSize - 1` is `UInt32` arithmetic, which wraps for a size of
zero, and every store goes through `copyMem`, so a store past the buffer is a `Fault`.  The
loop's `ASSERT (Nibble <= 0xF)` shows in the trace like every other `ASSERT` of the driver.
-/

namespace PlatformSmbios

/-- `ItoH`: the sixteen digits the conversion writes. -/
def itoH : List UInt8 :=
  ['0', '1', '2', '3', '4', '5', '6', '7', '8', '9', 'A', 'B', 'C', 'D', 'E', 'F'].map
    fun c => c.toNat.toUInt8

/-- `ZeroMem (Buffer, Length)`. -/
def zeroMem (buffer : List UInt8) (length : Nat) : Except Fault (List UInt8) :=
  copyMem buffer 0 (List.replicate length 0)

/-- The loop of `I64ToHexString` from `NibbleInx = n` down to `1`: the nibble at bit
`(NibbleInx - 1) * 4` is checked by `ASSERT (Nibble <= 0xF)` and stored at
`TargetStringSz[StringInx++]` while `StringInx < TargetStringSize - 1`, and the loop breaks
otherwise. -/
def i64ToHexStringLoop (targetStringSize : UInt32) (value : UInt64) :
    Nat → Nat → List UInt8 → List Event → Except Fault (List UInt8 × List Event)
  | 0, _, buffer, trace => .ok (buffer, trace)
  | n + 1, stringInx, buffer, trace =>
      let nibbleMask : UInt64 := 0xF <<< UInt64.ofNat (n * 4)
      let nibble : UInt8 := ((value &&& nibbleMask) >>> UInt64.ofNat (n * 4)).toUInt8
      let trace := assertE (nibble ≤ 0xF) trace
      if stringInx < (targetStringSize - 1).toNat then do
        let buffer ← copyMem buffer stringInx [itoH.getD nibble.toNat 0]
        i64ToHexStringLoop targetStringSize value n (stringInx + 1) buffer trace
      else .ok (buffer, trace)

/-- `I64ToHexString (TargetStringSz, TargetStringSize, Value)`, on the memory that starts at
`TargetStringSz`: the memory afterwards, and the trace with the loop's `ASSERT`s. -/
def i64ToHexString (targetStringSz : List UInt8) (targetStringSize : UInt32) (value : UInt64)
    (trace : List Event) : Except Fault (List UInt8 × List Event) := do
  let buffer ← zeroMem targetStringSz targetStringSize.toNat
  i64ToHexStringLoop targetStringSize value 16 0 buffer trace

end PlatformSmbios
