import PlatformSmbios.Driver.Basic

/-!
# The library functions the topic builders call

The builders stage their strings with the safe string functions of `BaseLib` and `PrintLib`,
and they use two integer helpers of `BaseLib`.  Each is modelled for the way the driver
calls it: the copies with their "leave the destination alone when the source does not fit"
rule, and `AsciiSPrint` for the two formats the driver passes (`"%02d/%02d/%04d"` and
`"%X"`).  The driver ignores every status they return, so the model returns only the
buffer.
-/

namespace PlatformSmbios

/-! ## Strings -/

/-- The bytes of an ASCII literal. -/
def ascii (s : String) : List UInt8 := s.toList.map fun c => c.toNat.toUInt8

/-- The common rule of the safe string copies: when the source, of `len` characters, is
shorter than `DestMax`, its characters `chars` and a NUL are stored at the start of the
buffer and the bytes after them are left alone; otherwise (`RETURN_BUFFER_TOO_SMALL`, or
`RETURN_INVALID_PARAMETER` for `DestMax = 0`) the buffer is left as it was. -/
def safeStrCopy (destination : List UInt8) (destMax len : Nat) (chars : List UInt8) : List UInt8 :=
  if len < destMax then chars ++ 0 :: destination.drop (len + 1) else destination

/-- `AsciiStrCpyS (Destination, DestMax, Source)`. -/
def asciiStrCpyS (destination : List UInt8) (destMax : Nat) (source : CStr UInt8) : List UInt8 :=
  safeStrCopy destination destMax source.len source.chars

/-- `UnicodeStrToAsciiStrS (Source, Destination, DestMax)`: every `CHAR16` is stored as
`(CHAR8) *Source`, its low byte. -/
def unicodeStrToAsciiStrS (source : CStr UInt16) (destination : List UInt8) (destMax : Nat) :
    List UInt8 :=
  safeStrCopy destination destMax source.len (source.chars.map UInt16.toUInt8)

/-- `AsciiSPrint (StartOfBuffer, BufferSize, ...)` of a formatted `text`: at most
`BufferSize - 1` characters of it and a NUL are stored at the start of the buffer. -/
def asciiSPrint (buffer : List UInt8) (bufferSize : Nat) (text : List UInt8) : List UInt8 :=
  if bufferSize = 0 then buffer
  else
    let text := text.take (bufferSize - 1)
    text ++ 0 :: buffer.drop (text.length + 1)

/-- `%0<width>d` of a value that is not negative: its decimal digits, with `'0'`s in front up
to `width` characters. -/
def decimalField (width value : Nat) : List UInt8 :=
  let digits := (Nat.toDigits 10 value).map fun c => c.toNat.toUInt8
  List.replicate (width - digits.length) 48 ++ digits

/-- `%X`: the hexadecimal digits in upper case, with no leading zeros. -/
def hexField (value : Nat) : List UInt8 :=
  (Nat.toDigits 16 value).map fun c => c.toUpper.toNat.toUInt8

/-- The text of `"%02d/%02d/%04d"` with `Month`, `Day`, `Year`. -/
def dateText (month day year : Nat) : List UInt8 :=
  decimalField 2 month ++ [47] ++ decimalField 2 day ++ [47] ++ decimalField 4 year

/-! ## Integers -/

/-- `SwapBytes64 (Value)`: the eight bytes of `Value` in the opposite order. -/
def swapBytes64 (value : UInt64) : UInt64 := UInt64.ofNat (leValue (leBytes 8 value.toNat).reverse)

/-- `MultU64x32 (Multiplicand, Multiplier)`: the product, modulo `2^64`. -/
def multU64x32 (multiplicand : UInt64) (multiplier : UInt32) : UInt64 :=
  multiplicand * multiplier.toUInt64

end PlatformSmbios
