import Mathlib.Algebra.Order.Ring.Nat
import Mathlib.Data.List.Basic

/-!
# Bytes, strings and memory

`PlatformSmbiosDxe.c` works on three kinds of memory, and this file fixes how the model
represents each of them.

* A formatted area (a `SMBIOS_TABLE_TYPEn` structure) is its byte image, a `List UInt8`.  A
  field of it is a little-endian slice at the offset the packed structure gives it, read with
  `readField` and stored with `writeField`.
* A character buffer (`CHAR8 mBiosVendor[128]` and its siblings) is a byte image too.  The
  string the driver hands on is what precedes the first NUL (`cString`), and a string the
  driver receives is a `CStr`: characters with no NUL among them.
* A copy into allocated memory can run past the allocation.  `copyMem` returns a `Fault`
  then, so a theorem that no copy faults says that every byte written lands inside it.
  Where the code checks an address itself, the object's address is an `ObjectAddress`.
-/

namespace PlatformSmbios

/-! ## Little-endian fields -/

/-- The `width` little-endian bytes of `value`; what does not fit is dropped, as a store to a
field of that width drops it. -/
def leBytes : Nat → Nat → List UInt8
  | 0, _ => []
  | width + 1, value => UInt8.ofNat value :: leBytes width (value / 256)

/-- The number with the little-endian bytes `bytes`. -/
def leValue : List UInt8 → Nat
  | [] => 0
  | b :: bs => b.toNat + 256 * leValue bs

@[simp] theorem length_leBytes (width value : Nat) : (leBytes width value).length = width := by
  induction width generalizing value with
  | zero => rfl
  | succ width ih => simp [leBytes, ih]

theorem leValue_leBytes (width value : Nat) :
    leValue (leBytes width value) = value % 256 ^ width := by
  induction width generalizing value with
  | zero => simp [leBytes, leValue, Nat.mod_one]
  | succ width ih =>
      show value % 256 + 256 * leValue (leBytes width (value / 256)) = _
      rw [ih, Nat.pow_succ', Nat.mod_mul]

theorem leValue_lt (bytes : List UInt8) : leValue bytes < 256 ^ bytes.length := by
  induction bytes with
  | nil => simp [leValue]
  | cons b bs ih =>
      have hb : b.toNat < 256 := b.toNat_lt_size
      simp only [leValue, List.length_cons, Nat.pow_succ]
      omega

/-- The field of `width` bytes at offset `off`. -/
def readField (area : List UInt8) (off width : Nat) : Nat :=
  leValue ((area.drop off).take width)

/-- Stores `value` into the field of `width` bytes at offset `off`. -/
def writeField (area : List UInt8) (off width value : Nat) : List UInt8 :=
  area.take off ++ leBytes width value ++ area.drop (off + width)

section Fields

variable {area : List UInt8} {off width : Nat}

theorem length_writeField (h : off + width ≤ area.length) (value : Nat) :
    (writeField area off width value).length = area.length := by
  simp [writeField]
  omega

/-- The length after a store, whether or not the field fits. -/
@[simp] theorem length_writeField_eq (value : Nat) :
    (writeField area off width value).length =
      min off area.length + width + (area.length - (off + width)) := by
  simp [writeField, Nat.add_assoc]

/-- The bytes of a field after a store to it are the stored value's. -/
theorem take_drop_writeField (h : off + width ≤ area.length) (value : Nat) :
    ((writeField area off width value).drop off).take width = leBytes width value := by
  have hoff : (area.take off).length = off := List.length_take_of_le (by omega)
  simp only [writeField, List.append_assoc, List.drop_left' hoff,
    List.take_left' (length_leBytes width value)]

theorem readField_writeField (h : off + width ≤ area.length) (value : Nat) :
    readField (writeField area off width value) off width = value % 256 ^ width := by
  rw [readField, take_drop_writeField h, leValue_leBytes]

/-- A store to one field leaves every field before or after it alone. -/
theorem readField_writeField_of_disjoint (h : off + width ≤ area.length) (value : Nat)
    {off' width' : Nat} (hd : off' + width' ≤ off ∨ off + width ≤ off') :
    readField (writeField area off width value) off' width' = readField area off' width' := by
  simp only [readField, writeField]
  rcases hd with hd | hd
  · rw [List.append_assoc, List.drop_append_of_le_length (by simp; omega),
      List.take_append_of_le_length (by simp; omega), List.drop_take, List.take_take,
      Nat.min_eq_left (by omega)]
  · have hlen : (area.take off ++ leBytes width value).length = off + width := by simp; omega
    rw [List.drop_append_eq_append_drop, List.drop_eq_nil_of_le (by omega), List.nil_append,
      hlen, List.drop_drop, Nat.add_sub_cancel' hd]

/-- A field inside the first `n` bytes reads the same from any record that starts with them. -/
theorem readField_take_append (n : Nat) (rest : List UInt8) (hfield : off + width ≤ n)
    (hn : n ≤ area.length) : readField (area.take n ++ rest) off width = readField area off width := by
  simp only [readField]
  rw [List.drop_append_of_le_length (by simp; omega), List.take_append_of_le_length
    (by simp; omega), List.drop_take, List.take_take, Nat.min_eq_left (by omega)]

/-- A store leaves every byte before the field alone. -/
theorem getD_writeField_of_lt {i : Nat} (hi : i < off) (hoff : off ≤ area.length) (value : Nat) :
    (writeField area off width value).getD i 0 = area.getD i 0 := by
  rw [writeField, List.append_assoc, List.getD_eq_getElem?_getD,
    List.getElem?_append_left (by simp; omega), List.getElem?_take_of_lt hi,
    ← List.getD_eq_getElem?_getD]

/-- A store changes the bytes of its field and no other. -/
theorem getElem?_writeField (h : off + width ≤ area.length) (value k : Nat) :
    (writeField area off width value)[k]? =
      if off ≤ k ∧ k < off + width then (leBytes width value)[k - off]? else area[k]? := by
  have hoff : (area.take off).length = off := List.length_take_of_le (by omega)
  rw [writeField, List.append_assoc]
  split_ifs with hk
  · rw [List.getElem?_append_right (by omega), hoff, List.getElem?_append_left (by simp; omega)]
  · rcases Nat.lt_or_ge k off with hlt | hge
    · rw [List.getElem?_append_left (by omega), List.getElem?_take_of_lt hlt]
    · rw [List.getElem?_append_right (by omega), hoff, List.getElem?_append_right (by simp; omega),
        List.getElem?_drop, length_leBytes]
      congr 1
      omega

/-- A field of a structure reads the same from a record that starts with the structure. -/
theorem readField_append (rest : List UInt8) (hfield : off + width ≤ area.length) :
    readField (area ++ rest) off width = readField area off width := by
  simpa using readField_take_append area.length rest hfield le_rfl

end Fields

/-! ## Strings -/

/-- The characters of a NUL-terminated string, its terminator excluded. -/
structure CStr (α : Type) [OfNat α 0] where
  chars : List α
  nul_free : (0 : α) ∉ chars

/-- `AsciiStrLen`: the number of characters before the terminator. -/
def CStr.len {α : Type} [OfNat α 0] (s : CStr α) : Nat := s.chars.length

/-- `AsciiStrSize`: the bytes the string occupies, its terminator included. -/
def CStr.size {α : Type} [OfNat α 0] (s : CStr α) : Nat := s.chars.length + 1

/-- The string a character buffer holds: everything before its first NUL. -/
def cString (buf : List UInt8) : List UInt8 := buf.takeWhile (· ≠ 0)

theorem zero_not_mem_cString (buf : List UInt8) : (0 : UInt8) ∉ cString buf := by
  intro h
  simpa using List.mem_takeWhile_imp h

/-- The string a character buffer holds, as a `CStr`. -/
def CStr.ofBuffer (buf : List UInt8) : CStr UInt8 := ⟨cString buf, zero_not_mem_cString buf⟩

theorem cString_append_zero {s : List UInt8} (hs : (0 : UInt8) ∉ s) (rest : List UInt8) :
    cString (s ++ 0 :: rest) = s := by
  rw [cString, List.takeWhile_append_of_pos (fun a ha => by simpa using ne_of_mem_of_not_mem ha hs)]
  simp

/-! ## Memory -/

@[simp] theorem ok_bind {ε α β : Type} (a : α) (f : α → Except ε β) :
    (Except.ok a >>= f) = f a := rfl

@[simp] theorem error_bind {ε α β : Type} (e : ε) (f : α → Except ε β) :
    (Except.error e >>= f) = Except.error e := rfl

/-- What goes wrong when the driver touches memory it may not. -/
inductive Fault
  /-- A read through a `NULL` pointer. -/
  | nullDereference
  /-- A read or a write past the end of the memory it targets. -/
  | outOfBounds
  deriving DecidableEq, Repr

/-- Where an object of `size` bytes lies in memory: like every object of the program, not at
`NULL`, and with all its bytes inside the 64-bit address space. -/
structure ObjectAddress (size : Nat) where
  address : UInt64
  ne_null : address ≠ 0
  fits : address.toNat + size ≤ 2 ^ 64

/-- `CopyMem (dst + off, src, src.length)` into a buffer of `dst.length` bytes. -/
def copyMem (dst : List UInt8) (off : Nat) (src : List UInt8) : Except Fault (List UInt8) :=
  if off + src.length ≤ dst.length then
    .ok (dst.take off ++ src ++ dst.drop (off + src.length))
  else .error .outOfBounds

/-- Reads the first `n` bytes of the memory `src`. -/
def readMem (src : List UInt8) (n : Nat) : Except Fault (List UInt8) :=
  if n ≤ src.length then .ok (src.take n) else .error .outOfBounds

theorem copyMem_of_le {dst src : List UInt8} {off : Nat} (h : off + src.length ≤ dst.length) :
    copyMem dst off src = .ok (dst.take off ++ src ++ dst.drop (off + src.length)) := if_pos h

/-- A copy over a stretch of the same length as the source replaces that stretch. -/
theorem copyMem_append {pre mid post src : List UInt8} (h : src.length = mid.length) :
    copyMem (pre ++ mid ++ post) pre.length src = .ok (pre ++ src ++ post) := by
  rw [copyMem_of_le (by simp; omega), h]
  simp [List.drop_append_eq_append_drop]

theorem readMem_of_le {src : List UInt8} {n : Nat} (h : n ≤ src.length) :
    readMem src n = .ok (src.take n) := if_pos h

/-- `CopyMem` of a value's bytes into a field is a store to it. -/
theorem copyMem_leBytes {area : List UInt8} {off width : Nat} (h : off + width ≤ area.length)
    (value : Nat) : copyMem area off (leBytes width value) = .ok (writeField area off width value) := by
  rw [copyMem_of_le (by simpa using h), length_leBytes]
  rfl

end PlatformSmbios
