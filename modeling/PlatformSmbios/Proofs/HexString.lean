import PlatformSmbios.Driver.HexString
import Mathlib.Tactic.Ring

/-!
# What `I64ToHexString` writes

For every value and every `TargetStringSize ≥ 1`, the conversion writes the
`k = min (TargetStringSize - 1) 16` most significant nibbles of the value as uppercase hex
digits, leading zeros included, then NULs up to `TargetStringSize`, and leaves every byte
from `TargetStringSize` on alone (`i64ToHexString_eq`); its `ASSERT (Nibble <= 0xF)` never
fails, so the trace comes back as it went in.  With the size the driver passes, `17`, the
digits are all sixteen nibbles and read back as the value (`hexValue_hexDigits`).  A size of
`0` wraps `TargetStringSize - 1` around, and the conversion writes sixteen digits past the
buffer (`i64ToHexString_zero`).

## Strategy

`nibble_eq` turns the mask-and-shift of the loop into `value / 16 ^ j % 16`.  The loop is
then an induction over the nibble counter with the buffer split as
`written ++ zeros ++ untouched` (`i64ToHexStringLoop_eq`): each pass moves one zero of the
middle part into the written part, until either the nibbles or the room run out.
-/

namespace PlatformSmbios

/-! ## Digits -/

/-- Nibble `j` of `value`, counting from the least significant. -/
def nibble (value : UInt64) (j : Nat) : Nat := value.toNat / 16 ^ j % 16

/-- The uppercase hex digit of `d < 16`: `'0'`–`'9'`, then `'A'`–`'F'`. -/
def hexDigit (d : Nat) : UInt8 := if d < 10 then UInt8.ofNat (48 + d) else UInt8.ofNat (55 + d)

/-- The value of an uppercase hex digit. -/
def hexDigitValue (c : UInt8) : Nat := if c.toNat < 65 then c.toNat - 48 else c.toNat - 55

/-- The number an uppercase hex string spells, most significant digit first. -/
def hexValue (s : List UInt8) : Nat := s.foldl (fun acc c => 16 * acc + hexDigitValue c) 0

/-- The digits of nibbles `n - 1`, `n - 2`, …, `m` of them. -/
def digitsFrom (value : UInt64) (n m : Nat) : List UInt8 :=
  (List.range m).map fun i => hexDigit (nibble value (n - 1 - i))

/-- The `k` most significant nibbles of a 64-bit value as uppercase hex digits, most
significant first. -/
def hexDigits (value : UInt64) (k : Nat) : List UInt8 := digitsFrom value 16 k

theorem itoH_getD {d : Nat} (h : d < 16) : itoH.getD d 0 = hexDigit d := by
  have key : ∀ d : Fin 16, itoH.getD d 0 = hexDigit d := by decide
  exact key ⟨d, h⟩

theorem hexDigitValue_hexDigit {d : Nat} (h : d < 16) : hexDigitValue (hexDigit d) = d := by
  have key : ∀ d : Fin 16, hexDigitValue (hexDigit d) = d := by decide
  exact key ⟨d, h⟩

theorem nibble_lt (value : UInt64) (j : Nat) : nibble value j < 16 := Nat.mod_lt _ (by omega)

theorem digitsFrom_succ (value : UInt64) (n m : Nat) :
    digitsFrom value (n + 1) (m + 1) = hexDigit (nibble value n) :: digitsFrom value n m := by
  simp only [digitsFrom, List.range_succ_eq_map, List.map_cons, List.map_map]
  congr 1
  refine List.map_congr_left fun i _ => ?_
  simp only [Function.comp, show n + 1 - 1 - (i + 1) = n - 1 - i by omega]

@[simp] theorem length_digitsFrom (value : UInt64) (n m : Nat) :
    (digitsFrom value n m).length = m := by
  simp [digitsFrom]

/-! ## The mask and the shift -/

private theorem toNat_shiftRight (a b : UInt64) : (a >>> b).toNat = a.toNat >>> (b.toNat % 64) := by
  show (a.toBitVec >>> (b.toBitVec % 64#64).toNat).toNat = _
  rw [BitVec.toNat_ushiftRight, BitVec.toNat_umod]
  rfl

theorem toNat_shiftLeft (a b : UInt64) :
    (a <<< b).toNat = (a.toNat <<< (b.toNat % 64)) % 2 ^ 64 := by
  show (a.toBitVec <<< (b.toBitVec % 64#64).toNat).toNat = _
  rw [BitVec.toNat_shiftLeft, BitVec.toNat_umod]
  rfl

/-- The loop's `(UINT8)((Value & NibbleMask) >> ((NibbleInx - 1) * 4))` is nibble
`NibbleInx - 1`. -/
theorem nibble_eq (value : UInt64) {n : Nat} (hn : n < 16) :
    ((value &&& (0xF <<< UInt64.ofNat (n * 4))) >>> UInt64.ofNat (n * 4)).toUInt8.toNat =
      nibble value n := by
  have h4 : (UInt64.ofNat (n * 4)).toNat % 64 = 4 * n := by
    rw [UInt64.toNat_ofNat_of_lt (lt_of_lt_of_le (by omega : n * 4 < 64) (by decide))]
    omega
  show (((value &&& (0xF <<< UInt64.ofNat (n * 4))) >>> UInt64.ofNat (n * 4)).toNat) % 2 ^ 8 = _
  rw [nibble, toNat_shiftRight, UInt64.and_toNat, toNat_shiftLeft, h4,
    show (16 : Nat) ^ n = 2 ^ (4 * n) by rw [Nat.pow_mul], show (16 : Nat) = 2 ^ 4 from rfl,
    ← Nat.shiftRight_eq_div_pow]
  apply Nat.eq_of_testBit_eq
  intro i
  simp only [Nat.testBit_mod_two_pow, Nat.testBit_shiftRight, Nat.testBit_and,
    Nat.testBit_shiftLeft]
  rw [show (UInt64.toNat 0xF) = 2 ^ 4 - 1 from rfl, Nat.testBit_two_pow_sub_one]
  by_cases hi : i < 4
  · simp [hi, show i < 8 by omega, show 4 * n + i < 64 by omega]
  · by_cases hi8 : i < 8 <;> simp [hi, hi8]

/-- The loop's `ASSERT (Nibble <= 0xF)` holds: the nibble is below 16. -/
theorem assertE_nibble (value : UInt64) {n : Nat} (hn : n < 16) (trace : List Event) :
    assertE (((value &&& (0xF <<< UInt64.ofNat (n * 4))) >>> UInt64.ofNat (n * 4)).toUInt8 ≤ 0xF)
      trace = trace := by
  have hle : _ ≤ 15 := Nat.le_of_lt_succ (nibble_lt value n)
  rw [← nibble_eq value hn] at hle
  exact if_pos (decide_eq_true hle)

/-! ## The loop -/

section Loop

variable {size : UInt32} {value : UInt64} {trace : List Event}

/-- The loop, started with `s` digits written and zeros up to `TargetStringSize`, writes
the next `min n (TargetStringSize - 1 - s)` digits into the zeros. -/
theorem i64ToHexStringLoop_eq (hsize : 1 ≤ size.toNat) (n : Nat) (hn : n ≤ 16) (s : Nat)
    (done post : List UInt8) (hdone : done.length = s) (hs : s ≤ size.toNat - 1) :
    i64ToHexStringLoop size value n s (done ++ List.replicate (size.toNat - s) 0 ++ post) trace =
      .ok (done ++ digitsFrom value n (min n (size.toNat - 1 - s)) ++
        List.replicate (size.toNat - s - min n (size.toNat - 1 - s)) 0 ++ post, trace) := by
  have hsub : (size - 1).toNat = size.toNat - 1 := UInt32.toNat_sub_of_le _ _ hsize
  induction n generalizing s done with
  | zero =>
      simp only [i64ToHexStringLoop, digitsFrom, Nat.zero_min, List.range_zero, List.map_nil,
        List.append_nil, Nat.sub_zero, List.append_assoc]
  | succ n ih =>
      simp only [i64ToHexStringLoop, hsub, assertE_nibble value (show n < 16 by omega)]
      by_cases hlt : s < size.toNat - 1
      · have hm : size.toNat - 1 - s = size.toNat - 1 - (s + 1) + 1 := by omega
        have hmin : min (n + 1) (size.toNat - 1 - s) = min n (size.toNat - 1 - (s + 1)) + 1 := by
          rw [hm, Nat.add_min_add_right]
        have hrep : List.replicate (size.toNat - s) (0 : UInt8) =
            0 :: List.replicate (size.toNat - (s + 1)) 0 := by
          rw [← List.replicate_succ]; congr 1; omega
        have hbuf : done ++ List.replicate (size.toNat - s) 0 ++ post =
            done ++ [0] ++ (List.replicate (size.toNat - (s + 1)) 0 ++ post) := by
          rw [hrep]; simp only [List.append_assoc, List.cons_append, List.nil_append]
        rw [if_pos hlt, nibble_eq value (by omega), itoH_getD (nibble_lt value n), hbuf, ← hdone,
          @copyMem_append _ [0] _ [hexDigit (nibble value n)] rfl, hdone]
        have hcount : size.toNat - (s + 1) - min n (size.toNat - 1 - (s + 1)) =
            size.toNat - s - (min n (size.toNat - 1 - (s + 1)) + 1) := by omega
        have hlen (c : UInt8) : (done ++ [c]).length = s + 1 := by
          simp only [List.length_append, hdone, List.length_singleton]
        rw [ok_bind, ← List.append_assoc, ih (by omega) (s + 1) _ (hlen _) (by omega), hmin,
          digitsFrom_succ, hcount]
        simp only [List.append_assoc, List.singleton_append, List.cons_append, List.nil_append]
      · have hmin : min (n + 1) (size.toNat - 1 - s) = 0 := by omega
        rw [if_neg hlt, hmin]
        simp only [digitsFrom, List.range_zero, List.map_nil, List.append_nil, Nat.sub_zero,
          List.append_assoc]

/-- While the room check passes for the next `n` indices, the loop writes the next `n` digits
over whatever the memory after the written ones holds, and faults where that memory ends. -/
theorem i64ToHexStringLoop_of_room (n : Nat) (hn : n ≤ 16) (s : Nat) (done rest : List UInt8)
    (hdone : done.length = s) (hroom : s + n ≤ (size - 1).toNat) :
    i64ToHexStringLoop size value n s (done ++ rest) trace =
      if n ≤ rest.length then .ok (done ++ digitsFrom value n n ++ rest.drop n, trace)
      else .error .outOfBounds := by
  induction n generalizing s done rest with
  | zero => simp [i64ToHexStringLoop, digitsFrom]
  | succ n ih =>
      rw [i64ToHexStringLoop, assertE_nibble value (by omega), if_pos (by omega), nibble_eq value (by omega),
        itoH_getD (nibble_lt value n)]
      cases rest with
      | nil => simp [copyMem, hdone]
      | cons c rest =>
          have hlen (d : UInt8) : (done ++ [d]).length = s + 1 := by
            simp only [List.length_append, hdone, List.length_singleton]
          rw [← List.singleton_append, ← List.append_assoc, ← hdone,
            @copyMem_append _ [c] _ [hexDigit (nibble value n)] rfl, hdone, ok_bind,
            ih (by omega) (s + 1) _ rest (hlen _) (by omega), digitsFrom_succ]
          simp only [List.length_cons, Nat.add_le_add_iff_right, List.drop_succ_cons, List.append_assoc,
            List.singleton_append]

end Loop

/-! ## The conversion -/

theorem zeroMem_eq {buffer : List UInt8} {length : Nat} (h : length ≤ buffer.length) :
    zeroMem buffer length = .ok (List.replicate length 0 ++ buffer.drop length) := by
  rw [zeroMem, copyMem_of_le (by simpa using h)]
  simp

/-- A hex digit is never the terminator. -/
theorem zero_not_mem_digitsFrom (value : UInt64) (n m : Nat) : (0 : UInt8) ∉ digitsFrom value n m := by
  have key : ∀ d : Fin 16, hexDigit d ≠ 0 := by decide
  simp only [digitsFrom, List.mem_map, List.mem_range, not_exists, not_and]
  exact fun i _ h => key ⟨_, nibble_lt value _⟩ h

/-- Reading the digits back, most significant first, gives the low `n` nibbles of the value. -/
theorem foldl_digitsFrom (value : UInt64) (n acc : Nat) :
    (digitsFrom value n n).foldl (fun acc c => 16 * acc + hexDigitValue c) acc =
      acc * 16 ^ n + value.toNat % 16 ^ n := by
  induction n generalizing acc with
  | zero => simp [digitsFrom, Nat.mod_one]
  | succ n ih =>
      rw [digitsFrom_succ, List.foldl_cons, ih, hexDigitValue_hexDigit (nibble_lt value n),
        Nat.mod_pow_succ, nibble, Nat.pow_succ]
      ring

/-- The sixteen digits spell the value. -/
theorem hexValue_hexDigits (value : UInt64) : hexValue (hexDigits value 16) = value.toNat := by
  rw [hexValue, hexDigits, foldl_digitsFrom, Nat.zero_mul, Nat.zero_add,
    Nat.mod_eq_of_lt (lt_of_lt_of_le value.toNat_lt_size (by decide))]

/-- The conversion as a whole: the digits, the zeros after them up to `TargetStringSize`, and
the memory after that left alone. -/
theorem i64ToHexString_eq {buffer : List UInt8} {size : UInt32} (value : UInt64) (trace : List Event)
    (hsize : 1 ≤ size.toNat) (hbuffer : size.toNat ≤ buffer.length) :
    i64ToHexString buffer size value trace =
      .ok (hexDigits value (min (size.toNat - 1) 16) ++
        List.replicate (size.toNat - min (size.toNat - 1) 16) 0 ++ buffer.drop size.toNat, trace) := by
  have h := @i64ToHexStringLoop_eq size value trace hsize 16 le_rfl 0 [] (buffer.drop size.toNat)
    rfl (Nat.zero_le _)
  simp only [Nat.sub_zero, List.nil_append, Nat.min_comm 16] at h
  rw [i64ToHexString, zeroMem_eq hbuffer, ok_bind, h]
  rfl

/-- At the driver's size, on its 17-byte buffers: the sixteen digits and the terminator. -/
theorem i64ToHexString_seventeen {buffer : List UInt8} (hbuffer : buffer.length = 17)
    (value : UInt64) (trace : List Event) :
    i64ToHexString buffer 17 value trace = .ok (hexDigits value 16 ++ [0], trace) := by
  rw [i64ToHexString_eq value trace (by decide) (by rw [hbuffer]; decide),
    show (17 : UInt32).toNat = 17 from rfl, List.drop_eq_nil_of_le (by omega), List.append_nil]
  rfl

/-- `I64ToHexString` writes, for every value and every `TargetStringSize ≥ 1`, the
`min (TargetStringSize - 1) 16` most significant nibbles of the value as uppercase hex
digits followed by NULs up to `TargetStringSize`, and leaves the memory after that alone, with
no `ASSERT` failing; at the driver's size `17` the string it leaves is the sixteen digits,
which spell the value. -/
theorem i64ToHexString_spec (buffer : List UInt8) (size : UInt32) (value : UInt64)
    (trace : List Event) (hsize : 1 ≤ size.toNat) (hbuffer : size.toNat ≤ buffer.length) :
    i64ToHexString buffer size value trace =
        .ok (hexDigits value (min (size.toNat - 1) 16) ++
          List.replicate (size.toNat - min (size.toNat - 1) 16) 0 ++ buffer.drop size.toNat, trace) ∧
      (size = 17 → ∃ result, i64ToHexString buffer size value trace = .ok (result, trace) ∧
        cString result = hexDigits value 16 ∧ (hexDigits value 16).length = 16 ∧
        hexValue (hexDigits value 16) = value.toNat) := by
  have hrun := i64ToHexString_eq value trace hsize hbuffer
  refine ⟨hrun, fun h17 => ⟨_, hrun, ?_, by simp [hexDigits], hexValue_hexDigits value⟩⟩
  subst h17
  show cString (hexDigits value 16 ++ List.replicate 1 0 ++ _) = _
  exact cString_append_zero (zero_not_mem_digitsFrom value 16 16) _

/-- A `TargetStringSize` of zero wraps the room check `StringInx < TargetStringSize - 1` around:
the conversion writes all sixteen digits, and no terminator, into the memory at
`TargetStringSz`, sixteen bytes past a buffer of none, and faults where that memory ends
first. -/
theorem i64ToHexString_zero (buffer : List UInt8) (value : UInt64) (trace : List Event) :
    i64ToHexString buffer 0 value trace =
      if 16 ≤ buffer.length then .ok (hexDigits value 16 ++ buffer.drop 16, trace)
      else .error .outOfBounds := by
  rw [i64ToHexString, show (0 : UInt32).toNat = 0 from rfl, zeroMem_eq (Nat.zero_le _), ok_bind]
  exact i64ToHexStringLoop_of_room 16 le_rfl 0 [] buffer rfl (by decide)

theorem i64ToHexString_spec_serial :
    1 ≤ (17 : UInt32).toNat ∧ (17 : UInt32).toNat ≤ (List.replicate 17 (0 : UInt8)).length ∧
      i64ToHexString (List.replicate 17 0) 17 0x0123456789ABCDEF [] =
        .ok (hexDigits 0x0123456789ABCDEF 16 ++ [0], []) :=
  ⟨by decide, by decide, by
    simpa using (i64ToHexString_spec (List.replicate 17 0) 17 0x0123456789ABCDEF []
      (by decide) (by decide)).1⟩

end PlatformSmbios
