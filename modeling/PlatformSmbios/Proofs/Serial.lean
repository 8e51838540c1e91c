import PlatformSmbios.Proofs.Crc32
import PlatformSmbios.Proofs.Run

/-!
# The board serial

`SysInfoUpdateSmbiosType1` folds the sixteen OTP bytes into a 64-bit serial with two chained
CRCs, and shows it twice: as the serial-number string, sixteen hex digits, and byte-swapped
in `Uuid.Data4`.  On the little-endian target the swap makes `Data4` the serial's bytes most
significant first, so the string and `Data4` agree digit pair by byte.

## Strategy

The high CRC is seeded with the low one, which survives the round trip through `UINT64`, so the
chain is one CRC over both halves (`calculateCrc32NoComp_append`).  The two CRCs fill
disjoint halves of the serial, so the `|` is a sum.  Byte `k` of `Data4` is byte `7 - k` of
the serial (`getD_leBytes`), whose two nibbles are nibbles `15 - 2k` and `14 - 2k`, the
digits at `2k` and `2k + 1` of the string.
-/

namespace PlatformSmbios

/-! ## Bytes -/

/-- Byte `i` of a little-endian field. -/
theorem getD_leBytes {w i : Nat} (hi : i < w) (n : Nat) :
    (leBytes w n).getD i 0 = UInt8.ofNat (n / 256 ^ i) := by
  induction w generalizing i n with
  | zero => omega
  | succ w ih =>
      cases i with
      | zero => simp [leBytes]
      | succ i =>
          rw [show (leBytes (w + 1) n).getD (i + 1) 0 = (leBytes w (n / 256)).getD i 0 from rfl,
            ih (by omega), Nat.div_div_eq_div_mul, Nat.pow_succ, Nat.mul_comm]

theorem leBytes_leValue (l : List UInt8) : leBytes l.length (leValue l) = l := by
  induction l with
  | nil => rfl
  | cons b l ih =>
      have hb : b.toNat < 256 := b.toNat_lt_size
      simp only [leBytes, leValue, List.length_cons, List.cons.injEq]
      exact ⟨UInt8.eq_of_val_eq (Fin.ext (show (b.toNat + 256 * leValue l) % 2 ^ 8 = b.toNat by omega)),
        by rw [show (b.toNat + 256 * leValue l) / 256 = leValue l by omega, ih]⟩

/-- `SwapBytes64` reverses the eight bytes. -/
theorem leBytes_swapBytes64 (value : UInt64) :
    leBytes 8 (swapBytes64 value).toNat = (leBytes 8 value.toNat).reverse := by
  have hlt : leValue (leBytes 8 value.toNat).reverse < 2 ^ 64 := by
    simpa using leValue_lt (leBytes 8 value.toNat).reverse
  rw [swapBytes64, toNat_uint64_ofNat, Nat.mod_eq_of_lt hlt]
  simpa using leBytes_leValue (leBytes 8 value.toNat).reverse

/-! ## The serial -/

theorem or_shiftLeft_eq_add {a : Nat} (b : Nat) {n : Nat} (ha : a < 2 ^ n) :
    a ||| b <<< n = b * 2 ^ n + a := by
  apply Nat.eq_of_testBit_eq
  intro i
  rw [Nat.testBit_or, Nat.testBit_shiftLeft, Nat.mul_comm, Nat.testBit_mul_pow_two_add _ ha]
  by_cases hi : i < n
  · simp [hi]
  · have hai : a < 2 ^ i := lt_of_lt_of_le ha (Nat.pow_le_pow_right (by omega) (by omega))
    simp [hi, Nat.testBit_lt_two_pow hai, show n ≤ i by omega]

theorem toNat_or_uint64 (x y : UInt64) : (x ||| y).toNat = x.toNat ||| y.toNat :=
  BitVec.toNat_or _ _

/-- The serial is the CRC of the odd OTP bytes in the low half and the CRC of the odd then the
even bytes in the high half. -/
theorem toNat_boardSerial (otpData : List UInt8) :
    let serialLo := (List.range 8).map fun index => otpData.getD (index * 2 + 1) 0
    let serialHi := (List.range 8).map fun index => otpData.getD (index * 2) 0
    (boardSerial otpData).toNat = (calculateCrc32NoComp 0 (serialLo ++ serialHi)).toNat * 2 ^ 32 +
      (calculateCrc32NoComp 0 serialLo).toNat := by
  intro serialLo serialHi
  have hseed : (calculateCrc32NoComp 0 serialLo).toUInt64.toUInt32 = calculateCrc32NoComp 0 serialLo :=
    UInt32.eq_of_val_eq (Fin.ext (Nat.mod_eq_of_lt (UInt32.toNat_lt_size _)))
  have hhi := (calculateCrc32NoComp 0 (serialLo ++ serialHi)).toNat_lt_size
  have hlo := (calculateCrc32NoComp 0 serialLo).toNat_lt_size
  simp only [boardSerial]
  rw [hseed, calculateCrc32NoComp_append, toNat_or_uint64, toNat_shiftLeft]
  show UInt32.toNat _ ||| UInt32.toNat _ <<< 32 % 2 ^ 64 = _
  have hshift : (calculateCrc32NoComp 0 (serialLo ++ serialHi)).toNat <<< 32 < 2 ^ 64 := by
    rw [Nat.shiftLeft_eq]
    exact Nat.mul_lt_mul_of_pos_right hhi (by decide)
  rw [Nat.mod_eq_of_lt hshift, or_shiftLeft_eq_add _ hlo]

/-! ## Its two presentations -/

theorem getD_hexDigits (value : UInt64) {i : Nat} (hi : i < 16) :
    (hexDigits value 16).getD i 0 = hexDigit (nibble value (15 - i)) := by
  simp [hexDigits, digitsFrom, hi]

/-- The two nibbles of byte `m` are nibbles `2m + 1` and `2m`. -/
theorem nibbles_of_byte (value : UInt64) (m : Nat) :
    nibble value (2 * m + 1) = value.toNat / 256 ^ m % 256 / 16 ∧
      nibble value (2 * m) = value.toNat / 256 ^ m % 256 % 16 := by
  have h256 : (16 : Nat) ^ (2 * m) = 256 ^ m := by rw [Nat.pow_mul]
  refine ⟨?_, ?_⟩
  · rw [nibble, Nat.pow_succ, h256, ← Nat.div_div_eq_div_mul,
      show (256 : Nat) = 16 * 16 from rfl, Nat.mod_mul_right_div_self]
  · rw [nibble, h256, Nat.mod_mod_of_dvd _ (by decide : 16 ∣ 256)]

/-- The board serial is the CRC chain over the de-interleaved OTP bytes, the two CRCs side by
side; the run stores it as sixteen uppercase hex digits, most significant first, which spell
it, and as `Uuid.Data4`, its bytes most significant first; so digits `2k` and `2k + 1` of the
string are the two nibbles of `Data4[k]`. -/
theorem boardSerial_presentations (env : Env) (fw : Firmware) :
    let serialLo := (List.range 8).map fun index => env.otpData.getD (index * 2 + 1) 0
    let serialHi := (List.range 8).map fun index => env.otpData.getD (index * 2) 0
    let serial := boardSerial env.otpData
    serial.toNat = (calculateCrc32NoComp 0 (serialLo ++ serialHi)).toNat * 2 ^ 32 +
        (calculateCrc32NoComp 0 serialLo).toNat ∧
      ∃ g trace, platformSmbiosDriverEntryPoint env fw = .ok (.success, g, trace) ∧
        g.mSysInfoSerial = hexDigits serial 16 ++ [0] ∧
        hexValue (hexDigits serial 16) = serial.toNat ∧
        (g.mSysInfoType1.drop 16).take 8 = (leBytes 8 serial.toNat).reverse ∧
        ∀ k < 8,
          (hexDigits serial 16).getD (2 * k) 0 =
              hexDigit ((((g.mSysInfoType1.drop 16).take 8).getD k 0).toNat / 16) ∧
            (hexDigits serial 16).getD (2 * k + 1) 0 =
              hexDigit ((((g.mSysInfoType1.drop 16).take 8).getD k 0).toNat % 16) := by
  intro serialLo serialHi serial
  obtain ⟨g, hrun, -, ha⟩ := platformSmbiosDriverEntryPoint_eq env fw
  have hdata4 : (g.mSysInfoType1.drop 16).take 8 = (leBytes 8 serial.toNat).reverse := by
    rw [ha.uuidData4, leBytes_swapBytes64]
  refine ⟨toNat_boardSerial env.otpData, g, _, hrun, ha.serial, hexValue_hexDigits serial, hdata4,
    fun k hk => ?_⟩
  have hbyte : (((leBytes 8 serial.toNat).reverse.getD k 0).toNat) =
      serial.toNat / 256 ^ (7 - k) % 256 := by
    rw [List.getD_eq_getElem?_getD, List.getElem?_reverse (by simp; omega), length_leBytes,
      ← List.getD_eq_getElem?_getD, getD_leBytes (by omega)]
    rfl
  obtain ⟨hhigh, hlow⟩ := nibbles_of_byte serial (7 - k)
  rw [hdata4, hbyte, getD_hexDigits serial (by omega), getD_hexDigits serial (by omega),
    show 15 - 2 * k = 2 * (7 - k) + 1 by omega, show 15 - (2 * k + 1) = 2 * (7 - k) by omega,
    hhigh, hlow]
  exact ⟨rfl, rfl⟩

end PlatformSmbios
