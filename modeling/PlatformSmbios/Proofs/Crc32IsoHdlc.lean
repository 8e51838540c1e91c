import PlatformSmbios.Proofs.Crc32

/-!
# `CalculateCrc32NoComp` and CRC-32/ISO-HDLC

CRC-32/ISO-HDLC is specified in the Rocksoft parameter model: width 32, polynomial
`0x04C11DB7`, initial register `0xFFFFFFFF`, input bytes and output register reflected, and
`0xFFFFFFFF` xored into the result.  `crc32IsoHdlc` runs that model literally: a register
shifted left, most significant bit first, with each input byte reflected into its top eight
bits.  `crc32IsoHdlc_eq` says it is `CalculateCrc32NoComp (0xFFFFFFFF, Buffer) ^ 0xFFFFFFFF`.

## Strategy

Mirroring the register (`rev32`) turns the left-shifting model into the right-shifting one of
`crcBitwise`: it distributes over xor, a left shift becomes a right shift, the polynomial
becomes `0xEDB88320`, and a reflected byte in the top bits becomes the byte in the low bits.
Every such fact is read bit by bit through `getLsbD_rev32`.
-/

namespace PlatformSmbios

/-! ## The Rocksoft model -/

/-- The low `w` bits of `x`, in reverse order. -/
def reflect : Nat → Nat → Nat
  | 0, _ => 0
  | w + 1, x => (x % 2) <<< w ||| reflect w (x >>> 1)

/-- The register mirrored: bit `i` moves to bit `31 - i`. -/
def rev32 (c : UInt32) : UInt32 := UInt32.ofNat (reflect 32 c.toNat)

/-- One shift of the register, most significant bit first: left by one, adding `0x04C11DB7`
when the bit shifted out is one. -/
def msbShift (c : UInt32) : UInt32 :=
  (c <<< 1) ^^^ (if c.toBitVec.getLsbD 31 then 0x04C11DB7 else 0)

/-- `n` shifts of the register. -/
def msbShifts : Nat → UInt32 → UInt32
  | 0, c => c
  | n + 1, c => msbShifts n (msbShift c)

/-- One byte: the reflected byte is xored into the top eight bits, then eight shifts. -/
def isoHdlcByte (c : UInt32) (b : UInt8) : UInt32 :=
  msbShifts 8 (c ^^^ (UInt32.ofNat (reflect 8 b.toNat) <<< 24))

/-- CRC-32/ISO-HDLC of a buffer. -/
def crc32IsoHdlc (buffer : List UInt8) : UInt32 :=
  rev32 (buffer.foldl isoHdlcByte 0xFFFFFFFF) ^^^ 0xFFFFFFFF

set_option maxRecDepth 4000 in
/-- The standard check value, over `"123456789"`. -/
example : crc32IsoHdlc [49, 50, 51, 52, 53, 54, 55, 56, 57] = 0xCBF43926 := by decide

/-! ## The mirrored register -/

theorem testBit_reflect (w x i : Nat) :
    (reflect w x).testBit i = (decide (i < w) && x.testBit (w - 1 - i)) := by
  induction w generalizing x with
  | zero => simp [reflect]
  | succ w ih =>
      rw [reflect, Nat.testBit_or, Nat.testBit_shiftLeft, ih, Nat.testBit_shiftRight,
        show (2 : Nat) = 2 ^ 1 from rfl, Nat.testBit_mod_two_pow]
      rcases Nat.lt_trichotomy i w with h | rfl | h
      · simp [h, show ¬ w ≤ i by omega, show i < w + 1 by omega,
          show 1 + (w - 1 - i) = w + 1 - 1 - i by omega]
      · simp
      · simp [show w ≤ i by omega, show ¬ i < w by omega, show ¬ i - w < 1 by omega,
          show ¬ i < w + 1 by omega]

theorem getLsbD_rev32 (c : UInt32) (i : Nat) :
    (rev32 c).toBitVec.getLsbD i = (decide (i < 32) && c.toBitVec.getLsbD (31 - i)) := by
  show (BitVec.ofNat 32 _).getLsbD i = _
  rw [BitVec.getLsbD_ofNat, testBit_reflect]
  by_cases h : i < 32 <;> simp [h]; rfl

theorem getLsbD_toUInt32 (b : UInt8) (i : Nat) :
    b.toUInt32.toBitVec.getLsbD i = (decide (i < 8) && b.toNat.testBit i) := by
  show b.toNat.testBit i = _
  by_cases h : i < 8
  · simp [h]
  · simp [h, Nat.testBit_lt_two_pow (lt_of_lt_of_le (show b.toNat < 2 ^ 8 from b.toNat_lt_size)
      (Nat.pow_le_pow_right (by omega) (by omega : 8 ≤ i)))]

theorem rev32_xor (a b : UInt32) : rev32 (a ^^^ b) = rev32 a ^^^ rev32 b := by
  apply UInt32.eq_of_toBitVec_eq
  apply BitVec.eq_of_getLsbD_eq
  intro i
  show (rev32 (a ^^^ b)).toBitVec.getLsbD i =
    ((rev32 a).toBitVec ^^^ (rev32 b).toBitVec).getLsbD i
  rw [BitVec.getLsbD_xor, getLsbD_rev32, getLsbD_rev32, getLsbD_rev32,
    show (a ^^^ b).toBitVec = a.toBitVec ^^^ b.toBitVec from rfl, BitVec.getLsbD_xor]
  cases decide ((i : Nat) < 32) <;> simp

/-- Mirrored, a left shift is a right shift. -/
theorem rev32_shiftLeft_one (c : UInt32) : rev32 (c <<< 1) = rev32 c >>> 1 := by
  apply UInt32.eq_of_toBitVec_eq
  apply BitVec.eq_of_getLsbD_eq
  intro i
  show (rev32 (c <<< 1)).toBitVec.getLsbD i = ((rev32 c).toBitVec >>> 1).getLsbD i
  rw [getLsbD_rev32, BitVec.getLsbD_ushiftRight, getLsbD_rev32]
  rw [show (c <<< 1).toBitVec = c.toBitVec <<< 1 from rfl, BitVec.getLsbD_shiftLeft]
  by_cases h : (i : Nat) < 31
  · simp [h, show (i : Nat) < 32 by omega, show 1 + (i : Nat) < 32 by omega,
      show 31 - (i : Nat) < 32 by omega, show ¬ 31 - (i : Nat) < 1 by omega, show 31 - (i : Nat) - 1 = 31 - (1 + i) by omega]
  · simp [show 31 - (i : Nat) < 1 by omega, show ¬ 1 + (i : Nat) < 32 by omega]

/-- Mirrored, one shift of the Rocksoft register is one shift of the reflected register. -/
theorem rev32_msbShift (c : UInt32) : rev32 (msbShift c) = crcShift (rev32 c) := by
  have hcond : c.toBitVec.getLsbD 31 = true ↔ rev32 c % 2 = 1 := by
    rw [mod_two_eq_one_iff, getLsbD_rev32]; rfl
  unfold msbShift crcShift
  rw [rev32_xor, rev32_shiftLeft_one]
  by_cases h : c.toBitVec.getLsbD 31 = true
  · rw [if_pos h, if_pos (hcond.mp h)]; rfl
  · rw [if_neg h, if_neg (mt hcond.mpr h)]; rfl

theorem rev32_msbShifts (n : Nat) (c : UInt32) : rev32 (msbShifts n c) = crcShifts n (rev32 c) := by
  induction n generalizing c with
  | zero => rfl
  | succ n ih => rw [msbShifts, ih, rev32_msbShift]; rfl

/-- Mirrored, a reflected byte in the top eight bits is the byte in the low eight. -/
theorem rev32_reflect_byte (b : UInt8) :
    rev32 (UInt32.ofNat (reflect 8 b.toNat) <<< 24) = b.toUInt32 := by
  apply UInt32.eq_of_toBitVec_eq
  apply BitVec.eq_of_getLsbD_eq
  intro i
  rw [getLsbD_rev32, getLsbD_toUInt32,
    show (UInt32.ofNat (reflect 8 b.toNat) <<< 24).toBitVec =
      BitVec.ofNat 32 (reflect 8 b.toNat) <<< 24 from rfl,
    BitVec.getLsbD_shiftLeft, BitVec.getLsbD_ofNat, testBit_reflect]
  by_cases h : (i : Nat) < 8
  · simp [h, show (i : Nat) < 32 by omega, show ¬ 31 - (i : Nat) < 24 by omega,
      show 31 - (i : Nat) < 32 by omega, show 31 - (i : Nat) - 24 < 32 by omega,
      show 31 - (i : Nat) - 24 < 8 by omega, show 8 - 1 - (31 - (i : Nat) - 24) = i by omega]
  · simp [h, show 31 - (i : Nat) < 24 by omega]

theorem rev32_isoHdlcByte (c : UInt32) (b : UInt8) :
    rev32 (isoHdlcByte c b) = crcBitByte (rev32 c) b := by
  rw [isoHdlcByte, rev32_msbShifts, rev32_xor, rev32_reflect_byte]
  rfl

theorem rev32_foldl_isoHdlcByte (c : UInt32) (buffer : List UInt8) :
    rev32 (buffer.foldl isoHdlcByte c) = crcBitwise (rev32 c) buffer := by
  induction buffer generalizing c with
  | nil => rfl
  | cons b buffer ih => rw [List.foldl_cons, ih, rev32_isoHdlcByte]; rfl

/-- CRC-32/ISO-HDLC is the table loop seeded with `0xFFFFFFFF`, its result complemented. -/
theorem crc32IsoHdlc_eq (buffer : List UInt8) :
    crc32IsoHdlc buffer = calculateCrc32NoComp 0xFFFFFFFF buffer ^^^ 0xFFFFFFFF := by
  rw [crc32IsoHdlc, rev32_foldl_isoHdlcByte, calculateCrc32NoComp_eq_crcBitwise]
  rfl

/-! ## `CalculateCrc32NoComp` -/

/-- `CalculateCrc32NoComp` is the bit-serial reflected CRC with polynomial `0xEDB88320` and no
complement, hence a left fold that chains over concatenation, and CRC-32/ISO-HDLC is it seeded
with `0xFFFFFFFF` and complemented. -/
theorem calculateCrc32NoComp_spec (seed : UInt32) (a b : List UInt8) :
    calculateCrc32NoComp seed a = crcBitwise seed a ∧
      calculateCrc32NoComp (calculateCrc32NoComp seed a) b = calculateCrc32NoComp seed (a ++ b) ∧
      crc32IsoHdlc a = calculateCrc32NoComp 0xFFFFFFFF a ^^^ 0xFFFFFFFF :=
  ⟨calculateCrc32NoComp_eq_crcBitwise seed a, calculateCrc32NoComp_append seed a b,
    crc32IsoHdlc_eq a⟩

end PlatformSmbios
