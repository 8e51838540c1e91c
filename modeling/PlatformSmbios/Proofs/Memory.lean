import Mathlib.Data.String.Basic
import PlatformSmbios.Proofs.Run

/-!
# The memory records

`PhyMemArrayInfoUpdateSmbiosType16` derives three size fields from the DRAM size `M`: the
Type 17 `Size` in MB, a `UINT16` whose bit 15 the code leaves clear ("since bit 15 = 0"), the
Type 16 `MaximumCapacity` in KB from that `Size`, and the Type 17 `VolatileSize` in bytes from
that `Size`.  `MemArrMapInfoUpdateSmbiosType19` stores the address range in KB.

Read back by the SMBIOS rules, the records agree with `M` and with the base `B` as long as `M`
is below `0x7FFF` MB (just under 32 GB): `Size` then has bit 15 clear and is not the `0x7FFF`
escape.  At `0x7FFF` MB, `Size` is the escape to `ExtendedSize`, which the driver never sets, so
a reader finds a device of size 0; above it bit 15 turns `Size` into KB, and from 64 GB on
`Size` wraps.
-/

namespace PlatformSmbios

/-! ## Reading the records -/

/-- The size in bytes of the device of a Type 17 record: `Size` in MB when bit 15 is clear and
in KB when it is set, and `0x7FFF` defers to `ExtendedSize` (bits 30:0, in MB). -/
def memoryDeviceSize (record : List UInt8) : Nat :=
  let size := readField record 0x0C 2
  if size = 0x7FFF then readField record 0x1C 4 % 2 ^ 31 * 2 ^ 20
  else if size < 0x8000 then size * 2 ^ 20 else (size - 0x8000) * 1024

/-- The capacity in bytes of a Type 16 record: `MaximumCapacity` in KB, or
`ExtendedMaximumCapacity` in bytes when `MaximumCapacity` is `0x80000000`. -/
def memoryArrayCapacity (record : List UInt8) : Nat :=
  let maximumCapacity := readField record 0x07 4
  if maximumCapacity = 0x80000000 then readField record 0x0F 8 else maximumCapacity * 1024

/-- The first byte address of a Type 19 range. -/
def rangeStart (record : List UInt8) : Nat := readField record 4 4 * 1024

/-- The length in bytes of a Type 19 range, from `StartingAddress` to `EndingAddress`
inclusive. -/
def rangeLength (record : List UInt8) : Nat := (readField record 8 4 + 1 - readField record 4 4) * 1024

/-- The readers look at the formatted area only. -/
theorem memoryDeviceSize_append {record : List UInt8} (h : 0x20 ≤ record.length) (rest : List UInt8) :
    memoryDeviceSize (record ++ rest) = memoryDeviceSize record := by
  simp only [memoryDeviceSize, @readField_append record 0x0C 2 rest (by omega),
    @readField_append record 0x1C 4 rest (by omega)]

theorem memoryArrayCapacity_append {record : List UInt8} (h : 0x17 ≤ record.length) (rest : List UInt8) :
    memoryArrayCapacity (record ++ rest) = memoryArrayCapacity record := by
  simp only [memoryArrayCapacity, @readField_append record 0x07 4 rest (by omega),
    @readField_append record 0x0F 8 rest (by omega)]

theorem rangeStart_append {record : List UInt8} (h : 8 ≤ record.length) (rest : List UInt8) :
    rangeStart (record ++ rest) = rangeStart record := by
  rw [rangeStart, @readField_append record 4 4 rest (by omega), rangeStart]

theorem rangeLength_append {record : List UInt8} (h : 12 ≤ record.length) (rest : List UInt8) :
    rangeLength (record ++ rest) = rangeLength record := by
  rw [rangeLength, @readField_append record 8 4 rest (by omega),
    @readField_append record 4 4 rest (by omega), rangeLength]

/-! ## The records of a run -/

section Sizes

variable {env : Env} {fw : Firmware} {g : Globals}

theorem memoryDeviceSize_of_afterRun (ha : g.AfterRun env fw)
    (hmax : env.sdramGetMemorySize.toNat < 0x7FFF * 2 ^ 20) :
    memoryDeviceSize g.mMemDevInfoType17 = env.sdramGetMemorySize.toNat / 2 ^ 20 * 2 ^ 20 := by
  have hsize : readField g.mMemDevInfoType17 0x0C 2 = env.sdramGetMemorySize.toNat / 2 ^ 20 := by
    rw [ha.size]; omega
  simp only [memoryDeviceSize, hsize]
  rw [if_neg (by omega), if_pos (by omega)]

theorem memoryArrayCapacity_of_afterRun (ha : g.AfterRun env fw) :
    memoryArrayCapacity g.mPhyMemArrayInfoType16 =
      env.sdramGetMemorySize.toNat / 2 ^ 20 % 2 ^ 16 * 1024 * 1024 := by
  simp only [memoryArrayCapacity, ha.maximumCapacity]
  rw [if_neg (by omega)]

/-- `EndingAddress` is `StartingAddress + M / 1024 - 1` whenever that fits in 32 bits. -/
theorem endingAddress_of_afterRun (ha : g.AfterRun env fw)
    (hpos : 1024 ≤ env.sdramGetMemorySize.toNat)
    (hreach : env.pcdSystemMemoryBase.toNat / 1024 % 2 ^ 32 + env.sdramGetMemorySize.toNat / 1024 ≤
      2 ^ 32) :
    readField g.mMemArrMapInfoType19 8 4 =
      env.pcdSystemMemoryBase.toNat / 1024 % 2 ^ 32 + env.sdramGetMemorySize.toNat / 1024 - 1 := by
  rw [ha.endingAddress, UInt64.toNat_sub, UInt64.toNat_add, UInt64.toNat_div, toNat_uint64_ofNat]
  simp only [UInt64.size, show (1024 : UInt64).toNat = 1024 from rfl,
    show (1 : UInt64).toNat = 1 from rfl]
  omega

end Sizes

/-- For every DRAM size `M`, a positive multiple of 1 MB below `0x7FFF` MB, and every base `B`, a
multiple of 1 KB with `B + M ≤ 2^42`, the memory records of the run read back by the SMBIOS
rules give `M` (Type 17 `Size` and `VolatileSize`, Type 16 capacity) and the range from `B` of
length `M` (Type 19), so no field wrapped; and so do the records of these types the run hands
to `Add`, whatever the firmware does. -/
theorem memoryRecords_agree (env : Env) (fw : Firmware)
    (hM : env.sdramGetMemorySize.toNat % 2 ^ 20 = 0) (hpos : 0 < env.sdramGetMemorySize.toNat)
    (hmax : env.sdramGetMemorySize.toNat < 0x7FFF * 2 ^ 20)
    (hB : env.pcdSystemMemoryBase.toNat % 1024 = 0)
    (hreach : env.pcdSystemMemoryBase.toNat + env.sdramGetMemorySize.toNat ≤ 2 ^ 42) :
    ∃ g trace, platformSmbiosDriverEntryPoint env fw = .ok (.success, g, trace) ∧
      memoryDeviceSize g.mMemDevInfoType17 = env.sdramGetMemorySize.toNat ∧
      readField g.mMemDevInfoType17 0x3C 8 = env.sdramGetMemorySize.toNat ∧
      memoryArrayCapacity g.mPhyMemArrayInfoType16 = env.sdramGetMemorySize.toNat ∧
      rangeStart g.mMemArrMapInfoType19 = env.pcdSystemMemoryBase.toNat ∧
      rangeLength g.mMemArrMapInfoType19 = env.sdramGetMemorySize.toNat ∧
      ∀ record ∈ trace.filterMap Event.addedRecord,
        (record.getD 0 0 = 16 → memoryArrayCapacity record = env.sdramGetMemorySize.toNat) ∧
        (record.getD 0 0 = 17 → memoryDeviceSize record = env.sdramGetMemorySize.toNat ∧
          readField record 0x3C 8 = env.sdramGetMemorySize.toNat) ∧
        (record.getD 0 0 = 19 → rangeStart record = env.pcdSystemMemoryBase.toNat ∧
          rangeLength record = env.sdramGetMemorySize.toNat) := by
  obtain ⟨g, hrun, hs, ha⟩ := platformSmbiosDriverEntryPoint_eq env fw
  have hend := endingAddress_of_afterRun ha (by omega) (by omega)
  have hsize : memoryDeviceSize g.mMemDevInfoType17 = env.sdramGetMemorySize.toNat := by
    rw [memoryDeviceSize_of_afterRun ha hmax]; omega
  have hvolatile : readField g.mMemDevInfoType17 0x3C 8 = env.sdramGetMemorySize.toNat := by
    rw [ha.volatileSize]; omega
  have hcapacity : memoryArrayCapacity g.mPhyMemArrayInfoType16 = env.sdramGetMemorySize.toNat := by
    rw [memoryArrayCapacity_of_afterRun ha]; omega
  have hstart : rangeStart g.mMemArrMapInfoType19 = env.pcdSystemMemoryBase.toNat := by
    rw [rangeStart, ha.startingAddress]; omega
  have hlength : rangeLength g.mMemArrMapInfoType19 = env.sdramGetMemorySize.toNat := by
    rw [rangeLength, hend, ha.startingAddress]; omega
  refine ⟨g, _, hrun, hsize, hvolatile, hcapacity, hstart, hlength, fun record hrecord => ?_⟩
  have hmem := hs.mem_records_of_added hrecord
  refine ⟨fun h16 => ?_, fun h17 => ?_, fun h19 => ?_⟩
  · rw [h16] at hmem
    rw [List.mem_singleton.mp hmem, memoryArrayCapacity_append (by rw [hs.type16.length_eq]), hcapacity]
  · rw [h17] at hmem
    rw [List.mem_singleton.mp hmem, memoryDeviceSize_append (by rw [hs.type17.length_eq]; omega),
      readField_append _ (by rw [hs.type17.length_eq]; omega), hsize, hvolatile]
    exact ⟨rfl, rfl⟩
  · rw [h19] at hmem
    rw [List.mem_singleton.mp hmem, rangeStart_append (by rw [hs.type19.length_eq]; omega),
      rangeLength_append (by rw [hs.type19.length_eq]; omega), hstart, hlength]
    exact ⟨rfl, rfl⟩

theorem memoryRecords_agree_sample :
    sampleBoard.sdramGetMemorySize.toNat % 2 ^ 20 = 0 ∧ 0 < sampleBoard.sdramGetMemorySize.toNat ∧
      sampleBoard.sdramGetMemorySize.toNat < 0x7FFF * 2 ^ 20 ∧
      sampleBoard.pcdSystemMemoryBase.toNat % 1024 = 0 ∧
      sampleBoard.pcdSystemMemoryBase.toNat + sampleBoard.sdramGetMemorySize.toNat ≤ 2 ^ 42 ∧
      ∃ g trace, platformSmbiosDriverEntryPoint sampleBoard acceptingFirmware =
          .ok (.success, g, trace) ∧
        memoryDeviceSize g.mMemDevInfoType17 = sampleBoard.sdramGetMemorySize.toNat ∧
        readField g.mMemDevInfoType17 0x3C 8 = sampleBoard.sdramGetMemorySize.toNat ∧
        memoryArrayCapacity g.mPhyMemArrayInfoType16 = sampleBoard.sdramGetMemorySize.toNat ∧
        rangeStart g.mMemArrMapInfoType19 = sampleBoard.pcdSystemMemoryBase.toNat ∧
        rangeLength g.mMemArrMapInfoType19 = sampleBoard.sdramGetMemorySize.toNat ∧
        ∀ record ∈ trace.filterMap Event.addedRecord,
          (record.getD 0 0 = 16 → memoryArrayCapacity record = sampleBoard.sdramGetMemorySize.toNat) ∧
          (record.getD 0 0 = 17 → memoryDeviceSize record = sampleBoard.sdramGetMemorySize.toNat ∧
            readField record 0x3C 8 = sampleBoard.sdramGetMemorySize.toNat) ∧
          (record.getD 0 0 = 19 → rangeStart record = sampleBoard.pcdSystemMemoryBase.toNat ∧
            rangeLength record = sampleBoard.sdramGetMemorySize.toNat) :=
  ⟨by decide, by decide, by decide, by decide, by decide,
    memoryRecords_agree sampleBoard acceptingFirmware (by decide) (by decide) (by decide) (by decide)
      (by decide)⟩

/-- At `M = 0x7FFF` MB, `B = 0`, `Size` is the escape to `ExtendedSize`, which is 0. -/
theorem memoryDeviceSize_7fff_mb :
    let env := { sampleBoard with sdramGetMemorySize := 0x7FFF00000 }
    env.sdramGetMemorySize.toNat % 2 ^ 20 = 0 ∧ 0 < env.sdramGetMemorySize.toNat ∧
      env.pcdSystemMemoryBase.toNat % 1024 = 0 ∧
      env.pcdSystemMemoryBase.toNat + env.sdramGetMemorySize.toNat ≤ 2 ^ 42 ∧
      ∃ g trace, platformSmbiosDriverEntryPoint env acceptingFirmware = .ok (.success, g, trace) ∧
        readField g.mMemDevInfoType17 0x0C 2 = 0x7FFF ∧
        memoryDeviceSize g.mMemDevInfoType17 = 0 := by
  intro env
  obtain ⟨g, hrun, -, ha⟩ := platformSmbiosDriverEntryPoint_eq env acceptingFirmware
  have hsize : readField g.mMemDevInfoType17 0x0C 2 = 0x7FFF := by
    rw [ha.size]
    show (0x7FFF00000 : UInt64).toNat / 2 ^ 20 % 2 ^ 16 = 0x7FFF
    rfl
  refine ⟨by decide, by decide, by decide, by decide, g, _, hrun, hsize, ?_⟩
  simp only [memoryDeviceSize, hsize, ha.extendedSize]
  rfl

end PlatformSmbios
