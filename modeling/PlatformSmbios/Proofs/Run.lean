import PlatformSmbios.Proofs.Builders
import PlatformSmbios.Proofs.Calls

/-!
# A whole run of the driver

`platformSmbiosDriverEntryPoint_eq`: for every platform and every behaviour of the firmware, the
entry point returns `EFI_SUCCESS` and its events are those of fourteen `LogSmbiosData` calls,
the `n`-th on the `n`-th entry of `Globals.records` of the globals it leaves.  Each global is
written before the record that reads it is logged and never after, so the records of the final
globals are the records the run built.
-/

namespace PlatformSmbios

/-! ## The calls of a run -/

/-- The calls of `LogSmbiosData` of a run, in order: the type of the template, the record
built from it and the string-set of its pack, and whether the caller passes
`DataSmbiosHandle`. -/
def Globals.records (g : Globals) : List (UInt8 × List UInt8 × Bool) :=
  [(0, g.mBIOSInfoType0 ++ stringSet g.biosInfoType0Strings, false),
    (1, g.mSysInfoType1 ++ stringSet g.sysInfoType1Strings, false),
    (3, mEnclosureInfoType3 ++ stringSet g.enclosureInfoType3Strings, true),
    (2, g.mBoardInfoType2 ++ stringSet g.boardInfoType2Strings, false),
    (7, mCacheInfoType7_L1I ++ stringSet mCacheInfoType7Strings_L1I, false),
    (7, mCacheInfoType7_L1D ++ stringSet mCacheInfoType7Strings_L1D, true),
    (7, mCacheInfoType7_L2 ++ stringSet mCacheInfoType7Strings_L2, true),
    (4, g.mProcessorInfoType4 ++ stringSet g.processorInfoType4Strings, false),
    (9, mSysSlotInfoType9 ++ stringSet mSysSlotInfoType9Strings, false),
    (11, mOemStringsType11 ++ stringSet g.oemStringsType11Strings, false),
    (16, g.mPhyMemArrayInfoType16 ++ stringSet [], true),
    (17, g.mMemDevInfoType17 ++ stringSet g.memDevInfoType17Strings, false),
    (19, g.mMemArrMapInfoType19 ++ stringSet [], false),
    (32, mBootInfoType32 ++ stringSet [], false)]

/-- Each record of a run carries its call's type. -/
theorem Globals.Shaped.getD_zero_of_mem_records {g : Globals} (hs : g.Shaped)
    {c : UInt8 × List UInt8 × Bool} (hc : c ∈ g.records) : c.2.1.getD 0 0 = c.1 := by
  simp only [Globals.records, List.mem_cons, List.not_mem_nil, or_false] at hc
  rcases hc with rfl | rfl | rfl | rfl | rfl | rfl | rfl | rfl | rfl | rfl | rfl | rfl | rfl | rfl
  exacts [hs.type0.getD_zero_append _, hs.type1.getD_zero_append _, rfl, hs.type2.getD_zero_append _,
    rfl, rfl, rfl, hs.type4.getD_zero_append _, rfl, rfl, hs.type16.getD_zero_append _,
    hs.type17.getD_zero_append _, hs.type19.getD_zero_append _, rfl]

/-- A record a run hands to `Add` is the record of one of its calls of the record's type. -/
theorem Globals.Shaped.mem_records_of_added {g : Globals} (hs : g.Shaped) {fw : Firmware}
    {record : List UInt8} (h : record ∈ (logCalls fw 0 g.records).filterMap Event.addedRecord) :
    record ∈ (g.records.filter fun c => c.1 == record.getD 0 0).map fun c => c.2.1 := by
  obtain ⟨c, hc, rfl⟩ := List.mem_map.mp ((addedRecords_logCalls_sublist fw 0 g.records).subset h)
  exact List.mem_map.mpr ⟨c, List.mem_filter.mpr ⟨hc, beq_iff_eq.mpr (hs.getD_zero_of_mem_records hc).symm⟩,
    rfl⟩

/-! ## The run -/

theorem toNat_lt_65536 (x : UInt16) : x.toNat < 65536 := x.toNat_lt_size

theorem toNat_uint64_ofNat (n : Nat) : (UInt64.ofNat n).toNat = n % 2 ^ 64 := BitVec.toNat_ofNat _ _

theorem toNat_multU64x32 (multiplicand : UInt64) (multiplier : UInt32) :
    (multU64x32 multiplicand multiplier).toNat = multiplicand.toNat * multiplier.toNat % 2 ^ 64 :=
  rfl

theorem length_initial_type1 (pcds : FixedPcds) : (Globals.initial pcds).mSysInfoType1.length = 0x1B :=
  rfl

theorem length_initial_type2 (pcds : FixedPcds) : (Globals.initial pcds).mBoardInfoType2.length = 0x11 :=
  rfl

theorem length_initial_type4 (pcds : FixedPcds) :
    (Globals.initial pcds).mProcessorInfoType4.length = 0x30 := rfl

theorem length_initial_type16 (pcds : FixedPcds) :
    (Globals.initial pcds).mPhyMemArrayInfoType16.length = 0x17 := rfl

theorem length_initial_type17 (pcds : FixedPcds) :
    (Globals.initial pcds).mMemDevInfoType17.length = 0x5C := rfl

theorem length_initial_type19 (pcds : FixedPcds) :
    (Globals.initial pcds).mMemArrMapInfoType19.length = 0x1F := rfl

/-- What the `DataSmbiosHandle` calls of a run store: the Type 3 record, the L1 data and L2
cache records, and the Type 16 record. -/
theorem writtenHandle_two (fw : Firmware) (g : Globals) : writtenHandle fw g.records 2 =
    (logCall fw 2 3 (mEnclosureInfoType3 ++ stringSet g.enclosureInfoType3Strings) true).2.1 := rfl

theorem writtenHandle_five (fw : Firmware) (g : Globals) : writtenHandle fw g.records 5 =
    (logCall fw 5 7 (mCacheInfoType7_L1D ++ stringSet mCacheInfoType7Strings_L1D) true).2.1 := rfl

theorem writtenHandle_six (fw : Firmware) (g : Globals) : writtenHandle fw g.records 6 =
    (logCall fw 6 7 (mCacheInfoType7_L2 ++ stringSet mCacheInfoType7Strings_L2) true).2.1 := rfl

theorem writtenHandle_ten (fw : Firmware) (g : Globals) : writtenHandle fw g.records 10 =
    (logCall fw 10 16 (g.mPhyMemArrayInfoType16 ++ stringSet []) true).2.1 := rfl

/-- What a run leaves in the fields of the globals that carry the board serial, the external
strings, the handles of other records, and the memory size and map. -/
structure Globals.AfterRun (env : Env) (fw : Firmware) (g : Globals) : Prop where
  serial : g.mSysInfoSerial = hexDigits (boardSerial env.otpData) 16 ++ [0]
  uuidData4 : (g.mSysInfoType1.drop 16).take 8 = leBytes 8 (swapBytes64 (boardSerial env.otpData)).toNat
  productUrl : g.mOemInfoProductUrl = asciiStrCpyS (List.replicate 128 0) 128 env.pcdProductUrl
  chassisHandle : readField g.mBoardInfoType2 0x0B 2 =
    ((writtenHandle fw g.records 2).getD env.chassisHandle).toNat
  l1CacheHandle : readField g.mProcessorInfoType4 0x1A 2 =
    ((writtenHandle fw g.records 5).getD env.cacheHandle).toNat
  l2CacheHandle : readField g.mProcessorInfoType4 0x1C 2 =
    ((writtenHandle fw g.records 6).getD ((writtenHandle fw g.records 5).getD env.cacheHandle)).toNat
  memDevArrayHandle : readField g.mMemDevInfoType17 0x04 2 =
    ((writtenHandle fw g.records 10).getD env.memArrayHandle).toNat
  memArrMapArrayHandle : readField g.mMemArrMapInfoType19 0x0C 2 =
    ((writtenHandle fw g.records 10).getD env.memArrayHandle).toNat
  size : readField g.mMemDevInfoType17 0x0C 2 = env.sdramGetMemorySize.toNat / 2 ^ 20 % 2 ^ 16
  extendedSize : readField g.mMemDevInfoType17 0x1C 4 = 0
  volatileSize : readField g.mMemDevInfoType17 0x3C 8 =
    env.sdramGetMemorySize.toNat / 2 ^ 20 % 2 ^ 16 * 2 ^ 20
  maximumCapacity : readField g.mPhyMemArrayInfoType16 0x07 4 =
    env.sdramGetMemorySize.toNat / 2 ^ 20 % 2 ^ 16 * 1024
  extendedMaximumCapacity : readField g.mPhyMemArrayInfoType16 0x0F 8 = 0
  startingAddress : readField g.mMemArrMapInfoType19 4 4 = env.pcdSystemMemoryBase.toNat / 1024 % 2 ^ 32
  endingAddress : readField g.mMemArrMapInfoType19 8 4 =
    (UInt64.ofNat (env.pcdSystemMemoryBase.toNat / 1024 % 2 ^ 32) + env.sdramGetMemorySize / 1024 - 1).toNat
      % 2 ^ 32

theorem platformSmbiosDriverEntryPoint_eq (env : Env) (fw : Firmware) :
    ∃ g : Globals, platformSmbiosDriverEntryPoint env fw = .ok (.success, g, logCalls fw 0 g.records) ∧
      g.Shaped ∧ g.AfterRun env fw := by
  obtain ⟨g0, hg0, s0, e0⟩ := biosInfoUpdateSmbiosType0_eq env fw
    (Globals.shaped_initial env.pcds env.sdramGetMemorySize)
  obtain ⟨g1, hg1, s1, e1⟩ := sysInfoUpdateSmbiosType1_eq env fw s0
  obtain ⟨g3, hg3, s3, e3⟩ := enclosureInfoUpdateSmbiosType3_eq env fw s1
  obtain ⟨g7, hg7, s7, e7⟩ := cacheInfoUpdateSmbiosType7_eq env fw (s3 2)
  obtain ⟨g4, hg4, s4, e4⟩ := processorInfoUpdateSmbiosType4_eq env fw 4 (s7 4)
  obtain ⟨g11, hg11, s11, e11⟩ := oemStringsUpdateSmbiosType11_eq env fw s4
  obtain ⟨g16, hg16, s16, e16⟩ := phyMemArrayInfoUpdateSmbiosType16_eq env fw s11
  obtain ⟨g17, hg17, s17, e17⟩ := memDevInfoUpdateSmbiosType17_eq env fw (s16 10)
  obtain ⟨g19, hg19, s19, e19⟩ := memArrMapInfoUpdateSmbiosType19_eq env fw s17
  refine ⟨g19, ?_, s19, ?_⟩
  · simp only [platformSmbiosDriverEntryPoint, e0, ok_bind, e1, e3, callCount_append,
      callCount_nil, callCount_logCall, boardInfoUpdateSmbiosType2_eq fw (s3 2), e7, e4,
      sysSlotInfoUpdateSmbiosType9_eq, e11, e16, e17, e19, bootInfoUpdateSmbiosType32_eq,
      Globals.records, logCalls, List.append_assoc, List.nil_append, List.append_nil,
      Nat.reduceAdd, Nat.zero_add]
    simp only [hg19, hg17, hg16, hg11, hg4, hg7, hg3, hg1, Globals.biosInfoType0Strings,
      Globals.sysInfoType1Strings, Globals.enclosureInfoType3Strings, Globals.boardInfoType2Strings,
      Globals.processorInfoType4Strings, Globals.oemStringsType11Strings,
      Globals.memDevInfoType17Strings, Nat.reduceAdd]
    rfl
  · simp only [hg19, hg17, hg16, hg11, hg4, hg7, hg3, hg1, hg0, Nat.reduceAdd]
    constructor
    -- every field is read back through the stores made after it
    all_goals simp only [writtenHandle_two, writtenHandle_five, writtenHandle_six, writtenHandle_ten,
      Globals.enclosureInfoType3Strings, readField_writeField, readField_writeField_of_disjoint,
      take_drop_writeField, length_writeField_eq, length_initial_type1, length_initial_type2,
      length_initial_type4, length_initial_type16, length_initial_type17, length_initial_type19,
      or_true, true_or, Nat.min_def, Nat.reduceLeDiff, if_true, Nat.reduceAdd, Nat.reduceSub,
      Nat.reduceMul, Nat.reducePow]
    case productUrl | extendedSize | extendedMaximumCapacity => rfl
    case volatileSize =>
      rw [toNat_multU64x32, toNat_uint64_ofNat, show (1024 * 1024 : UInt32).toNat = 1048576 from rfl]
      omega
    case maximumCapacity => omega
    all_goals exact Nat.mod_eq_of_lt (toNat_lt_65536 _)

/-- For every platform and every behaviour of the firmware, the run returns `EFI_SUCCESS`
after the fourteen `LogSmbiosData` calls of the twelve builders in the source's order; `Add` is
handed each record at most once and in that order, every buffer allocated is freed, an
`ASSERT` fails exactly once after each `Add` the registry rejects, right after it, and nowhere
else (the `ASSERT`s of the CRCs, of the hex conversions and on the build date never fail), and
the table holds exactly the records the firmware accepted, under the handles it gave them. -/
theorem platformSmbiosDriverEntryPoint_calls (env : Env) (fw : Firmware) :
    ∃ g trace, platformSmbiosDriverEntryPoint env fw = .ok (.success, g, trace) ∧
      trace.filterMap Event.callType = [0, 1, 3, 2, 7, 7, 7, 4, 9, 11, 16, 17, 19, 32] ∧
      (trace.filterMap Event.addedRecord).Sublist (g.records.map fun c => c.2.1) ∧
      trace.filterMap Event.allocatedSize = trace.filterMap Event.freedSize ∧
      trace.count .assertFailure = trace.countP Event.isRejectedAdd ∧
      trace.head? ≠ some .assertFailure ∧
      trace.Chain' (fun e e' => e' = .assertFailure ↔ e.isRejectedAdd) ∧
      registered trace = g.records.enum.filterMap fun c =>
        if fw.accepts c.1 c.2.2.1 then some ((fw.add c.1 c.2.2.1).2, c.2.2.1) else none := by
  obtain ⟨g, hrun, -, -⟩ := platformSmbiosDriverEntryPoint_eq env fw
  obtain ⟨hhead, hchain⟩ := List.chain'_cons'.mp
    (chain'_cons_logCalls fw 0 g.records (e := .assertFailure) rfl)
  refine ⟨g, _, hrun, callTypes_logCalls fw 0 g.records, addedRecords_logCalls_sublist fw 0 g.records,
    allocated_logCalls fw 0 g.records, count_assertFailure_logCalls fw 0 g.records,
    fun h => ?_, hchain, registered_logCalls fw 0 g.records⟩
  simpa [Event.isRejectedAdd] using hhead _ h

/-! ## A sample platform -/

/-- A board with 2 GiB of DRAM at address 0, a zero OTP, the SCMI clock protocol missing, and
the product URL PCD left empty. -/
def sampleBoard : Env where
  pcds := ⟨0, 0⟩
  buildDate := ⟨2024, 6, 1, by decide, by decide, by decide⟩
  pcdFirmwareVendor := ⟨[69, 68, 75, 50], by decide⟩
  pcdFirmwareVersionString := ⟨[118, 49, 46, 48], by decide⟩
  pcdPlatformName := ⟨ascii "RK3568 board", by decide⟩
  pcdFamilyName := ⟨ascii "RK356x", by decide⟩
  pcdPlatformVendorName := ⟨ascii "Rockchip", by decide⟩
  pcdCpuName := ⟨ascii "Rockchip RK3568", by decide⟩
  pcdProductUrl := ⟨[], by decide⟩
  pcdMemoryVendorName := ⟨ascii "Unknown", by decide⟩
  pcdSystemMemoryBase := 0
  otpData := List.replicate 16 0
  otpData_length := rfl
  serialLo := ⟨0x7FFFFF00, by decide, by decide⟩
  serialHi := ⟨0x7FFFFF08, by decide, by decide⟩
  sdramGetMemorySize := 0x80000000
  armReadMidr := 0x412FD050
  cruGetCoreClockRate := 1800000000
  scmiLocateProtocol := .error 14
  scmiRateGet := none
  value := (0, 0)
  chassisHandle := 0
  cacheHandle := 0
  memArrayHandle := 0

/-- The firmware under which every call gets to `Add`, which rejects the records of the calls
`rejected` picks and registers the `n`-th record otherwise under handle `n + 1`. -/
def rejectingFirmware (rejected : Nat → Bool) : Firmware :=
  ⟨fun _ => .success, fun _ => true,
    fun n _ => if rejected n then (.outOfResources, 0xFFFE) else (.success, UInt16.ofNat (n + 1))⟩

/-- A registry that rejects the first record: the `ASSERT_EFI_ERROR` after that `Add` fails. -/
theorem platformSmbiosDriverEntryPoint_assertFailure :
    ∃ g trace, platformSmbiosDriverEntryPoint sampleBoard (rejectingFirmware (· == 0)) =
      .ok (.success, g, trace) ∧ Event.assertFailure ∈ trace := by
  obtain ⟨g, hrun, -, -⟩ := platformSmbiosDriverEntryPoint_eq sampleBoard (rejectingFirmware (· == 0))
  refine ⟨g, _, hrun, ?_⟩
  simp [Globals.records, logCalls, logCall_events, rejectingFirmware, EfiStatus.outOfResources]

end PlatformSmbios
