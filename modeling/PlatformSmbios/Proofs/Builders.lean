import Mathlib.Data.List.GetD
import PlatformSmbios.Driver.Builders
import PlatformSmbios.Proofs.Crc32
import PlatformSmbios.Proofs.HexString
import PlatformSmbios.Proofs.LogSmbiosData

/-!
# What each topic builder does

Every builder stores some fields and strings into the globals and then calls
`LogSmbiosData`, once or three times.  `..._eq` states a builder's effect in closed form: the
globals afterwards, and the events of its calls as `logCall` gives them, for the record made
of the template and the string-set of its pack.  The globals keep their shape all along
(`Globals.Shaped`): every template the driver writes to keeps its type, its size and a
`Length` byte that says so, and the hex-string buffers keep their 17 bytes.  That is what
makes every `LogSmbiosData` and `I64ToHexString` call of the run go through without a
`Fault`.
-/

namespace PlatformSmbios

/-! ## Templates that keep their shape -/

/-- A structure of `n` bytes with type `type`, whose `Length` byte says `n`, and which holds
at least the four-byte header. -/
structure IsTemplate (bytes : List UInt8) (type : UInt8) (n : Nat) : Prop where
  length_eq : bytes.length = n
  type_eq : bytes.getD 0 0 = type
  header_eq : (bytes.getD 1 0).toNat = n
  header_le : 4 ≤ n

/-- A store to a field after the `Type` and `Length` bytes keeps a template's shape. -/
theorem IsTemplate.writeField {bytes : List UInt8} {type : UInt8} {n : Nat}
    (h : IsTemplate bytes type n) (off width value : Nat) (hoff : 2 ≤ off) (hfield : off + width ≤ n) :
    IsTemplate (PlatformSmbios.writeField bytes off width value) type n where
  length_eq := by rw [length_writeField (h.length_eq ▸ hfield), h.length_eq]
  type_eq := by rw [getD_writeField_of_lt (by omega) (by rw [h.length_eq]; omega), h.type_eq]
  header_eq := by rw [getD_writeField_of_lt (by omega) (by rw [h.length_eq]; omega), h.header_eq]
  header_le := h.header_le

/-- The end of the version scan stores at most the two release bytes. -/
theorem IsTemplate.setBiosRelease {bytes : List UInt8} (h : IsTemplate bytes 0 0x1A)
    (st : ScanState) : IsTemplate (PlatformSmbios.setBiosRelease st bytes) 0 0x1A := by
  unfold PlatformSmbios.setBiosRelease
  split
  · exact (h.writeField 0x14 1 _ (by omega) (by omega)).writeField 0x15 1 _ (by omega) (by omega)
  · exact h

/-- A record that starts with a template carries the template's type. -/
theorem IsTemplate.getD_zero_append {bytes : List UInt8} {type : UInt8} {n : Nat}
    (h : IsTemplate bytes type n) (rest : List UInt8) : (bytes ++ rest).getD 0 0 = type := by
  rw [List.getD_append _ _ _ _ (by have := h.header_le; rw [h.length_eq]; omega), h.type_eq]

/-- The template a shaped structure is. -/
def IsTemplate.toSmbiosTemplate {bytes : List UInt8} {type : UInt8} {n : Nat}
    (h : IsTemplate bytes type n) : SmbiosTemplate :=
  ⟨bytes, h.header_eq ▸ h.header_le, by rw [h.header_eq, h.length_eq]⟩

/-- `LogSmbiosData` of a shaped template: the record is the whole template followed by the
string-set. -/
theorem logSmbiosData_of_isTemplate (fw : Firmware) {bytes : List UInt8} {type : UInt8} {n : Nat}
    (h : IsTemplate bytes type n) (pack : List (CStr UInt8)) (dataSmbiosHandle : Bool)
    (trace : List Event) :
    logSmbiosData fw bytes (some pack) dataSmbiosHandle trace =
      let call := logCall fw (callCount trace) type (bytes ++ stringSet pack) dataSmbiosHandle
      .ok (call.1, call.2.1, trace ++ call.2.2) := by
  have hformatted : h.toSmbiosTemplate.formatted = bytes := by
    show bytes.take (bytes.getD 1 0).toNat = bytes
    rw [h.header_eq, ← h.length_eq, List.take_length]
  have := logSmbiosData_eq fw h.toSmbiosTemplate pack dataSmbiosHandle trace
  rw [hformatted] at this
  simp only [IsTemplate.toSmbiosTemplate, h.type_eq] at this
  exact this

/-! ## The shape of the globals -/

/-- The globals keep the shape they load with. -/
structure Globals.Shaped (g : Globals) : Prop where
  type0 : IsTemplate g.mBIOSInfoType0 0 0x1A
  type1 : IsTemplate g.mSysInfoType1 1 0x1B
  type2 : IsTemplate g.mBoardInfoType2 2 0x11
  type4 : IsTemplate g.mProcessorInfoType4 4 0x30
  type16 : IsTemplate g.mPhyMemArrayInfoType16 16 0x17
  type17 : IsTemplate g.mMemDevInfoType17 17 0x5C
  type19 : IsTemplate g.mMemArrMapInfoType19 19 0x1F
  serial : g.mSysInfoSerial.length = 17
  sku : g.mSysInfoSKU.length = 17

theorem isTemplate_layout {fields : List (Nat × Nat)} {type : UInt8} {n : Nat}
    (h : (layout fields).length = n ∧ (layout fields).getD 0 0 = type ∧
      ((layout fields).getD 1 0).toNat = n ∧ 4 ≤ n) : IsTemplate (layout fields) type n :=
  ⟨h.1, h.2.1, h.2.2.1, h.2.2.2⟩

theorem Globals.shaped_initial (pcds : FixedPcds) (memorySize : UInt64) :
    { Globals.initial pcds with mMemorySize := memorySize }.Shaped where
  type0 := ⟨by simp [Globals.initial, biosInfoType0, layout], rfl, rfl, by decide⟩
  type1 := isTemplate_layout (by decide)
  type2 := isTemplate_layout (by decide)
  type4 := isTemplate_layout (by decide)
  type16 := isTemplate_layout (by decide)
  type17 := isTemplate_layout (by decide)
  type19 := isTemplate_layout (by decide)
  serial := rfl
  sku := rfl

theorem isTemplate_mEnclosureInfoType3 : IsTemplate mEnclosureInfoType3 3 0x18 :=
  isTemplate_layout (by decide)

theorem isTemplate_mCacheInfoType7_L1I : IsTemplate mCacheInfoType7_L1I 7 0x1B :=
  isTemplate_layout (by decide)

theorem isTemplate_mCacheInfoType7_L1D : IsTemplate mCacheInfoType7_L1D 7 0x1B :=
  isTemplate_layout (by decide)

theorem isTemplate_mCacheInfoType7_L2 : IsTemplate mCacheInfoType7_L2 7 0x1B :=
  isTemplate_layout (by decide)

theorem isTemplate_mSysSlotInfoType9 : IsTemplate mSysSlotInfoType9 9 0x18 :=
  isTemplate_layout (by decide)

theorem isTemplate_mOemStringsType11 : IsTemplate mOemStringsType11 11 5 :=
  isTemplate_layout (by decide)

theorem isTemplate_mBootInfoType32 : IsTemplate mBootInfoType32 32 0x0B :=
  isTemplate_layout (by decide)

@[simp] theorem assertE_true (trace : List Event) : assertE true trace = trace := rfl

/-! ## The builders one by one

Each lemma names the globals `g'` a builder leaves, says that they keep the shape, and gives,
for every trace, the builder's result: `g'` and the events of its calls, whose records read
`g'`.  A builder that stores a handle `LogSmbiosData` wrote leaves globals that depend on the
index `n` of its first call, and they keep the shape for every `n`. -/

section Builders

variable (env : Env) (fw : Firmware) {g : Globals}

/-- `BIOSInfoUpdateSmbiosType0`: its three `ASSERT`s on the build date hold, and it logs the
template with the scanned release and the staged vendor, version and date. -/
theorem biosInfoUpdateSmbiosType0_eq (hg : g.Shaped) :
    let mBiosVersion := unicodeStrToAsciiStrS env.pcdFirmwareVersionString g.mBiosVersion 128
    ∃ g', g' = { g with
        mBIOSInfoType0 := setBiosRelease (scanVersion mBiosVersion env.value)
          (writeField (writeField g.mBIOSInfoType0 0x16 1 0) 0x17 1 0)
        mBiosVendor := unicodeStrToAsciiStrS env.pcdFirmwareVendor g.mBiosVendor 128
        mBiosVersion
        mBiosDate := asciiSPrint g.mBiosDate 12
          (dateText env.buildDate.month env.buildDate.day env.buildDate.year) } ∧
      g'.Shaped ∧ ∀ trace, biosInfoUpdateSmbiosType0 env fw g trace =
        .ok (g', trace ++ (logCall fw (callCount trace) 0
          (g'.mBIOSInfoType0 ++ stringSet g'.biosInfoType0Strings) false).2.2) := by
  have h0 : IsTemplate (setBiosRelease (scanVersion (unicodeStrToAsciiStrS
      env.pcdFirmwareVersionString g.mBiosVersion 128) env.value)
      (writeField (writeField g.mBIOSInfoType0 0x16 1 0) 0x17 1 0)) 0 0x1A :=
    ((hg.type0.writeField 0x16 1 0 (by omega) (by omega)).writeField 0x17 1 0 (by omega)
      (by omega)).setBiosRelease _
  refine ⟨_, rfl, { hg with type0 := h0 }, fun trace => ?_⟩
  simp only [biosInfoUpdateSmbiosType0, decide_eq_true env.buildDate.year_le,
    decide_eq_true env.buildDate.month_mem, decide_eq_true env.buildDate.day_mem, assertE_true]
  rw [logSmbiosData_of_isTemplate fw h0]
  rfl

/-- `SysInfoUpdateSmbiosType1`: the `ASSERT`s of its two CRCs and of its two hex conversions
hold, the serial and SKU strings are the sixteen hex digits of the board serial and of
`BoardRevision = 0`, and `Uuid.Data4` holds the byte-swapped serial. -/
theorem sysInfoUpdateSmbiosType1_eq (hg : g.Shaped) :
    let serial := boardSerial env.otpData
    ∃ g', g' = { g with
        mSysInfoType1 := writeField (writeField (writeField (writeField g.mSysInfoType1 8 4 0)
          12 2 0) 14 2 0) 16 8 (swapBytes64 serial).toNat
        mSysInfoProductName := asciiStrCpyS g.mSysInfoProductName 128 env.pcdPlatformName
        mSysInfoFamilyName := asciiStrCpyS g.mSysInfoFamilyName 128 env.pcdFamilyName
        mSysInfoManufName := asciiStrCpyS g.mSysInfoManufName 128 env.pcdPlatformVendorName
        mSysInfoVersionName := asciiSPrint g.mSysInfoVersionName 128 (hexField 0)
        mSysInfoSKU := hexDigits 0 16 ++ [0]
        mSysInfoSerial := hexDigits serial 16 ++ [0] } ∧
      g'.Shaped ∧ ∀ trace, sysInfoUpdateSmbiosType1 env fw g trace =
        .ok (g', trace ++ (logCall fw (callCount trace) 1
          (g'.mSysInfoType1 ++ stringSet g'.sysInfoType1Strings) false).2.2) := by
  have h3 := ((hg.type1.writeField 8 4 0 (by omega) (by omega)).writeField 12 2 0 (by omega)
    (by omega)).writeField 14 2 0 (by omega) (by omega)
  have h1 := h3.writeField 16 8 (swapBytes64 (boardSerial env.otpData)).toNat (by omega) (by omega)
  refine ⟨_, rfl, { hg with type1 := h1, serial := by simp [hexDigits], sku := by simp [hexDigits] },
    fun trace => ?_⟩
  simp only [sysInfoUpdateSmbiosType1, show UInt32.toNat 0 = 0 from rfl,
    calculateCrc32NoCompAsserts_eq env.serialLo (show (8 : UInt64).toNat = 8 from rfl),
    calculateCrc32NoCompAsserts_eq env.serialHi (show (8 : UInt64).toNat = 8 from rfl),
    i64ToHexString_seventeen hg.sku, i64ToHexString_seventeen hg.serial, ok_bind,
    copyMem_leBytes (show 16 + 8 ≤ _ by rw [h3.length_eq]; omega)]
  rw [logSmbiosData_of_isTemplate fw h1]
  rfl

/-- `BoardInfoUpdateSmbiosType2` only logs. -/
theorem boardInfoUpdateSmbiosType2_eq (hg : g.Shaped) (trace : List Event) :
    boardInfoUpdateSmbiosType2 fw g trace =
      .ok (g, trace ++ (logCall fw (callCount trace) 2
        (g.mBoardInfoType2 ++ stringSet g.boardInfoType2Strings) false).2.2) := by
  rw [boardInfoUpdateSmbiosType2, logSmbiosData_of_isTemplate fw hg.type2]
  rfl

/-- `EnclosureInfoUpdateSmbiosType3`: the asset tag becomes a blank, and the Type 2
`ChassisHandle` receives what the call stored in `SmbiosHandle`, or the local's own value. -/
theorem enclosureInfoUpdateSmbiosType3_eq (hg : g.Shaped) :
    let g₁ := { g with
      mChassisAssetTag := unicodeStrToAsciiStrS ⟨[32], by decide⟩ g.mChassisAssetTag 128 }
    ∃ g' : Nat → Globals, (∀ n, g' n = { g₁ with
        mBoardInfoType2 := writeField g₁.mBoardInfoType2 0x0B 2
          (((logCall fw n 3 (mEnclosureInfoType3 ++ stringSet g₁.enclosureInfoType3Strings)
            true).2.1.getD env.chassisHandle).toNat) }) ∧
      (∀ n, (g' n).Shaped) ∧ ∀ trace, enclosureInfoUpdateSmbiosType3 env fw g trace =
        .ok (g' (callCount trace), trace ++ (logCall fw (callCount trace) 3
          (mEnclosureInfoType3 ++ stringSet (g' (callCount trace)).enclosureInfoType3Strings)
            true).2.2) := by
  refine ⟨_, fun n => rfl,
    fun n => { hg with type2 := hg.type2.writeField 0x0B 2 _ (by omega) (by omega) },
    fun trace => ?_⟩
  rw [enclosureInfoUpdateSmbiosType3, logSmbiosData_of_isTemplate fw isTemplate_mEnclosureInfoType3]
  rfl

/-- `ProcessorInfoUpdateSmbiosType4 (MaxCpus)`: the core and thread counts, the speeds from
`ProcessorGetRate`, the CPU name and `ProcessorId`. -/
theorem processorInfoUpdateSmbiosType4_eq (maxCpus : Nat) (hg : g.Shaped) :
    let cpus := maxCpus % 256
    let speed := (processorGetRate env).toNat / 1000000
    ∃ g', g' = { g with
        mProcessorInfoType4 := writeField (writeField (writeField (writeField (writeField
          (writeField (writeField (writeField (writeField g.mProcessorInfoType4 0x23 1 cpus)
          0x2A 2 cpus) 0x24 1 cpus) 0x2C 2 cpus) 0x25 1 cpus) 0x2E 2 cpus) 0x14 2 speed)
          0x16 2 speed) 8 8 env.armReadMidr.toNat
        mCpuName := asciiStrCpyS g.mCpuName 128 env.pcdCpuName } ∧
      g'.Shaped ∧ ∀ trace, processorInfoUpdateSmbiosType4 env fw maxCpus g trace =
        .ok (g', trace ++ (logCall fw (callCount trace) 4
          (g'.mProcessorInfoType4 ++ stringSet g'.processorInfoType4Strings) false).2.2) := by
  have h4 : IsTemplate (writeField (writeField (writeField (writeField (writeField
      (writeField (writeField (writeField (writeField g.mProcessorInfoType4 0x23 1 (maxCpus % 256))
      0x2A 2 (maxCpus % 256)) 0x24 1 (maxCpus % 256)) 0x2C 2 (maxCpus % 256)) 0x25 1
      (maxCpus % 256)) 0x2E 2 (maxCpus % 256)) 0x14 2 ((processorGetRate env).toNat / 1000000))
      0x16 2 ((processorGetRate env).toNat / 1000000)) 8 8 env.armReadMidr.toNat) 4 0x30 := by
    iterate 9 refine IsTemplate.writeField ?_ _ _ _ (by omega) (by omega)
    exact hg.type4
  refine ⟨_, rfl, { hg with type4 := h4 }, fun trace => ?_⟩
  rw [processorInfoUpdateSmbiosType4, logSmbiosData_of_isTemplate fw h4]
  rfl

/-- `CacheInfoUpdateSmbiosType7`: three calls, and the Type 4 `L1CacheHandle` and
`L2CacheHandle` receive what the one local `SmbiosHandle` holds after the second and after the
third. -/
theorem cacheInfoUpdateSmbiosType7_eq (hg : g.Shaped) :
    let l1d (n : Nat) := logCall fw (n + 1) 7
      (mCacheInfoType7_L1D ++ stringSet mCacheInfoType7Strings_L1D) true
    let l2 (n : Nat) := logCall fw (n + 2) 7
      (mCacheInfoType7_L2 ++ stringSet mCacheInfoType7Strings_L2) true
    ∃ g' : Nat → Globals, (∀ n, g' n = { g with
        mProcessorInfoType4 := writeField (writeField g.mProcessorInfoType4 0x1A 2
          ((l1d n).2.1.getD env.cacheHandle).toNat) 0x1C 2
          (((l2 n).2.1.getD ((l1d n).2.1.getD env.cacheHandle))).toNat }) ∧
      (∀ n, (g' n).Shaped) ∧ ∀ trace, cacheInfoUpdateSmbiosType7 env fw g trace =
        .ok (g' (callCount trace), trace ++ (logCall fw (callCount trace) 7
          (mCacheInfoType7_L1I ++ stringSet mCacheInfoType7Strings_L1I) false).2.2 ++
          (l1d (callCount trace)).2.2 ++ (l2 (callCount trace)).2.2) := by
  refine ⟨_, fun n => rfl, fun n => { hg with
    type4 := (hg.type4.writeField 0x1A 2 _ (by omega) (by omega)).writeField 0x1C 2 _ (by omega)
      (by omega) }, fun trace => ?_⟩
  simp only [cacheInfoUpdateSmbiosType7,
    logSmbiosData_of_isTemplate fw isTemplate_mCacheInfoType7_L1I,
    logSmbiosData_of_isTemplate fw isTemplate_mCacheInfoType7_L1D,
    logSmbiosData_of_isTemplate fw isTemplate_mCacheInfoType7_L2, ok_bind,
    callCount_append_logCall, Nat.add_assoc, List.append_assoc]
  rfl

/-- `SysSlotInfoUpdateSmbiosType9` only logs. -/
theorem sysSlotInfoUpdateSmbiosType9_eq (g : Globals) (trace : List Event) :
    sysSlotInfoUpdateSmbiosType9 fw g trace =
      .ok (g, trace ++ (logCall fw (callCount trace) 9
        (mSysSlotInfoType9 ++ stringSet mSysSlotInfoType9Strings) false).2.2) := by
  rw [sysSlotInfoUpdateSmbiosType9, logSmbiosData_of_isTemplate fw isTemplate_mSysSlotInfoType9]
  rfl

/-- `OemStringsUpdateSmbiosType11`: the product URL is copied into its buffer, and the
template logged. -/
theorem oemStringsUpdateSmbiosType11_eq (hg : g.Shaped) :
    ∃ g', g' = { g with
        mOemInfoProductUrl := asciiStrCpyS g.mOemInfoProductUrl 128 env.pcdProductUrl } ∧
      g'.Shaped ∧ ∀ trace, oemStringsUpdateSmbiosType11 env fw g trace =
        .ok (g', trace ++ (logCall fw (callCount trace) 11
          (mOemStringsType11 ++ stringSet g'.oemStringsType11Strings) false).2.2) := by
  refine ⟨_, rfl, { hg with }, fun trace => ?_⟩
  rw [oemStringsUpdateSmbiosType11, logSmbiosData_of_isTemplate fw isTemplate_mOemStringsType11]
  rfl

/-- `PhyMemArrayInfoUpdateSmbiosType16`: the three size fields, then the handle the call
stored in `MemArraySmbiosHandle`, or the local's own value, into Type 17 and Type 19. -/
theorem phyMemArrayInfoUpdateSmbiosType16_eq (hg : g.Shaped) :
    let type17 := writeField g.mMemDevInfoType17 0x0C 2 (g.mMemorySize.toNat / (1024 * 1024))
    let size := readField type17 0x0C 2
    let type16 := writeField g.mPhyMemArrayInfoType16 0x07 4 (size * 1024)
    let handle (n : Nat) :=
      ((logCall fw n 16 (type16 ++ stringSet []) true).2.1.getD env.memArrayHandle).toNat
    ∃ g' : Nat → Globals, (∀ n, g' n = { g with
        mPhyMemArrayInfoType16 := type16
        mMemDevInfoType17 := writeField (writeField type17 0x3C 8
          (multU64x32 (UInt64.ofNat size) (1024 * 1024)).toNat) 0x04 2 (handle n)
        mMemArrMapInfoType19 := writeField g.mMemArrMapInfoType19 0x0C 2 (handle n) }) ∧
      (∀ n, (g' n).Shaped) ∧ ∀ trace, phyMemArrayInfoUpdateSmbiosType16 env fw g trace =
        .ok (g' (callCount trace), trace ++ (logCall fw (callCount trace) 16
          ((g' (callCount trace)).mPhyMemArrayInfoType16 ++ stringSet []) true).2.2) := by
  have h16 := hg.type16.writeField 0x07 4
    (readField (writeField g.mMemDevInfoType17 0x0C 2 (g.mMemorySize.toNat / (1024 * 1024))) 0x0C 2
      * 1024) (by omega) (by omega)
  refine ⟨_, fun n => rfl, fun n => { hg with
    type16 := h16
    type17 := ((hg.type17.writeField 0x0C 2 _ (by omega) (by omega)).writeField 0x3C 8 _ (by omega)
      (by omega)).writeField 0x04 2 _ (by omega) (by omega)
    type19 := hg.type19.writeField 0x0C 2 _ (by omega) (by omega) }, fun trace => ?_⟩
  rw [phyMemArrayInfoUpdateSmbiosType16, logSmbiosData_of_isTemplate fw h16]
  rfl

/-- `MemDevInfoUpdateSmbiosType17`: the vendor name is copied into its buffer, and the
template logged. -/
theorem memDevInfoUpdateSmbiosType17_eq (hg : g.Shaped) :
    ∃ g', g' = { g with
        mMemDevInfoVendor := asciiStrCpyS g.mMemDevInfoVendor 128 env.pcdMemoryVendorName } ∧
      g'.Shaped ∧ ∀ trace, memDevInfoUpdateSmbiosType17 env fw g trace =
        .ok (g', trace ++ (logCall fw (callCount trace) 17
          (g'.mMemDevInfoType17 ++ stringSet g'.memDevInfoType17Strings) false).2.2) := by
  refine ⟨_, rfl, { hg with }, fun trace => ?_⟩
  rw [memDevInfoUpdateSmbiosType17, logSmbiosData_of_isTemplate fw hg.type17]
  rfl

/-- `MemArrMapInfoUpdateSmbiosType19`: the starting and ending addresses in KB. -/
theorem memArrMapInfoUpdateSmbiosType19_eq (hg : g.Shaped) :
    let type19 := writeField g.mMemArrMapInfoType19 4 4 (env.pcdSystemMemoryBase.toNat / 1024)
    ∃ g', g' = { g with
        mMemArrMapInfoType19 := writeField type19 8 4
          (UInt64.ofNat (readField type19 4 4) + g.mMemorySize / 1024 - 1).toNat } ∧
      g'.Shaped ∧ ∀ trace, memArrMapInfoUpdateSmbiosType19 env fw g trace =
        .ok (g', trace ++ (logCall fw (callCount trace) 19
          (g'.mMemArrMapInfoType19 ++ stringSet []) false).2.2) := by
  have h19 := (hg.type19.writeField 4 4 (env.pcdSystemMemoryBase.toNat / 1024) (by omega)
    (by omega)).writeField 8 4 (UInt64.ofNat (readField (writeField g.mMemArrMapInfoType19 4 4
      (env.pcdSystemMemoryBase.toNat / 1024)) 4 4) + g.mMemorySize / 1024 - 1).toNat (by omega)
      (by omega)
  refine ⟨_, rfl, { hg with type19 := h19 }, fun trace => ?_⟩
  rw [memArrMapInfoUpdateSmbiosType19, logSmbiosData_of_isTemplate fw h19]
  rfl

/-- `BootInfoUpdateSmbiosType32` only logs. -/
theorem bootInfoUpdateSmbiosType32_eq (g : Globals) (trace : List Event) :
    bootInfoUpdateSmbiosType32 fw g trace =
      .ok (g, trace ++ (logCall fw (callCount trace) 32
        (mBootInfoType32 ++ stringSet []) false).2.2) := by
  rw [bootInfoUpdateSmbiosType32, logSmbiosData_of_isTemplate fw isTemplate_mBootInfoType32]
  rfl

end Builders

end PlatformSmbios
