import PlatformSmbios.Driver.Crc32
import PlatformSmbios.Driver.HexString
import PlatformSmbios.Driver.LogSmbiosData
import PlatformSmbios.Driver.Tables
import PlatformSmbios.Driver.VersionScan

/-!
# The topic builders and `PlatformSmbiosDriverEntryPoint`

Each `...UpdateSmbiosTypeN` function is a function of the platform (`Env`), the firmware
(`Firmware`), the globals and the trace so far, returning the globals and the trace after it,
or the `Fault` of a bad memory access.  The entry point runs them in the source's order.

The values a builder reads from an uninitialised local (`Value[2]` of the version scan, the
`SmbiosHandle` locals that `LogSmbiosData` may not write) are fields of `Env` too: the
model fixes nothing about them.
-/

namespace PlatformSmbios

/-- `TIME_BUILD_YEAR`, `TIME_BUILD_MONTH` and `TIME_BUILD_DAY`, the date of the build, within
the ranges the driver `ASSERT`s. -/
structure BuildDate where
  year : Nat
  month : Nat
  day : Nat
  year_le : year ≤ 9999
  month_mem : 1 ≤ month ∧ month ≤ 12
  day_mem : 1 ≤ day ∧ day ≤ 31

/-- What a run of the driver reads from the platform: the PCDs, the build date, what the
platform libraries return, and what its uninitialised locals hold. -/
structure Env where
  pcds : FixedPcds
  buildDate : BuildDate
  pcdFirmwareVendor : CStr UInt16
  pcdFirmwareVersionString : CStr UInt16
  pcdPlatformName : CStr UInt8
  pcdFamilyName : CStr UInt8
  pcdPlatformVendorName : CStr UInt8
  pcdCpuName : CStr UInt8
  pcdProductUrl : CStr UInt8
  pcdMemoryVendorName : CStr UInt8
  pcdSystemMemoryBase : UInt64
  /-- `OtpData` after `OtpRead (0x07, sizeof (OtpData), OtpData)`. -/
  otpData : List UInt8
  otpData_length : otpData.length = 16
  /-- Where the locals `SerialLo` and `SerialHi` of `SysInfoUpdateSmbiosType1` lie. -/
  serialLo : ObjectAddress 8
  serialHi : ObjectAddress 8
  sdramGetMemorySize : UInt64
  armReadMidr : UInt64
  cruGetCoreClockRate : UInt64
  /-- `LocateProtocol` of the SCMI clock protocol. -/
  scmiLocateProtocol : EfiStatus
  /-- The rate `RateGet` stores, if it stores one. -/
  scmiRateGet : Option UInt64
  /-- `Value[2]` of `BIOSInfoUpdateSmbiosType0`. -/
  value : Nat × Nat
  /-- `SmbiosHandle` of `EnclosureInfoUpdateSmbiosType3`. -/
  chassisHandle : UInt16
  /-- `SmbiosHandle` of `CacheInfoUpdateSmbiosType7`. -/
  cacheHandle : UInt16
  /-- `MemArraySmbiosHandle` of `PhyMemArrayInfoUpdateSmbiosType16`. -/
  memArrayHandle : UInt16

/-! ## The topic builders -/

/-- `BIOSInfoUpdateSmbiosType0 ()`. -/
def biosInfoUpdateSmbiosType0 (env : Env) (fw : Firmware) (g : Globals) (trace : List Event) :
    Except Fault (Globals × List Event) := do
  let type0 := writeField (writeField g.mBIOSInfoType0 0x16 1 0) 0x17 1 0
  let mBiosVendor := unicodeStrToAsciiStrS env.pcdFirmwareVendor g.mBiosVendor 128
  let mBiosVersion := unicodeStrToAsciiStrS env.pcdFirmwareVersionString g.mBiosVersion 128
  let date := env.buildDate
  let trace := assertE (date.year ≤ 9999) trace
  let trace := assertE (1 ≤ date.month ∧ date.month ≤ 12) trace
  let trace := assertE (1 ≤ date.day ∧ date.day ≤ 31) trace
  let mBiosDate := asciiSPrint g.mBiosDate 12 (dateText date.month date.day date.year)
  let type0 := setBiosRelease (scanVersion mBiosVersion env.value) type0
  let g := { g with mBIOSInfoType0 := type0, mBiosVendor, mBiosVersion, mBiosDate }
  let (_, _, trace) ← logSmbiosData fw g.mBIOSInfoType0 (some g.biosInfoType0Strings) false trace
  return (g, trace)

/-- The board serial of `SysInfoUpdateSmbiosType1`: the CRC of the odd OTP bytes, and in the
high half the CRC of the even ones chained onto it. -/
def boardSerial (otpData : List UInt8) : UInt64 :=
  let serialLo := (List.range 8).map fun index => otpData.getD (index * 2 + 1) 0
  let serialHi := (List.range 8).map fun index => otpData.getD (index * 2) 0
  let boardSerial : UInt64 := (calculateCrc32NoComp 0 serialLo).toUInt64
  boardSerial ||| ((calculateCrc32NoComp boardSerial.toUInt32 serialHi).toUInt64 <<< 32)

/-- `SysInfoUpdateSmbiosType1 ()`; `BoardRevision` is 0. -/
def sysInfoUpdateSmbiosType1 (env : Env) (fw : Firmware) (g : Globals) (trace : List Event) :
    Except Fault (Globals × List Event) := do
  let boardRevision : UInt32 := 0
  let serial := boardSerial env.otpData
  -- `CalculateCrc32NoComp (0, SerialLo, sizeof SerialLo)`, then on `SerialHi`
  let trace := calculateCrc32NoCompAsserts env.serialLo.address 8 trace
  let trace := calculateCrc32NoCompAsserts env.serialHi.address 8 trace
  let mSysInfoProductName := asciiStrCpyS g.mSysInfoProductName 128 env.pcdPlatformName
  let mSysInfoFamilyName := asciiStrCpyS g.mSysInfoFamilyName 128 env.pcdFamilyName
  let mSysInfoManufName := asciiStrCpyS g.mSysInfoManufName 128 env.pcdPlatformVendorName
  let mSysInfoVersionName := asciiSPrint g.mSysInfoVersionName 128 (hexField boardRevision.toNat)
  let (mSysInfoSKU, trace) ← i64ToHexString g.mSysInfoSKU 17 boardRevision.toUInt64 trace
  let (mSysInfoSerial, trace) ← i64ToHexString g.mSysInfoSerial 17 serial trace
  let type1 := writeField g.mSysInfoType1 8 4 boardRevision.toNat  -- Uuid.Data1
  let type1 := writeField type1 12 2 0                              -- Uuid.Data2
  let type1 := writeField type1 14 2 0                              -- Uuid.Data3
  let type1 ← copyMem type1 16 (leBytes 8 (swapBytes64 serial).toNat)  -- Uuid.Data4
  let g := { g with
    mSysInfoType1 := type1
    mSysInfoProductName, mSysInfoFamilyName, mSysInfoManufName, mSysInfoVersionName
    mSysInfoSKU, mSysInfoSerial }
  let (_, _, trace) ← logSmbiosData fw g.mSysInfoType1 (some g.sysInfoType1Strings) false trace
  return (g, trace)

/-- `BoardInfoUpdateSmbiosType2 ()`. -/
def boardInfoUpdateSmbiosType2 (fw : Firmware) (g : Globals) (trace : List Event) :
    Except Fault (Globals × List Event) := do
  let (_, _, trace) ← logSmbiosData fw g.mBoardInfoType2 (some g.boardInfoType2Strings) false trace
  return (g, trace)

/-- `EnclosureInfoUpdateSmbiosType3 ()`: the asset tag defaults to a blank, and the handle
`LogSmbiosData` leaves in `SmbiosHandle` becomes the Type 2 `ChassisHandle`. -/
def enclosureInfoUpdateSmbiosType3 (env : Env) (fw : Firmware) (g : Globals) (trace : List Event) :
    Except Fault (Globals × List Event) := do
  let g := { g with mChassisAssetTag := unicodeStrToAsciiStrS ⟨[32], by decide⟩ g.mChassisAssetTag 128 }
  let (_, written, trace) ←
    logSmbiosData fw mEnclosureInfoType3 (some g.enclosureInfoType3Strings) true trace
  let smbiosHandle := written.getD env.chassisHandle
  return ({ g with mBoardInfoType2 := writeField g.mBoardInfoType2 0x0B 2 smbiosHandle.toNat }, trace)

/-- `ProcessorGetRate ()`: the CRU rate, unless the SCMI clock protocol is found and its
`RateGet` stores another. -/
def processorGetRate (env : Env) : UInt32 :=
  let rate := env.cruGetCoreClockRate
  if env.scmiLocateProtocol ≠ .success then rate.toUInt32 else (env.scmiRateGet.getD rate).toUInt32

/-- `ProcessorInfoUpdateSmbiosType4 (MaxCpus)`. -/
def processorInfoUpdateSmbiosType4 (env : Env) (fw : Firmware) (maxCpus : Nat) (g : Globals)
    (trace : List Event) : Except Fault (Globals × List Event) := do
  let cpus := maxCpus % 256
  let type4 := writeField g.mProcessorInfoType4 0x23 1 cpus   -- CoreCount
  let type4 := writeField type4 0x2A 2 cpus                   -- CoreCount2
  let type4 := writeField type4 0x24 1 cpus                   -- EnabledCoreCount
  let type4 := writeField type4 0x2C 2 cpus                   -- EnabledCoreCount2
  let type4 := writeField type4 0x25 1 cpus                   -- ThreadCount
  let type4 := writeField type4 0x2E 2 cpus                   -- ThreadCount2
  let rate := processorGetRate env
  let type4 := writeField type4 0x14 2 (rate.toNat / 1000000)  -- MaxSpeed
  let type4 := writeField type4 0x16 2 (rate.toNat / 1000000)  -- CurrentSpeed
  let mCpuName := asciiStrCpyS g.mCpuName 128 env.pcdCpuName
  let type4 := writeField type4 8 8 env.armReadMidr.toNat     -- ProcessorId
  let g := { g with mProcessorInfoType4 := type4, mCpuName }
  let (_, _, trace) ←
    logSmbiosData fw g.mProcessorInfoType4 (some g.processorInfoType4Strings) false trace
  return (g, trace)

/-- `CacheInfoUpdateSmbiosType7 ()`: the handles `LogSmbiosData` leaves in the one local
`SmbiosHandle` after the L1 data and the L2 records become the Type 4 `L1CacheHandle` and
`L2CacheHandle`. -/
def cacheInfoUpdateSmbiosType7 (env : Env) (fw : Firmware) (g : Globals) (trace : List Event) :
    Except Fault (Globals × List Event) := do
  let (_, _, trace) ←
    logSmbiosData fw mCacheInfoType7_L1I (some mCacheInfoType7Strings_L1I) false trace
  let (_, written, trace) ←
    logSmbiosData fw mCacheInfoType7_L1D (some mCacheInfoType7Strings_L1D) true trace
  let smbiosHandle := written.getD env.cacheHandle
  let type4 := writeField g.mProcessorInfoType4 0x1A 2 smbiosHandle.toNat
  let (_, written, trace) ←
    logSmbiosData fw mCacheInfoType7_L2 (some mCacheInfoType7Strings_L2) true trace
  let smbiosHandle := written.getD smbiosHandle
  let type4 := writeField type4 0x1C 2 smbiosHandle.toNat
  return ({ g with mProcessorInfoType4 := type4 }, trace)

/-- `SysSlotInfoUpdateSmbiosType9 ()`. -/
def sysSlotInfoUpdateSmbiosType9 (fw : Firmware) (g : Globals) (trace : List Event) :
    Except Fault (Globals × List Event) := do
  let (_, _, trace) ← logSmbiosData fw mSysSlotInfoType9 (some mSysSlotInfoType9Strings) false trace
  return (g, trace)

/-- `OemStringsUpdateSmbiosType11 ()`. -/
def oemStringsUpdateSmbiosType11 (env : Env) (fw : Firmware) (g : Globals) (trace : List Event) :
    Except Fault (Globals × List Event) := do
  let g := { g with
    mOemInfoProductUrl := asciiStrCpyS g.mOemInfoProductUrl 128 env.pcdProductUrl }
  let (_, _, trace) ← logSmbiosData fw mOemStringsType11 (some g.oemStringsType11Strings) false trace
  return (g, trace)

/-- `PhyMemArrayInfoUpdateSmbiosType16 ()`: the memory size goes into the Type 17 `Size` (in
MB, a `UINT16`), the Type 16 `MaximumCapacity` (in KB, from that `Size`) and the Type 17
`VolatileSize` (in bytes, from that `Size`); the handle `LogSmbiosData` leaves in
`MemArraySmbiosHandle` becomes the `MemoryArrayHandle` of Type 17 and Type 19. -/
def phyMemArrayInfoUpdateSmbiosType16 (env : Env) (fw : Firmware) (g : Globals)
    (trace : List Event) : Except Fault (Globals × List Event) := do
  let type17 := writeField g.mMemDevInfoType17 0x0C 2 (g.mMemorySize.toNat / (1024 * 1024))
  let size := readField type17 0x0C 2
  let type16 := writeField g.mPhyMemArrayInfoType16 0x07 4 (size * 1024)
  let type17 := writeField type17 0x3C 8 (multU64x32 (UInt64.ofNat size) (1024 * 1024)).toNat
  let (_, written, trace) ← logSmbiosData fw type16 (some []) true trace
  let memArraySmbiosHandle := written.getD env.memArrayHandle
  return ({ g with
    mPhyMemArrayInfoType16 := type16
    mMemDevInfoType17 := writeField type17 0x04 2 memArraySmbiosHandle.toNat
    mMemArrMapInfoType19 := writeField g.mMemArrMapInfoType19 0x0C 2 memArraySmbiosHandle.toNat },
    trace)

/-- `MemDevInfoUpdateSmbiosType17 ()`. -/
def memDevInfoUpdateSmbiosType17 (env : Env) (fw : Firmware) (g : Globals) (trace : List Event) :
    Except Fault (Globals × List Event) := do
  let g := { g with
    mMemDevInfoVendor := asciiStrCpyS g.mMemDevInfoVendor 128 env.pcdMemoryVendorName }
  let (_, _, trace) ←
    logSmbiosData fw g.mMemDevInfoType17 (some g.memDevInfoType17Strings) false trace
  return (g, trace)

/-- `MemArrMapInfoUpdateSmbiosType19 ()`: the addresses in KB; `EndingAddress` is computed in
`UINT64` and stored in a `UINT32`. -/
def memArrMapInfoUpdateSmbiosType19 (env : Env) (fw : Firmware) (g : Globals)
    (trace : List Event) : Except Fault (Globals × List Event) := do
  let type19 := writeField g.mMemArrMapInfoType19 4 4 (env.pcdSystemMemoryBase.toNat / 1024)
  let startingAddress := UInt64.ofNat (readField type19 4 4)
  let type19 := writeField type19 8 4 (startingAddress + g.mMemorySize / 1024 - 1).toNat
  let g := { g with mMemArrMapInfoType19 := type19 }
  let (_, _, trace) ← logSmbiosData fw g.mMemArrMapInfoType19 (some []) false trace
  return (g, trace)

/-- `BootInfoUpdateSmbiosType32 ()`. -/
def bootInfoUpdateSmbiosType32 (fw : Firmware) (g : Globals) (trace : List Event) :
    Except Fault (Globals × List Event) := do
  let (_, _, trace) ← logSmbiosData fw mBootInfoType32 (some []) false trace
  return (g, trace)

/-! ## The entry point -/

/-- `PlatformSmbiosDriverEntryPoint (ImageHandle, SystemTable)`: the status it returns, the
globals and the trace. -/
def platformSmbiosDriverEntryPoint (env : Env) (fw : Firmware) :
    Except Fault (EfiStatus × Globals × List Event) := do
  let g := { Globals.initial env.pcds with mMemorySize := env.sdramGetMemorySize }
  let (g, trace) ← biosInfoUpdateSmbiosType0 env fw g []
  let (g, trace) ← sysInfoUpdateSmbiosType1 env fw g trace
  let (g, trace) ← enclosureInfoUpdateSmbiosType3 env fw g trace
  let (g, trace) ← boardInfoUpdateSmbiosType2 fw g trace
  let (g, trace) ← cacheInfoUpdateSmbiosType7 env fw g trace
  let (g, trace) ← processorInfoUpdateSmbiosType4 env fw 4 g trace
  let (g, trace) ← sysSlotInfoUpdateSmbiosType9 fw g trace
  let (g, trace) ← oemStringsUpdateSmbiosType11 env fw g trace
  let (g, trace) ← phyMemArrayInfoUpdateSmbiosType16 env fw g trace
  let (g, trace) ← memDevInfoUpdateSmbiosType17 env fw g trace
  let (g, trace) ← memArrMapInfoUpdateSmbiosType19 env fw g trace
  let (g, trace) ← bootInfoUpdateSmbiosType32 fw g trace
  return (.success, g, trace)

end PlatformSmbios
