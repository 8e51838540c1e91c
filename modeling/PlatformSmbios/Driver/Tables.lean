import PlatformSmbios.Driver.BaseLib

/-!
# The static tables of the driver

Each `SMBIOS_TABLE_TYPEn` template is its byte image, built from its initializer field by
field in declaration order (`layout`), every field little-endian at the width of its type in
the packed structure.  The enumeration constants (`CentralProcessor`, `CacheTypeData`, ...)
are the values of `IndustryStandard/SmBios.h`, written as numbers with the constant's name
beside them.  Templates that the driver never writes to are plain definitions; the ones it
updates, and the character buffers it stages strings in, are fields of `Globals`.
-/

namespace PlatformSmbios

/-- A structure's bytes from its fields in declaration order, each `(width, value)`. -/
def layout (fields : List (Nat × Nat)) : List UInt8 := fields.flatMap fun f => leBytes f.1 f.2

/-- A zero-initialised `CHAR8 buffer[size]` holding `s`. -/
def asciiBuffer (s : String) (size : Nat) : List UInt8 :=
  ascii s ++ List.replicate (size - (ascii s).length) 0

/-- The fixed PCDs the Type 0 template is initialised from. -/
structure FixedPcds where
  pcdFdBaseAddress : UInt32
  pcdFdSize : UInt32

/-! ## Templates -/

/-- `mBIOSInfoType0`. -/
def biosInfoType0 (pcds : FixedPcds) : List UInt8 :=
  layout [(1, 0), (1, 0x1A), (2, 0),        -- Type, Length, Handle
    (1, 1), (1, 2),                          -- Vendor, BiosVersion
    (2, pcds.pcdFdBaseAddress.toNat / 0x10000), (1, 3),  -- BiosSegment, BiosReleaseDate
    (1, pcds.pcdFdSize.toNat / 0x10000),     -- BiosSize
    (8, 0x10800),                            -- BiosIsUpgradable, SelectableBootIsSupported
    (1, 0x01), (1, 0x0C),                    -- BIOSCharacteristicsExtensionBytes
    (1, 0), (1, 0), (1, 0), (1, 0),          -- SystemBios and EmbeddedController releases
    (2, pcds.pcdFdSize.toNat / 0x100000 % 0x4000)]  -- ExtendedBiosSize.Size : 14

/-- `mSysInfoType1`. -/
def sysInfoType1 : List UInt8 :=
  layout [(1, 1), (1, 0x1B), (2, 0), (1, 1), (1, 2), (1, 3), (1, 4),
    (4, 0x25EF0280), (2, 0xEC82), (2, 0x42B0),  -- Uuid.Data1, Data2, Data3
    (1, 0x8F), (1, 0xB6), (1, 0x10), (1, 0xAD), (1, 0xCC), (1, 0xC6), (1, 0x7C), (1, 0x02),
    (1, 6),                                     -- SystemWakeupTypePowerSwitch
    (1, 5), (1, 6)]                             -- SKUNumber, Family

/-- `mBoardInfoType2`. -/
def boardInfoType2 : List UInt8 :=
  layout [(1, 2), (1, 0x11), (2, 0), (1, 1), (1, 2), (1, 3), (1, 4), (1, 5),
    (1, 0x01),          -- FeatureFlag: Motherboard
    (1, 6), (2, 0),     -- LocationInChassis, ChassisHandle
    (1, 0x0A),          -- BaseBoardTypeMotherBoard
    (1, 0), (2, 0)]     -- NumberOfContainedObjectHandles, ContainedObjectHandles[1]

/-- `mEnclosureInfoType3`, which the driver never writes to. -/
def mEnclosureInfoType3 : List UInt8 :=
  layout [(1, 3), (1, 0x18), (2, 0), (1, 1),
    (1, 0x22),                      -- MiscChassisEmbeddedPc
    (1, 2), (1, 3), (1, 4),
    (1, 3), (1, 3), (1, 3),         -- ChassisStateSafe (bootup, power supply, thermal)
    (1, 3),                         -- ChassisSecurityStatusNone
    (4, 0), (1, 0), (1, 1), (1, 0), (1, 0),  -- OemDefined, Height, power cords, elements
    (3, 0)]                         -- ContainedElements[1]

/-- `mProcessorInfoType4`. -/
def processorInfoType4 : List UInt8 :=
  layout [(1, 4), (1, 0x30), (2, 0), (1, 1),
    (1, 3),                         -- CentralProcessor
    (1, 0xFE),                      -- ProcessorFamilyIndicatorFamily2
    (1, 2), (8, 0), (1, 3),         -- ProcessorManufacturer, ProcessorId, ProcessorVersion
    (1, 0x07),                      -- Voltage: 5V, 3.3V, 2.9V
    (2, 0), (2, 0), (2, 0),         -- ExternalClock, MaxSpeed, CurrentSpeed
    (1, 0x41), (1, 6),              -- Status, ProcessorUpgradeNone
    (2, 0xFFFF), (2, 0xFFFF), (2, 0xFFFF),  -- L1, L2, L3 cache handles
    (1, 0), (1, 0), (1, 0),         -- SerialNumber, AssetTag, PartNumber
    (1, 4), (1, 4), (1, 4),         -- CoreCount, EnabledCoreCount, ThreadCount
    (2, 0x6C), (2, 0x118),          -- ProcessorCharacteristics, ProcessorFamilyARM
    (2, 0), (2, 0), (2, 0)]         -- CoreCount2, EnabledCoreCount2, ThreadCount2

/-- A `SMBIOS_TABLE_TYPE7` template: `CacheConfiguration`, the sizes in KB, and the error
correction, system cache type and associativity enumerations. -/
def cacheInfoType7 (configuration size errorCorrection cacheType associativity : Nat) :
    List UInt8 :=
  layout [(1, 7), (1, 0x1B), (2, 0), (1, 1), (2, configuration), (2, size), (2, size),
    (2, 0x28), (2, 0x28),           -- SRAM types: Burst, Synchronous
    (1, 0), (1, errorCorrection), (1, cacheType), (1, associativity),
    (4, 0), (4, 0)]                 -- MaximumCacheSize2, InstalledSize2

/-- `mCacheInfoType7_L1I`: parity, instruction, 2-way. -/
def mCacheInfoType7_L1I : List UInt8 := cacheInfoType7 0x380 0x20 4 3 4

/-- `mCacheInfoType7_L1D`: single-bit ECC, data, 4-way (`RPI_MODEL` is not 4 here). -/
def mCacheInfoType7_L1D : List UInt8 := cacheInfoType7 0x180 0x20 5 4 5

/-- `mCacheInfoType7_L2`: single-bit ECC, unified, 16-way. -/
def mCacheInfoType7_L2 : List UInt8 := cacheInfoType7 0x181 0x200 5 5 8

/-- `mSysSlotInfoType9`. -/
def mSysSlotInfoType9 : List UInt8 :=
  layout [(1, 9), (1, 0x18), (2, 0), (1, 1),
    (1, 1), (1, 1), (1, 3), (1, 1),   -- SlotTypeOther, width Other, usage Available, Other
    (2, 0), (1, 0x01), (1, 0),        -- SlotID, CharacteristicsUnknown, SlotCharacteristics2
    (2, 0xFFFF), (1, 0xFF), (1, 0xFF), -- SegmentGroupNum, BusNum, DevFuncNum
    (1, 0), (1, 0), (5, 0)]           -- DataBusWidth, PeerGroupingCount, PeerGroups[1]

/-- `mOemStringsType11`. -/
def mOemStringsType11 : List UInt8 := layout [(1, 11), (1, 5), (2, 0), (1, 1)]

/-- `mPhyMemArrayInfoType16`. -/
def phyMemArrayInfoType16 : List UInt8 :=
  layout [(1, 16), (1, 0x17), (2, 0),
    (1, 3), (1, 3), (1, 2),         -- SystemBoard, SystemMemory, MemoryErrorCorrectionUnknown
    (4, 0), (2, 0xFFFE), (2, 1),    -- MaximumCapacity, error information, devices
    (8, 0)]                         -- ExtendedMaximumCapacity

/-- `mMemDevInfoType17`. -/
def memDevInfoType17 : List UInt8 :=
  layout [(1, 17), (1, 0x5C), (2, 0),
    (2, 0), (2, 0xFFFE),            -- MemoryArrayHandle, MemoryErrorInformationHandle
    (2, 0xFFFF), (2, 0xFFFF), (2, 0xFFFF),  -- TotalWidth, DataWidth, Size
    (1, 5), (1, 0), (1, 1), (1, 0), -- MemoryFormFactorChip, DeviceSet, locators
    (1, 0x1E), (2, 0x0004), (2, 0), -- MemoryTypeLpddr4, TypeDetail: Unknown, Speed
    (1, 2), (1, 0), (1, 0), (1, 0), (1, 0),  -- Manufacturer, serial, tag, part, Attributes
    (4, 0),                         -- ExtendedSize
    (2, 0), (2, 0), (2, 0), (2, 0), -- clock speed and voltages
    (1, 3), (2, 0x0008), (1, 0),    -- MemoryTechnologyDram, VolatileMemory, FirmwareVersion
    (2, 0), (2, 0), (2, 0), (2, 0), -- module and controller IDs
    (8, 0), (8, 0xFFFFFFFFFFFFFFFF), (8, 0), (8, 0),  -- NonVolatile, Volatile, Cache, Logical
    (4, 0), (4, 0)]                 -- ExtendedSpeed, ExtendedConfiguredMemorySpeed

/-- `mMemArrMapInfoType19`. -/
def memArrMapInfoType19 : List UInt8 :=
  layout [(1, 19), (1, 0x1F), (2, 0), (4, 0), (4, 0), (2, 0), (1, 1), (8, 0), (8, 0)]

/-- `mBootInfoType32`. -/
def mBootInfoType32 : List UInt8 := layout [(1, 32), (1, 0x0B), (2, 0), (6, 0), (1, 0)]

/-! ## The driver's globals -/

/-- The globals the driver writes: `mMemorySize`, the templates it updates, and the character
buffers it stages strings in. -/
structure Globals where
  mMemorySize : UInt64
  mBIOSInfoType0 : List UInt8
  mBiosVendor : List UInt8
  mBiosVersion : List UInt8
  mBiosDate : List UInt8
  mSysInfoType1 : List UInt8
  mSysInfoManufName : List UInt8
  mSysInfoProductName : List UInt8
  mSysInfoFamilyName : List UInt8
  mSysInfoVersionName : List UInt8
  mSysInfoSerial : List UInt8
  mSysInfoSKU : List UInt8
  mBoardInfoType2 : List UInt8
  mChassisAssetTag : List UInt8
  mProcessorInfoType4 : List UInt8
  mCpuName : List UInt8
  mOemInfoProductUrl : List UInt8
  mPhyMemArrayInfoType16 : List UInt8
  mMemDevInfoVendor : List UInt8
  mMemDevInfoType17 : List UInt8
  mMemArrMapInfoType19 : List UInt8

/-- The globals as the image loads them. -/
def Globals.initial (pcds : FixedPcds) : Globals where
  mMemorySize := 0
  mBIOSInfoType0 := biosInfoType0 pcds
  mBiosVendor := asciiBuffer "EDK2" 128
  mBiosVersion := asciiBuffer "EDK2-DEV" 128
  mBiosDate := asciiBuffer "00/00/0000" 12
  mSysInfoType1 := sysInfoType1
  mSysInfoManufName := List.replicate 128 0
  mSysInfoProductName := List.replicate 128 0
  mSysInfoFamilyName := List.replicate 128 0
  mSysInfoVersionName := List.replicate 128 0
  mSysInfoSerial := List.replicate 17 0
  mSysInfoSKU := List.replicate 17 0
  mBoardInfoType2 := boardInfoType2
  mChassisAssetTag := List.replicate 128 0
  mProcessorInfoType4 := processorInfoType4
  mCpuName := asciiBuffer "Unknown ARM CPU" 128
  mOemInfoProductUrl := List.replicate 128 0
  mPhyMemArrayInfoType16 := phyMemArrayInfoType16
  mMemDevInfoVendor := List.replicate 128 0
  mMemDevInfoType17 := memDevInfoType17
  mMemArrMapInfoType19 := memArrMapInfoType19

/-! ## The string arrays -/

/-- `mBIOSInfoType0Strings`. -/
def Globals.biosInfoType0Strings (g : Globals) : List (CStr UInt8) :=
  [CStr.ofBuffer g.mBiosVendor, CStr.ofBuffer g.mBiosVersion, CStr.ofBuffer g.mBiosDate]

/-- `mSysInfoType1Strings`. -/
def Globals.sysInfoType1Strings (g : Globals) : List (CStr UInt8) :=
  [CStr.ofBuffer g.mSysInfoManufName, CStr.ofBuffer g.mSysInfoProductName,
    CStr.ofBuffer g.mSysInfoVersionName, CStr.ofBuffer g.mSysInfoSerial,
    CStr.ofBuffer g.mSysInfoSKU, CStr.ofBuffer g.mSysInfoFamilyName]

/-- `mBoardInfoType2Strings`. -/
def Globals.boardInfoType2Strings (g : Globals) : List (CStr UInt8) :=
  [CStr.ofBuffer g.mSysInfoManufName, CStr.ofBuffer g.mSysInfoProductName,
    CStr.ofBuffer g.mSysInfoVersionName, CStr.ofBuffer g.mSysInfoSerial,
    CStr.ofBuffer g.mChassisAssetTag, ⟨ascii "Internal", by decide⟩]

/-- `mEnclosureInfoType3Strings`. -/
def Globals.enclosureInfoType3Strings (g : Globals) : List (CStr UInt8) :=
  [CStr.ofBuffer g.mSysInfoManufName, CStr.ofBuffer g.mSysInfoProductName,
    CStr.ofBuffer g.mSysInfoSerial, CStr.ofBuffer g.mChassisAssetTag]

/-- `mProcessorInfoType4Strings`. -/
def Globals.processorInfoType4Strings (g : Globals) : List (CStr UInt8) :=
  [⟨ascii "Socket", by decide⟩, ⟨ascii "Rockchip", by decide⟩, CStr.ofBuffer g.mCpuName]

/-- `mCacheInfoType7Strings_L1I`. -/
def mCacheInfoType7Strings_L1I : List (CStr UInt8) := [⟨ascii "L1 Instruction", by decide⟩]

/-- `mCacheInfoType7Strings_L1D`. -/
def mCacheInfoType7Strings_L1D : List (CStr UInt8) := [⟨ascii "L1 Data", by decide⟩]

/-- `mCacheInfoType7Strings_L2`. -/
def mCacheInfoType7Strings_L2 : List (CStr UInt8) := [⟨ascii "L2", by decide⟩]

/-- `mSysSlotInfoType9Strings`. -/
def mSysSlotInfoType9Strings : List (CStr UInt8) := [⟨ascii "SD Card", by decide⟩]

/-- `mOemStringsType11Strings`. -/
def Globals.oemStringsType11Strings (g : Globals) : List (CStr UInt8) :=
  [CStr.ofBuffer g.mOemInfoProductUrl]

/-- `mMemDevInfoType17Strings`. -/
def Globals.memDevInfoType17Strings (g : Globals) : List (CStr UInt8) :=
  [⟨ascii "SDRAM", by decide⟩, CStr.ofBuffer g.mMemDevInfoVendor]

end PlatformSmbios
