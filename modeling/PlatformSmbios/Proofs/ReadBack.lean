import PlatformSmbios.Proofs.Published
import PlatformSmbios.Proofs.VersionScan

/-!
# What a reader of the table gets back

`platformSmbiosDriverEntryPoint_readBack`: when every string the platform configures fits the
buffer the driver stages it in (`Env.Fits`), a reader of any record a run hands to `Add`
resolves each string-number field the driver fills from the platform to exactly that string
(`platformStrings`): the firmware vendor and version, the build date, the vendor, product and
family names, the board serial as sixteen hex digits, the CPU name, the product URL and the
memory vendor.  This holds for every behaviour of the firmware.

`scanVersion_release`: the scan of the firmware version string releases the first `x.y` of
its digit runs, and the Type 0 record of every run carries it.

## Strategy

`StringTemplate.forall_resolveString` turns a field of a record into the string of its pack
that the template's field names, so each record type needs two facts: the string number its
template holds there, a constant, and the string the buffer it names holds after the run, which
`Globals.Staged` and `Globals.AfterRun` give and the `cString_*` lemmas read off.
-/

namespace PlatformSmbios

/-- The strings a run takes from the platform, by the type of the record that carries them:
the offset of the string-number field that names each one, and the string. -/
def platformStrings (env : Env) (type : UInt8) : List (Nat × List UInt8) :=
  let vendor := env.pcdPlatformVendorName.chars
  let product := env.pcdPlatformName.chars
  let serial := hexDigits (boardSerial env.otpData) 16
  match type.toNat with
  | 0 => [(0x04, env.pcdFirmwareVendor.chars.map UInt16.toUInt8),     -- Vendor
      (0x05, env.pcdFirmwareVersionString.chars.map UInt16.toUInt8),   -- BiosVersion
      (0x08, dateText env.buildDate.month env.buildDate.day env.buildDate.year)]  -- BiosReleaseDate
  | 1 => [(0x04, vendor), (0x05, product), (0x07, serial),  -- Manufacturer, ProductName, SerialNumber
      (0x1A, env.pcdFamilyName.chars)]                       -- Family
  | 2 => [(0x04, vendor), (0x05, product), (0x07, serial)]   -- Manufacturer, ProductName, SerialNumber
  | 3 => [(0x04, vendor), (0x06, product), (0x07, serial)]   -- Manufacturer, Version, SerialNumber
  | 4 => [(0x10, env.pcdCpuName.chars)]                      -- ProcessorVersion
  | 11 => [(0x04, env.pcdProductUrl.chars)]                  -- the one string of StringCount
  | 17 => [(0x17, env.pcdMemoryVendorName.chars)]            -- Manufacturer
  | _ => []

/-- Platform strings a reader gets back whole: non-empty, shorter than the 128-byte buffers the
driver stages them in, and ASCII for the `CHAR16` ones. -/
structure Env.Fits (env : Env) : Prop where
  firmwareVendor : 0 < env.pcdFirmwareVendor.len ∧ env.pcdFirmwareVendor.len < 128 ∧
    ∀ c ∈ env.pcdFirmwareVendor.chars, c.toNat < 0x100
  firmwareVersionString : 0 < env.pcdFirmwareVersionString.len ∧
    env.pcdFirmwareVersionString.len < 128 ∧ ∀ c ∈ env.pcdFirmwareVersionString.chars, c.toNat < 0x100
  platformName : 0 < env.pcdPlatformName.len ∧ env.pcdPlatformName.len < 128
  familyName : 0 < env.pcdFamilyName.len ∧ env.pcdFamilyName.len < 128
  platformVendorName : 0 < env.pcdPlatformVendorName.len ∧ env.pcdPlatformVendorName.len < 128
  cpuName : 0 < env.pcdCpuName.len ∧ env.pcdCpuName.len < 128
  productUrl : 0 < env.pcdProductUrl.len ∧ env.pcdProductUrl.len < 128
  memoryVendorName : 0 < env.pcdMemoryVendorName.len ∧ env.pcdMemoryVendorName.len < 128

theorem Env.Fits.usable {env : Env} (h : env.Fits) : env.Usable :=
  ⟨⟨h.firmwareVendor.1, h.firmwareVendor.2.2⟩,
    ⟨h.firmwareVersionString.1, h.firmwareVersionString.2.2⟩,
    h.platformName, h.familyName, h.platformVendorName, h.cpuName.1, h.productUrl, h.memoryVendorName⟩

/-! ## What a reader resolves in each record -/


section ReadBack

variable {env : Env} {fw : Firmware} {g : Globals}

theorem Globals.readBack_biosInfoType0 (hs : g.Staged env) (hf : env.Fits) (hn : g.StringsNonempty) :
    ∀ f ∈ platformStrings env 0,
      resolveString (g.mBIOSInfoType0 ++ stringSet g.biosInfoType0Strings) f.1 = some f.2 := by
  refine hs.type0.forall_resolveString hn.biosInfoType0Strings ?_
  simp only [platformStrings, show (0 : UInt8).toNat = 0 from rfl, Globals.biosInfoType0Strings,
    List.map, CStr.ofBuffer, hs.biosVendor, hs.biosVersion, hs.cString_biosDate,
    cString_unicodeStrToAsciiStrS hf.firmwareVendor.2.2 hf.firmwareVendor.2.1,
    cString_unicodeStrToAsciiStrS hf.firmwareVersionString.2.2 hf.firmwareVersionString.2.1,
    List.forall_mem_cons, List.not_mem_nil, false_implies, implies_true, and_true]
  refine ⟨?_, ?_, ?_⟩ <;> exact ⟨by decide, by decide, rfl⟩


theorem Globals.readBack_sysInfoType1 (hs : g.Staged env) (ha : g.AfterRun env fw) (hf : env.Fits)
    (hn : g.StringsNonempty) : ∀ f ∈ platformStrings env 1,
      resolveString (g.mSysInfoType1 ++ stringSet g.sysInfoType1Strings) f.1 = some f.2 := by
  refine hs.type1.forall_resolveString hn.sysInfoType1Strings ?_
  simp only [platformStrings, show (1 : UInt8).toNat = 1 from rfl, Globals.sysInfoType1Strings, List.map,
    CStr.ofBuffer, hs.manufName, hs.productName, ha.serial, hs.familyName, cString_hexDigits,
    cString_asciiStrCpyS hf.platformVendorName.2, cString_asciiStrCpyS hf.platformName.2,
    cString_asciiStrCpyS hf.familyName.2, List.forall_mem_cons, List.not_mem_nil, false_implies,
    implies_true, and_true]
  refine ⟨?_, ?_, ?_, ?_⟩ <;> exact ⟨by decide, by decide, rfl⟩

theorem Globals.readBack_boardInfoType2 (hs : g.Staged env) (ha : g.AfterRun env fw) (hf : env.Fits)
    (hn : g.StringsNonempty) : ∀ f ∈ platformStrings env 2,
      resolveString (g.mBoardInfoType2 ++ stringSet g.boardInfoType2Strings) f.1 = some f.2 := by
  refine hs.type2.forall_resolveString hn.boardInfoType2Strings ?_
  simp only [platformStrings, show (2 : UInt8).toNat = 2 from rfl, Globals.boardInfoType2Strings,
    List.map, CStr.ofBuffer, hs.manufName, hs.productName, ha.serial, cString_hexDigits,
    cString_asciiStrCpyS hf.platformVendorName.2, cString_asciiStrCpyS hf.platformName.2,
    List.forall_mem_cons, List.not_mem_nil, false_implies, implies_true, and_true]
  refine ⟨?_, ?_, ?_⟩ <;> exact ⟨by decide, by decide, rfl⟩

theorem Globals.readBack_enclosureInfoType3 (hs : g.Staged env) (ha : g.AfterRun env fw)
    (hf : env.Fits) (hn : g.StringsNonempty) : ∀ f ∈ platformStrings env 3,
      resolveString (mEnclosureInfoType3 ++ stringSet g.enclosureInfoType3Strings) f.1 = some f.2 := by
  refine isTemplate_mEnclosureInfoType3.stringTemplate.forall_resolveString
    hn.enclosureInfoType3Strings ?_
  simp only [platformStrings, show (3 : UInt8).toNat = 3 from rfl, Globals.enclosureInfoType3Strings,
    List.map, CStr.ofBuffer, hs.manufName, hs.productName, ha.serial, cString_hexDigits,
    cString_asciiStrCpyS hf.platformVendorName.2, cString_asciiStrCpyS hf.platformName.2,
    List.forall_mem_cons, List.not_mem_nil, false_implies, implies_true, and_true]
  refine ⟨?_, ?_, ?_⟩ <;> exact ⟨by decide, by decide, rfl⟩

theorem Globals.readBack_processorInfoType4 (hs : g.Staged env) (hf : env.Fits)
    (hn : g.StringsNonempty) : ∀ f ∈ platformStrings env 4,
      resolveString (g.mProcessorInfoType4 ++ stringSet g.processorInfoType4Strings) f.1 = some f.2 := by
  refine hs.type4.forall_resolveString hn.processorInfoType4Strings ?_
  simp only [platformStrings, show (4 : UInt8).toNat = 4 from rfl, Globals.processorInfoType4Strings,
    List.map, CStr.ofBuffer, hs.cpuName, cString_asciiStrCpyS hf.cpuName.2,
    List.forall_mem_cons, List.not_mem_nil, false_implies, implies_true, and_true]
  exact ⟨by decide, by decide, rfl⟩

theorem Globals.readBack_oemStringsType11 (ha : g.AfterRun env fw) (hf : env.Fits)
    (hn : g.StringsNonempty) : ∀ f ∈ platformStrings env 11,
      resolveString (mOemStringsType11 ++ stringSet g.oemStringsType11Strings) f.1 = some f.2 := by
  refine isTemplate_mOemStringsType11.stringTemplate.forall_resolveString hn.oemStringsType11Strings ?_
  simp only [platformStrings, show (11 : UInt8).toNat = 11 from rfl, Globals.oemStringsType11Strings,
    List.map, CStr.ofBuffer, ha.productUrl, cString_asciiStrCpyS hf.productUrl.2,
    List.forall_mem_cons, List.not_mem_nil, false_implies, implies_true, and_true]
  exact ⟨by decide, by decide, rfl⟩

theorem Globals.readBack_memDevInfoType17 (hs : g.Staged env) (hf : env.Fits)
    (hn : g.StringsNonempty) : ∀ f ∈ platformStrings env 17,
      resolveString (g.mMemDevInfoType17 ++ stringSet g.memDevInfoType17Strings) f.1 = some f.2 := by
  refine hs.type17.forall_resolveString hn.memDevInfoType17Strings ?_
  simp only [platformStrings, show (17 : UInt8).toNat = 17 from rfl, Globals.memDevInfoType17Strings,
    List.map, CStr.ofBuffer, hs.memoryVendor, cString_asciiStrCpyS hf.memoryVendorName.2,
    List.forall_mem_cons, List.not_mem_nil, false_implies, implies_true, and_true]
  exact ⟨by decide, by decide, rfl⟩

/-- Every record a run builds resolves the platform's strings. -/
theorem Globals.records_readBack (hs : g.Staged env) (ha : g.AfterRun env fw) (hshaped : g.Shaped)
    (hf : env.Fits) (hn : g.StringsNonempty) :
    ∀ c ∈ g.records, ∀ f ∈ platformStrings env (c.2.1.getD 0 0),
      resolveString c.2.1 f.1 = some f.2 := by
  intro c hc
  rw [hshaped.getD_zero_of_mem_records hc]
  have hnone : ∀ {record : List UInt8}, ∀ f ∈ ([] : List (Nat × List UInt8)),
      resolveString record f.1 = some f.2 := fun _ h => absurd h (List.not_mem_nil _)
  simp only [Globals.records, List.mem_cons, List.not_mem_nil, or_false] at hc
  rcases hc with rfl | rfl | rfl | rfl | rfl | rfl | rfl | rfl | rfl | rfl | rfl | rfl | rfl | rfl
  exacts [g.readBack_biosInfoType0 hs hf hn, g.readBack_sysInfoType1 hs ha hf hn,
    g.readBack_enclosureInfoType3 hs ha hf hn, g.readBack_boardInfoType2 hs ha hf hn, hnone, hnone, hnone,
    g.readBack_processorInfoType4 hs hf hn, hnone, g.readBack_oemStringsType11 ha hf hn, hnone,
    g.readBack_memDevInfoType17 hs hf hn, hnone, hnone]

end ReadBack

/-- For every platform whose strings fit their staging buffers and every behaviour of the
firmware, a reader of any record the run hands to `Add` resolves each string-number field that
the driver fills from the platform to exactly the platform's string. -/
theorem platformSmbiosDriverEntryPoint_readBack (env : Env) (fw : Firmware) (hfits : env.Fits) :
    ∃ g trace, platformSmbiosDriverEntryPoint env fw = .ok (.success, g, trace) ∧
      ∀ record ∈ trace.filterMap Event.addedRecord, ∀ f ∈ platformStrings env (record.getD 0 0),
        resolveString record f.1 = some f.2 := by
  obtain ⟨g, hrun, hshaped, hafter, hstaged⟩ := platformSmbiosDriverEntryPoint_globals env fw
  refine ⟨g, _, hrun, fun record hrecord => ?_⟩
  obtain ⟨c, hc, rfl⟩ := List.mem_map.mp ((addedRecords_logCalls_sublist fw 0 g.records).subset hrecord)
  exact g.records_readBack hstaged hafter hshaped hfits (hstaged.stringsNonempty hafter hfits.usable) c hc

theorem platformSmbiosDriverEntryPoint_readBack_usableBoard :
    usableBoard.Fits ∧ ∃ g trace, platformSmbiosDriverEntryPoint usableBoard acceptingFirmware =
        .ok (.success, g, trace) ∧ ∀ record ∈ trace.filterMap Event.addedRecord,
          ∀ f ∈ platformStrings usableBoard (record.getD 0 0), resolveString record f.1 = some f.2 :=
  have hfits : usableBoard.Fits := ⟨⟨by decide, by decide, by decide⟩,
    ⟨by decide, by decide, by decide⟩, ⟨by decide, by decide⟩, ⟨by decide, by decide⟩,
    ⟨by decide, by decide⟩, ⟨by decide, by decide⟩, ⟨by decide, by decide⟩,
    ⟨by decide, by decide⟩⟩
  ⟨hfits, platformSmbiosDriverEntryPoint_readBack usableBoard acceptingFirmware hfits⟩

/-! ## The release the version scan finds -/

/-- The version scan of `BIOSInfoUpdateSmbiosType0` computes the reference: the loop ends in
state 3 or 4 exactly when the string has a run of value at most 255 followed by exactly one
`.` and a second run of value at most 255, with the values of the first such pair in `Value`;
`SystemBiosMajorRelease` and `SystemBiosMinorRelease` then read back those values, and
otherwise keep theirs.  In every run on a platform whose firmware version string is `s` (and
fits `mBiosVersion`), every Type 0 record handed to `Add` carries that release, or the
template's where there is none, whatever the firmware does. -/
theorem scanVersion_release (s rest record : List UInt8) (value : Nat × Nat) (hs : 0 ∉ s)
    (hrecord : 0x16 ≤ record.length) :
    (scanVersion (s ++ 0 :: rest) value).release = firstRelease (digitRuns s).2 ∧
      biosRelease (setBiosRelease (scanVersion (s ++ 0 :: rest) value) record) =
        (firstRelease (digitRuns s).2).getD (biosRelease record) ∧
      ∀ env fw, env.pcdFirmwareVersionString.len < 128 →
        env.pcdFirmwareVersionString.chars.map UInt16.toUInt8 = s →
        ∃ g trace, platformSmbiosDriverEntryPoint env fw = .ok (.success, g, trace) ∧
          ∀ r ∈ trace.filterMap Event.addedRecord, r.getD 0 0 = 0 →
            biosRelease r = (firstRelease (digitRuns s).2).getD (biosRelease (biosInfoType0 env.pcds)) := by
  refine ⟨(scanVersion_firstRelease s rest record value hs hrecord).1,
    (scanVersion_firstRelease s rest record value hs hrecord).2, fun env fw hlen hchars => ?_⟩
  obtain ⟨g, hrun, hshaped, -, hstaged⟩ := platformSmbiosDriverEntryPoint_globals env fw
  refine ⟨g, _, hrun, fun r hr h0 => ?_⟩
  have hmem := hshaped.mem_records_of_added hr
  rw [h0] at hmem
  have hversion : g.mBiosVersion =
      s ++ 0 :: (Globals.initial env.pcds).mBiosVersion.drop (env.pcdFirmwareVersionString.len + 1) := by
    rw [hstaged.biosVersion, unicodeStrToAsciiStrS, safeStrCopy, if_pos hlen, hchars]
  have hlength : (biosInfoType0 env.pcds).length = 0x1A := (Globals.shaped_initial env.pcds 0).type0.length_eq
  have hcleared : (writeField (writeField (biosInfoType0 env.pcds) 0x16 1 0) 0x17 1 0).length = 0x1A := by
    rw [length_writeField (by rw [length_writeField (by omega)]; omega), length_writeField (by omega), hlength]
  rw [List.mem_singleton.mp hmem, biosRelease_append (by rw [hshaped.type0.length_eq]; omega),
    hstaged.biosInfo, hversion, (scanVersion_firstRelease s _ _ env.value hs (by omega)).2,
    biosRelease_writeField (by omega) (by rw [length_writeField (by omega)]; omega),
    biosRelease_writeField (le_refl _) (by omega)]

/-- `"v1.23"` releases 1.23 into a blank record, and into the Type 0 record of every run whose
firmware version string it is. -/
theorem scanVersion_release_v1_23 :
    (0 : UInt8) ∉ [118, 49, 46, 50, 51] ∧ 0x16 ≤ (List.replicate 0x1A (0 : UInt8)).length ∧
      ((scanVersion ([118, 49, 46, 50, 51] ++ [0]) (7, 7)).release =
          firstRelease (digitRuns [118, 49, 46, 50, 51]).2 ∧
        biosRelease (setBiosRelease (scanVersion ([118, 49, 46, 50, 51] ++ [0]) (7, 7))
          (List.replicate 0x1A 0)) =
          (firstRelease (digitRuns [118, 49, 46, 50, 51]).2).getD
            (biosRelease (List.replicate 0x1A 0)) ∧
        ∀ env fw, env.pcdFirmwareVersionString.len < 128 →
          env.pcdFirmwareVersionString.chars.map UInt16.toUInt8 = [118, 49, 46, 50, 51] →
          ∃ g trace, platformSmbiosDriverEntryPoint env fw = .ok (.success, g, trace) ∧
            ∀ r ∈ trace.filterMap Event.addedRecord, r.getD 0 0 = 0 →
              biosRelease r = (firstRelease (digitRuns [118, 49, 46, 50, 51]).2).getD
                (biosRelease (biosInfoType0 env.pcds))) :=
  ⟨by decide, by decide, scanVersion_release _ [] _ _ (by decide) (by decide)⟩

end PlatformSmbios
