import Mathlib.Data.Nat.Digits
import PlatformSmbios.Proofs.Format
import PlatformSmbios.Proofs.Run

/-!
# Every record of a run is well formed

`platformSmbiosDriverEntryPoint_wellFormed`: when the external strings the driver stages are
usable (`Env.Usable`: non-empty, ASCII for the `CHAR16` ones, and short enough for the
zeroed buffers that have no default), every record a run hands to `Add` is a well-formed SMBIOS
structure (`WellFormed`), whatever the firmware does.  Without them it is not:
`Strings.lean` shows the OEM-strings record of a run with an empty product URL.

## Strategy

A record is a template followed by the string-set of its pack, so `StringTemplate.wellFormed`
reduces the statement to two facts about the globals the run leaves (`Globals.Staged`): each
template's string-number fields still name at most as many strings as its pack has, since the
builders' stores all miss them, and each buffer a pack points at holds what its builder staged
into it.  The usable strings make every such buffer non-empty (`Globals.StringsNonempty`).
-/

namespace PlatformSmbios

/-! ## Staging a string -/

section Staging

variable {destination : List UInt8} {destMax : Nat}

/-- A source shorter than the buffer is the string the buffer holds afterwards. -/
theorem cString_safeStrCopy {chars : List UInt8} {len : Nat} (hchars : (0 : UInt8) ∉ chars)
    (hlen : len < destMax) : cString (safeStrCopy destination destMax len chars) = chars := by
  rw [safeStrCopy, if_pos hlen, cString_append_zero hchars]

theorem cString_asciiStrCpyS {source : CStr UInt8} (hfit : source.len < destMax) :
    cString (asciiStrCpyS destination destMax source) = source.chars :=
  cString_safeStrCopy source.nul_free hfit

/-- An ASCII `CHAR16` other than NUL keeps a non-zero low byte. -/
theorem toUInt8_ne_zero {c : UInt16} (hc : c ≠ 0) (hascii : c.toNat < 0x100) : c.toUInt8 ≠ 0 := by
  intro h
  have h8 : c.toUInt8.toNat = c.toNat % 256 := rfl
  rw [h, show (0 : UInt8).toNat = 0 from rfl, Nat.mod_eq_of_lt hascii] at h8
  exact hc (UInt16.toNat.inj h8.symm)

theorem zero_not_mem_map_toUInt8 {source : CStr UInt16} (hascii : ∀ c ∈ source.chars, c.toNat < 0x100) :
    (0 : UInt8) ∉ source.chars.map UInt16.toUInt8 := fun h => by
  obtain ⟨c, hc, h0⟩ := List.mem_map.mp h
  exact toUInt8_ne_zero (ne_of_mem_of_not_mem hc source.nul_free) (hascii c hc) h0

theorem cString_unicodeStrToAsciiStrS {source : CStr UInt16}
    (hascii : ∀ c ∈ source.chars, c.toNat < 0x100) (hfit : source.len < destMax) :
    cString (unicodeStrToAsciiStrS source destination destMax) = source.chars.map UInt16.toUInt8 :=
  cString_safeStrCopy (zero_not_mem_map_toUInt8 hascii) hfit

/-- A non-empty source that fits, or a non-empty string the buffer keeps, leaves a non-empty
string. -/
theorem cString_asciiStrCpyS_ne_nil {source : CStr UInt8} (hsource : 0 < source.len)
    (hfit : source.len < destMax ∨ cString destination ≠ []) :
    cString (asciiStrCpyS destination destMax source) ≠ [] := by
  by_cases h : source.len < destMax
  · rw [cString_asciiStrCpyS h]
    exact List.ne_nil_of_length_pos hsource
  · rw [asciiStrCpyS, safeStrCopy, if_neg h]
    exact hfit.resolve_left h

theorem cString_unicodeStrToAsciiStrS_ne_nil {source : CStr UInt16} (hsource : 0 < source.len)
    (hascii : ∀ c ∈ source.chars, c.toNat < 0x100)
    (hfit : source.len < destMax ∨ cString destination ≠ []) :
    cString (unicodeStrToAsciiStrS source destination destMax) ≠ [] := by
  by_cases h : source.len < destMax
  · rw [cString_unicodeStrToAsciiStrS hascii h]
    exact List.ne_nil_of_length_pos (by simpa [CStr.len] using hsource)
  · rw [unicodeStrToAsciiStrS, safeStrCopy, if_neg h]
    exact hfit.resolve_left h

/-- A text with no NUL that fits the buffer with its NUL is the string `AsciiSPrint` leaves. -/
theorem cString_asciiSPrint {text : List UInt8} (htext : (0 : UInt8) ∉ text)
    (hlen : text.length < destMax) : cString (asciiSPrint destination destMax text) = text := by
  rw [asciiSPrint, if_neg (by omega), List.take_of_length_le (by omega), cString_append_zero htext]

end Staging

/-! ## The date text -/

/-- The characters of `Nat.toDigits` are digit characters. -/
theorem mem_toDigitsCore {b f n : Nat} {ds : List Char} {c : Char} (h : c ∈ Nat.toDigitsCore b f n ds) :
    c ∈ ds ∨ ∃ k, c = Nat.digitChar (k % b) := by
  induction f generalizing n ds with
  | zero => exact .inl h
  | succ f ih =>
      have hcons : c ∈ Nat.digitChar (n % b) :: ds → c ∈ ds ∨ ∃ k, c = Nat.digitChar (k % b) :=
        fun h => (List.mem_cons.mp h).elim (fun h => .inr ⟨n, h⟩) .inl
      simp only [Nat.toDigitsCore] at h
      split_ifs at h
      · exact hcons h
      · exact (ih h).elim hcons .inr

theorem zero_not_mem_decimalField (width value : Nat) : (0 : UInt8) ∉ decimalField width value := by
  have key : ∀ d : Fin 10, (Nat.digitChar d).toNat.toUInt8 ≠ 0 := by decide
  simp only [decimalField, List.mem_append, List.mem_replicate, List.mem_map, not_or]
  refine ⟨fun h => absurd h.2 (by decide), ?_⟩
  rintro ⟨c, hc, h0⟩
  rcases mem_toDigitsCore hc with h | ⟨k, rfl⟩
  · exact absurd h (List.not_mem_nil _)
  · exact key ⟨k % 10, Nat.mod_lt _ (by omega)⟩ h0

theorem length_decimalField {width value : Nat} (hw : 0 < width) (hv : value < 10 ^ width) :
    (decimalField width value).length = width := by
  have := Nat.toDigitsCore_length 10 (by omega) (value + 1) value width hv hw
  simp only [decimalField, List.length_append, List.length_replicate, List.length_map, Nat.toDigits]
  omega

/-- `"%02d/%02d/%04d"` of a build date in the `ASSERT`ed ranges is ten characters, none of
them NUL. -/
theorem BuildDate.length_dateText (date : BuildDate) :
    (dateText date.month date.day date.year).length = 10 := by
  have hm := length_decimalField (by omega) (show date.month < 10 ^ 2 by have := date.month_mem; omega)
  have hd := length_decimalField (by omega) (show date.day < 10 ^ 2 by have := date.day_mem; omega)
  have hy := length_decimalField (by omega) (show date.year < 10 ^ 4 by have := date.year_le; omega)
  simp only [dateText, List.length_append, hm, hd, hy, List.length_singleton]

theorem zero_not_mem_dateText (month day year : Nat) : (0 : UInt8) ∉ dateText month day year := by
  simp only [dateText, List.mem_append, List.mem_singleton, not_or]
  exact ⟨⟨⟨⟨zero_not_mem_decimalField _ _, by decide⟩, zero_not_mem_decimalField _ _⟩,
    by decide⟩, zero_not_mem_decimalField _ _⟩

theorem cString_hexDigits (value : UInt64) : cString (hexDigits value 16 ++ [0]) = hexDigits value 16 :=
  cString_append_zero (zero_not_mem_digitsFrom _ _ _) []

theorem cString_hexDigits_ne_nil (value : UInt64) : cString (hexDigits value 16 ++ [0]) ≠ [] := by
  rw [cString_hexDigits]
  exact List.ne_nil_of_length_pos (by simp [hexDigits])

/-! ## The string-number fields of the templates -/

/-- The string numbers of the Type 0 template are 1, 2 and 3, whatever the fixed PCDs. -/
theorem stringFields_biosInfoType0 (pcds : FixedPcds) :
    ∀ off ∈ stringNumberFields 0, off < 0x1A ∧ readField (biosInfoType0 pcds) off 1 ≤ 3 := by
  intro off hoff
  change off ∈ [0x04, 0x05, 0x08] at hoff
  simp only [List.mem_cons, List.mem_singleton, List.not_mem_nil, or_false] at hoff
  rcases hoff with rfl | rfl | rfl <;> exact ⟨by decide, Nat.le_of_ble_eq_true rfl⟩

/-! ## What a run leaves -/

/-- What a run leaves in the string buffers the packs point at, and in the string-number
fields of the templates it stores into. -/
structure Globals.Staged (env : Env) (g : Globals) : Prop where
  biosVendor : g.mBiosVendor =
    unicodeStrToAsciiStrS env.pcdFirmwareVendor (Globals.initial env.pcds).mBiosVendor 128
  biosVersion : g.mBiosVersion =
    unicodeStrToAsciiStrS env.pcdFirmwareVersionString (Globals.initial env.pcds).mBiosVersion 128
  biosDate : g.mBiosDate = asciiSPrint (Globals.initial env.pcds).mBiosDate 12
    (dateText env.buildDate.month env.buildDate.day env.buildDate.year)
  manufName : g.mSysInfoManufName =
    asciiStrCpyS (Globals.initial env.pcds).mSysInfoManufName 128 env.pcdPlatformVendorName
  productName : g.mSysInfoProductName =
    asciiStrCpyS (Globals.initial env.pcds).mSysInfoProductName 128 env.pcdPlatformName
  familyName : g.mSysInfoFamilyName =
    asciiStrCpyS (Globals.initial env.pcds).mSysInfoFamilyName 128 env.pcdFamilyName
  versionName : g.mSysInfoVersionName =
    asciiSPrint (Globals.initial env.pcds).mSysInfoVersionName 128 (hexField 0)
  sku : g.mSysInfoSKU = hexDigits 0 16 ++ [0]
  assetTag : g.mChassisAssetTag =
    unicodeStrToAsciiStrS ⟨[32], by decide⟩ (Globals.initial env.pcds).mChassisAssetTag 128
  cpuName : g.mCpuName = asciiStrCpyS (Globals.initial env.pcds).mCpuName 128 env.pcdCpuName
  memoryVendor : g.mMemDevInfoVendor =
    asciiStrCpyS (Globals.initial env.pcds).mMemDevInfoVendor 128 env.pcdMemoryVendorName
  type0 : StringTemplate g.mBIOSInfoType0 (biosInfoType0 env.pcds) 0 0x1A
  type1 : StringTemplate g.mSysInfoType1 sysInfoType1 1 0x1B
  type2 : StringTemplate g.mBoardInfoType2 boardInfoType2 2 0x11
  type4 : StringTemplate g.mProcessorInfoType4 processorInfoType4 4 0x30
  type17 : StringTemplate g.mMemDevInfoType17 memDevInfoType17 17 0x5C
  /-- The Type 0 template: the release the scan of the staged version finds, over the template
  with its embedded-controller release cleared. -/
  biosInfo : g.mBIOSInfoType0 = setBiosRelease (scanVersion g.mBiosVersion env.value)
    (writeField (writeField (biosInfoType0 env.pcds) 0x16 1 0) 0x17 1 0)

theorem platformSmbiosDriverEntryPoint_staged (env : Env) (fw : Firmware) :
    ∃ g trace, platformSmbiosDriverEntryPoint env fw = .ok (.success, g, trace) ∧ g.Staged env := by
  obtain ⟨g0, hg0, s0, e0⟩ := biosInfoUpdateSmbiosType0_eq env fw
    (Globals.shaped_initial env.pcds env.sdramGetMemorySize)
  obtain ⟨g1, hg1, s1, e1⟩ := sysInfoUpdateSmbiosType1_eq env fw s0
  obtain ⟨g3, hg3, s3, e3⟩ := enclosureInfoUpdateSmbiosType3_eq env fw s1
  obtain ⟨g7, hg7, s7, e7⟩ := cacheInfoUpdateSmbiosType7_eq env fw (s3 2)
  obtain ⟨g4, hg4, s4, e4⟩ := processorInfoUpdateSmbiosType4_eq env fw 4 (s7 4)
  obtain ⟨g11, hg11, s11, e11⟩ := oemStringsUpdateSmbiosType11_eq env fw s4
  obtain ⟨g16, hg16, s16, e16⟩ := phyMemArrayInfoUpdateSmbiosType16_eq env fw s11
  obtain ⟨g17, hg17, s17, e17⟩ := memDevInfoUpdateSmbiosType17_eq env fw (s16 10)
  obtain ⟨g19, hg19, s19, e19⟩ := memArrMapInfoUpdateSmbiosType19_eq env fw s17
  refine ⟨g19, _, by
    simp only [platformSmbiosDriverEntryPoint, e0, ok_bind, e1, e3, callCount_append,
      callCount_nil, callCount_logCall, boardInfoUpdateSmbiosType2_eq fw (s3 2), e7, e4,
      sysSlotInfoUpdateSmbiosType9_eq, e11, e16, e17, e19, bootInfoUpdateSmbiosType32_eq]
    rfl, ?_⟩
  subst hg19 hg17 hg11 hg4 hg1 hg0
  simp only [hg16, hg7, hg3]
  exact {
      biosVendor := rfl, biosVersion := rfl, biosDate := rfl, manufName := rfl, productName := rfl,
      familyName := rfl, versionName := rfl, sku := rfl, assetTag := rfl, cpuName := rfl,
      memoryVendor := rfl
      type0 := (((Globals.shaped_initial env.pcds 0).type0.stringTemplate.writeField 0x16 1 0
        (by omega) (by omega) (by decide)).writeField 0x17 1 0 (by omega) (by omega)
        (by decide)).setBiosRelease _
      type1 := by
        iterate 4 refine StringTemplate.writeField ?_ _ _ _ (by omega) (by omega) (by decide)
        exact (Globals.shaped_initial env.pcds 0).type1.stringTemplate
      type2 := (Globals.shaped_initial env.pcds 0).type2.stringTemplate.writeField 0x0B 2 _
        (by omega) (by omega) (by decide)
      type4 := by
        iterate 11 refine StringTemplate.writeField ?_ _ _ _ (by omega) (by omega) (by decide)
        exact (Globals.shaped_initial env.pcds 0).type4.stringTemplate
      type17 := by
        iterate 3 refine StringTemplate.writeField ?_ _ _ _ (by omega) (by omega) (by decide)
        exact (Globals.shaped_initial env.pcds 0).type17.stringTemplate
      biosInfo := rfl }

/-- The globals a run leaves: its calls are those of their records, and they have the shapes,
the stored fields and the staged strings of a run. -/
theorem platformSmbiosDriverEntryPoint_globals (env : Env) (fw : Firmware) :
    ∃ g : Globals, platformSmbiosDriverEntryPoint env fw = .ok (.success, g, logCalls fw 0 g.records) ∧
      g.Shaped ∧ g.AfterRun env fw ∧ g.Staged env := by
  obtain ⟨g, hrun, hshaped, hafter⟩ := platformSmbiosDriverEntryPoint_eq env fw
  obtain ⟨g', trace, hrun', hstaged⟩ := platformSmbiosDriverEntryPoint_staged env fw
  simp only [hrun, Except.ok.injEq, Prod.mk.injEq, true_and] at hrun'
  obtain ⟨rfl, -⟩ := hrun'
  exact ⟨g, hrun, hshaped, hafter, hstaged⟩

/-! ## Usable strings -/

/-- External strings a run can publish: every string the driver stages from a PCD comes out
non-empty.  The `CHAR16` PCDs are ASCII (below `0x100`, as `UnicodeStrToAsciiStrS` asks of its
source); the `CHAR8` PCDs staged into zeroed buffers fit in them, while the firmware vendor and
version and the CPU name keep a non-empty default when they do not fit. -/
structure Env.Usable (env : Env) : Prop where
  firmwareVendor : 0 < env.pcdFirmwareVendor.len ∧ ∀ c ∈ env.pcdFirmwareVendor.chars, c.toNat < 0x100
  firmwareVersionString :
    0 < env.pcdFirmwareVersionString.len ∧ ∀ c ∈ env.pcdFirmwareVersionString.chars, c.toNat < 0x100
  platformName : 0 < env.pcdPlatformName.len ∧ env.pcdPlatformName.len < 128
  familyName : 0 < env.pcdFamilyName.len ∧ env.pcdFamilyName.len < 128
  platformVendorName : 0 < env.pcdPlatformVendorName.len ∧ env.pcdPlatformVendorName.len < 128
  cpuName : 0 < env.pcdCpuName.len
  productUrl : 0 < env.pcdProductUrl.len ∧ env.pcdProductUrl.len < 128
  memoryVendorName : 0 < env.pcdMemoryVendorName.len ∧ env.pcdMemoryVendorName.len < 128

/-- Every buffer a pack of the run points at holds a non-empty string. -/
structure Globals.StringsNonempty (g : Globals) : Prop where
  biosVendor : cString g.mBiosVendor ≠ []
  biosVersion : cString g.mBiosVersion ≠ []
  biosDate : cString g.mBiosDate ≠ []
  manufName : cString g.mSysInfoManufName ≠ []
  productName : cString g.mSysInfoProductName ≠ []
  familyName : cString g.mSysInfoFamilyName ≠ []
  versionName : cString g.mSysInfoVersionName ≠ []
  serial : cString g.mSysInfoSerial ≠ []
  sku : cString g.mSysInfoSKU ≠ []
  assetTag : cString g.mChassisAssetTag ≠ []
  cpuName : cString g.mCpuName ≠ []
  productUrl : cString g.mOemInfoProductUrl ≠ []
  memoryVendor : cString g.mMemDevInfoVendor ≠ []

section Records

variable {env : Env} {fw : Firmware} {g : Globals}

theorem Globals.Staged.cString_biosDate (hs : g.Staged env) :
    cString g.mBiosDate = dateText env.buildDate.month env.buildDate.day env.buildDate.year := by
  rw [hs.biosDate, cString_asciiSPrint (zero_not_mem_dateText _ _ _)
    (by rw [env.buildDate.length_dateText]; omega)]

theorem Globals.Staged.stringsNonempty (hs : g.Staged env) (ha : g.AfterRun env fw) (hu : env.Usable) :
    g.StringsNonempty where
  biosVendor := hs.biosVendor ▸ cString_unicodeStrToAsciiStrS_ne_nil hu.firmwareVendor.1
    hu.firmwareVendor.2 (.inr (by decide : cString (asciiBuffer "EDK2" 128) ≠ []))
  biosVersion := hs.biosVersion ▸ cString_unicodeStrToAsciiStrS_ne_nil hu.firmwareVersionString.1
    hu.firmwareVersionString.2 (.inr (by decide : cString (asciiBuffer "EDK2-DEV" 128) ≠ []))
  biosDate := hs.cString_biosDate ▸
    List.ne_nil_of_length_pos (by rw [env.buildDate.length_dateText]; omega)
  manufName := hs.manufName ▸
    cString_asciiStrCpyS_ne_nil hu.platformVendorName.1 (.inl hu.platformVendorName.2)
  productName := hs.productName ▸ cString_asciiStrCpyS_ne_nil hu.platformName.1 (.inl hu.platformName.2)
  familyName := hs.familyName ▸ cString_asciiStrCpyS_ne_nil hu.familyName.1 (.inl hu.familyName.2)
  versionName := hs.versionName ▸
    (by decide : cString (asciiSPrint (List.replicate 128 0) 128 (hexField 0)) ≠ [])
  serial := ha.serial ▸ cString_hexDigits_ne_nil _
  sku := hs.sku ▸ cString_hexDigits_ne_nil _
  assetTag := hs.assetTag ▸ cString_unicodeStrToAsciiStrS_ne_nil (by decide) (by decide) (.inl (by decide))
  cpuName := hs.cpuName ▸ cString_asciiStrCpyS_ne_nil hu.cpuName
    (.inr (by decide : cString (asciiBuffer "Unknown ARM CPU" 128) ≠ []))
  productUrl := ha.productUrl ▸ cString_asciiStrCpyS_ne_nil hu.productUrl.1 (.inl hu.productUrl.2)
  memoryVendor := hs.memoryVendor ▸
    cString_asciiStrCpyS_ne_nil hu.memoryVendorName.1 (.inl hu.memoryVendorName.2)


/-! The packs of a run hold non-empty strings only. -/

theorem Globals.StringsNonempty.biosInfoType0Strings (hn : g.StringsNonempty) :
    ∀ s ∈ g.biosInfoType0Strings, s.chars ≠ [] := by
  simp only [Globals.biosInfoType0Strings, List.forall_mem_cons, List.not_mem_nil, false_implies,
    implies_true, and_true]
  exact ⟨hn.biosVendor, hn.biosVersion, hn.biosDate⟩

theorem Globals.StringsNonempty.sysInfoType1Strings (hn : g.StringsNonempty) :
    ∀ s ∈ g.sysInfoType1Strings, s.chars ≠ [] := by
  simp only [Globals.sysInfoType1Strings, List.forall_mem_cons, List.not_mem_nil, false_implies,
    implies_true, and_true]
  exact ⟨hn.manufName, hn.productName, hn.versionName, hn.serial, hn.sku, hn.familyName⟩

theorem Globals.StringsNonempty.enclosureInfoType3Strings (hn : g.StringsNonempty) :
    ∀ s ∈ g.enclosureInfoType3Strings, s.chars ≠ [] := by
  simp only [Globals.enclosureInfoType3Strings, List.forall_mem_cons, List.not_mem_nil, false_implies,
    implies_true, and_true]
  exact ⟨hn.manufName, hn.productName, hn.serial, hn.assetTag⟩

theorem Globals.StringsNonempty.boardInfoType2Strings (hn : g.StringsNonempty) :
    ∀ s ∈ g.boardInfoType2Strings, s.chars ≠ [] := by
  simp only [Globals.boardInfoType2Strings, List.forall_mem_cons, List.not_mem_nil, false_implies,
    implies_true, and_true]
  exact ⟨hn.manufName, hn.productName, hn.versionName, hn.serial, hn.assetTag, by decide⟩

theorem Globals.StringsNonempty.processorInfoType4Strings (hn : g.StringsNonempty) :
    ∀ s ∈ g.processorInfoType4Strings, s.chars ≠ [] := by
  simp only [Globals.processorInfoType4Strings, List.forall_mem_cons, List.not_mem_nil, false_implies,
    implies_true, and_true]
  exact ⟨by decide, by decide, hn.cpuName⟩

theorem Globals.StringsNonempty.oemStringsType11Strings (hn : g.StringsNonempty) :
    ∀ s ∈ g.oemStringsType11Strings, s.chars ≠ [] := by
  simp only [Globals.oemStringsType11Strings, List.forall_mem_cons, List.not_mem_nil, false_implies,
    implies_true, and_true]
  exact hn.productUrl

theorem Globals.StringsNonempty.memDevInfoType17Strings (hn : g.StringsNonempty) :
    ∀ s ∈ g.memDevInfoType17Strings, s.chars ≠ [] := by
  simp only [Globals.memDevInfoType17Strings, List.forall_mem_cons, List.not_mem_nil, false_implies,
    implies_true, and_true]
  exact ⟨by decide, hn.memoryVendor⟩

/-- Every record a run builds is well formed once the strings it staged are non-empty. -/
theorem Globals.records_wellFormed (hs : g.Staged env) (hshaped : g.Shaped) (hn : g.StringsNonempty) :
    ∀ c ∈ g.records, WellFormed c.2.1 := by
  simp only [Globals.records, List.forall_mem_cons, List.not_mem_nil, false_implies, implies_true,
    and_true]
  exact ⟨StringTemplate.wellFormed _ hs.type0 (stringFields_biosInfoType0 env.pcds) hn.biosInfoType0Strings,
    StringTemplate.wellFormed _ hs.type1 (of_decide_eq_true rfl) hn.sysInfoType1Strings,
    StringTemplate.wellFormed _ isTemplate_mEnclosureInfoType3.stringTemplate (of_decide_eq_true rfl)
      hn.enclosureInfoType3Strings,
    StringTemplate.wellFormed _ hs.type2 (of_decide_eq_true rfl) hn.boardInfoType2Strings,
    StringTemplate.wellFormed _ isTemplate_mCacheInfoType7_L1I.stringTemplate (by decide) (by decide),
    StringTemplate.wellFormed _ isTemplate_mCacheInfoType7_L1D.stringTemplate (by decide) (by decide),
    StringTemplate.wellFormed _ isTemplate_mCacheInfoType7_L2.stringTemplate (by decide) (by decide),
    StringTemplate.wellFormed _ hs.type4 (of_decide_eq_true rfl) hn.processorInfoType4Strings,
    StringTemplate.wellFormed _ isTemplate_mSysSlotInfoType9.stringTemplate (by decide) (by decide),
    StringTemplate.wellFormed _ isTemplate_mOemStringsType11.stringTemplate (of_decide_eq_true rfl)
      hn.oemStringsType11Strings,
    StringTemplate.wellFormed _ hshaped.type16.stringTemplate (fun _ h => absurd h (List.not_mem_nil _))
      (by decide),
    StringTemplate.wellFormed _ hs.type17 (of_decide_eq_true rfl) hn.memDevInfoType17Strings,
    StringTemplate.wellFormed _ hshaped.type19.stringTemplate (fun _ h => absurd h (List.not_mem_nil _))
      (by decide),
    StringTemplate.wellFormed _ isTemplate_mBootInfoType32.stringTemplate (by decide) (by decide)⟩

end Records

/-- For every platform whose external strings are usable and every behaviour of the firmware,
every record the run hands to `Add` is a well-formed SMBIOS structure: a reader takes it apart
into its formatted area and exactly the strings after it, and every string number of its
formatted area, Type 11's `StringCount` included, names one of them. -/
theorem platformSmbiosDriverEntryPoint_wellFormed (env : Env) (fw : Firmware) (husable : env.Usable) :
    ∃ g trace, platformSmbiosDriverEntryPoint env fw = .ok (.success, g, trace) ∧
      ∀ record ∈ trace.filterMap Event.addedRecord, WellFormed record := by
  obtain ⟨g, hrun, hshaped, hafter, hstaged⟩ := platformSmbiosDriverEntryPoint_globals env fw
  refine ⟨g, _, hrun, fun record hrecord => ?_⟩
  obtain ⟨c, hc, rfl⟩ := List.mem_map.mp ((addedRecords_logCalls_sublist fw 0 g.records).subset hrecord)
  exact g.records_wellFormed hstaged hshaped (hstaged.stringsNonempty hafter husable) c hc

/-- The sample board with a product URL. -/
def usableBoard : Env := { sampleBoard with pcdProductUrl := ⟨ascii "Rockchip RK3568", by decide⟩ }

theorem platformSmbiosDriverEntryPoint_wellFormed_usableBoard :
    usableBoard.Usable ∧ ∃ g trace, platformSmbiosDriverEntryPoint usableBoard acceptingFirmware =
        .ok (.success, g, trace) ∧ ∀ record ∈ trace.filterMap Event.addedRecord, WellFormed record :=
  have husable : usableBoard.Usable := ⟨⟨by decide, by decide⟩, ⟨by decide, by decide⟩,
    ⟨by decide, by decide⟩, ⟨by decide, by decide⟩, ⟨by decide, by decide⟩, by decide,
    ⟨by decide, by decide⟩, ⟨by decide, by decide⟩⟩
  ⟨husable, platformSmbiosDriverEntryPoint_wellFormed usableBoard acceptingFirmware husable⟩

end PlatformSmbios
