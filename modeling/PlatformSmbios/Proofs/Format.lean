import PlatformSmbios.Proofs.Builders

/-!
# An SMBIOS structure as a table reader takes it

A reader of the SMBIOS table walks each structure by its header: `Length` bytes of formatted
area, then NUL-terminated strings up to a double NUL (`decodeRecord`), and it resolves a
string-number field `k ≠ 0` to the `k`-th of those strings.  `WellFormed` says that a record
can be read so: its header covers at least itself and lies inside the record, everything after
the formatted area is exactly the string-set of the strings a reader finds there (no empty
string cutting the set short, nothing after the double NUL), and every string-number field of
its type lies in the formatted area and names one of those strings.

`StringTemplate.wellFormed`: a template followed by the string-set of a pack of non-empty
strings is well formed as soon as its string-number fields stay within the pack, and
`StringTemplate.resolveString_append` names the string of the pack each field resolves to.  A store
that misses every string-number field leaves them as the original template has them
(`StringTemplate.writeField`), and the stores of the topic builders all do.
-/

namespace PlatformSmbios

/-! ## Reading a record -/

/-- The string-set of `strings`: each string with its NUL, then one more NUL; a double NUL when
there are none. -/
def encodeStrings (strings : List (List UInt8)) : List UInt8 :=
  (strings.map fun s => s ++ [0]).flatten ++ if strings.isEmpty then [0, 0] else [0]

theorem stringSet_eq_encodeStrings (pack : List (CStr UInt8)) :
    stringSet pack = encodeStrings (pack.map CStr.chars) := by
  cases pack <;> simp [stringSet, encodeStrings, Function.comp_def]

/-- The offsets of the string-number fields of the structures the driver logs, from the
`SMBIOS_TABLE_TYPEn` definitions of `IndustryStandard/SmBios.h`.  Type 11's `StringCount`
counts the strings, so every string number up to it has to resolve as well. -/
def stringNumberFields (type : UInt8) : List Nat :=
  match type.toNat with
  | 0 => [0x04, 0x05, 0x08]                      -- Vendor, BiosVersion, BiosReleaseDate
  | 1 => [0x04, 0x05, 0x06, 0x07, 0x19, 0x1A]    -- Manufacturer to SerialNumber, SKUNumber, Family
  | 2 => [0x04, 0x05, 0x06, 0x07, 0x08, 0x0A]    -- Manufacturer to AssetTag, LocationInChassis
  | 3 => [0x04, 0x06, 0x07, 0x08]                -- Manufacturer, Version, SerialNumber, AssetTag
  | 4 => [0x04, 0x07, 0x10, 0x20, 0x21, 0x22]    -- Socket, ProcessorManufacturer,
                                                 -- ProcessorVersion, SerialNumber, AssetTag, PartNumber
  | 7 => [0x04]                                  -- SocketDesignation
  | 9 => [0x04]                                  -- SlotDesignation
  | 11 => [0x04]                                 -- StringCount
  | 17 => [0x10, 0x11, 0x17, 0x18, 0x19, 0x1A, 0x2B]  -- DeviceLocator, BankLocator, Manufacturer,
                                                 -- SerialNumber, AssetTag, PartNumber, FirmwareVersion
  | _ => []

/-- A record a reader can take apart: a header that covers itself and lies inside the record,
a string-set after the formatted area that is exactly the strings a reader finds in it, and
string-number fields inside the formatted area that name found strings. -/
structure WellFormed (record : List UInt8) : Prop where
  header_le : 4 ≤ (record.getD 1 0).toNat
  length_le : (record.getD 1 0).toNat ≤ record.length
  strings_eq : record.drop (record.getD 1 0).toNat = encodeStrings (decodeRecord record).2
  stringFields_le : ∀ off ∈ stringNumberFields (record.getD 0 0),
    off < (record.getD 1 0).toNat ∧ readField record off 1 ≤ (decodeRecord record).2.length

/-- String number `k` of a record's strings; `0` names none. -/
def stringNumber (strings : List (List UInt8)) : Nat → Option (List UInt8)
  | 0 => none
  | k + 1 => strings[k]?

/-- The string a reader finds for the string-number field at offset `off` of a record. -/
def resolveString (record : List UInt8) (off : Nat) : Option (List UInt8) :=
  stringNumber (decodeRecord record).2 (readField record off 1)

instance : DecidablePred WellFormed := fun record =>
  decidable_of_iff (4 ≤ (record.getD 1 0).toNat ∧ (record.getD 1 0).toNat ≤ record.length ∧
      record.drop (record.getD 1 0).toNat = encodeStrings (decodeRecord record).2 ∧
      ∀ off ∈ stringNumberFields (record.getD 0 0),
        off < (record.getD 1 0).toNat ∧ readField record off 1 ≤ (decodeRecord record).2.length)
    ⟨fun ⟨a, b, c, d⟩ => ⟨a, b, c, d⟩, fun ⟨a, b, c, d⟩ => ⟨a, b, c, d⟩⟩

/-! ## Templates followed by their strings -/

/-- A template of type `type` and `n` bytes whose string-number fields hold those of
`template`. -/
structure StringTemplate (bytes template : List UInt8) (type : UInt8) (n : Nat)
    extends IsTemplate bytes type n : Prop where
  stringFields_eq : ∀ off ∈ stringNumberFields type, readField bytes off 1 = readField template off 1

theorem IsTemplate.stringTemplate {bytes : List UInt8} {type : UInt8} {n : Nat}
    (h : IsTemplate bytes type n) : StringTemplate bytes bytes type n :=
  ⟨h, fun _ _ => rfl⟩

section StringTemplate

variable {bytes template : List UInt8} {type : UInt8} {n : Nat}

/-- A store after the header that misses every string-number field keeps them. -/
theorem StringTemplate.writeField (h : StringTemplate bytes template type n) (off width value : Nat)
    (hoff : 2 ≤ off) (hfield : off + width ≤ n)
    (hmiss : ∀ f ∈ stringNumberFields type, f + 1 ≤ off ∨ off + width ≤ f) :
    StringTemplate (PlatformSmbios.writeField bytes off width value) template type n where
  toIsTemplate := h.toIsTemplate.writeField off width value hoff hfield
  stringFields_eq f hf := by
    rw [readField_writeField_of_disjoint (h.length_eq ▸ hfield) value (hmiss f hf)]
    exact h.stringFields_eq f hf

/-- The end of the version scan stores at most the two release bytes. -/
theorem StringTemplate.setBiosRelease (h : StringTemplate bytes template 0 0x1A) (st : ScanState) :
    StringTemplate (PlatformSmbios.setBiosRelease st bytes) template 0 0x1A := by
  unfold PlatformSmbios.setBiosRelease
  split
  · exact (h.writeField 0x14 1 _ (by omega) (by omega) (by decide)).writeField 0x15 1 _ (by omega)
      (by omega) (by decide)
  · exact h

variable {pack : List (CStr UInt8)}

theorem StringTemplate.getD_one_append (h : StringTemplate bytes template type n) :
    ((bytes ++ stringSet pack).getD 1 0).toNat = n := by
  rw [List.getD_append _ _ _ _ (by have := h.header_le; rw [h.length_eq]; omega), h.header_eq]

/-- A reader finds the pack's strings after the template. -/
theorem StringTemplate.decodeRecord_snd (h : StringTemplate bytes template type n)
    (hpack : ∀ s ∈ pack, s.chars ≠ []) :
    (decodeRecord (bytes ++ stringSet pack)).2 = pack.map CStr.chars := by
  simp only [decodeRecord, h.getD_one_append, ← h.length_eq, List.drop_left,
    decodeStrings_stringSet hpack]

/-- A template followed by the string-set of non-empty strings, whose string-number fields
name at most as many strings as there are, is a well-formed record: a reader gets the
template's bytes and the strings back, and every string number resolves. -/
theorem StringTemplate.wellFormed (pack : List (CStr UInt8)) (h : StringTemplate bytes template type n)
    (hfields : ∀ off ∈ stringNumberFields type, off < n ∧ readField template off 1 ≤ pack.length)
    (hpack : ∀ s ∈ pack, s.chars ≠ []) : WellFormed (bytes ++ stringSet pack) := by
  have hlen : ((bytes ++ stringSet pack).getD 1 0).toNat = n := h.getD_one_append
  refine ⟨hlen ▸ h.header_le, by rw [hlen, List.length_append, h.length_eq]; omega, ?_, ?_⟩
  · rw [h.decodeRecord_snd hpack, hlen, ← h.length_eq, List.drop_left, stringSet_eq_encodeStrings]
  · rw [h.getD_zero_append, hlen, h.decodeRecord_snd hpack, List.length_map]
    intro off hoff
    obtain ⟨hlt, hle⟩ := hfields off hoff
    refine ⟨hlt, ?_⟩
    rw [readField_append _ (by rw [h.length_eq]; omega), h.stringFields_eq off hoff]
    exact hle

/-- A string-number field of the template resolves to the string of the pack it names. -/
theorem StringTemplate.resolveString_append (h : StringTemplate bytes template type n)
    (hpack : ∀ s ∈ pack, s.chars ≠ []) {off : Nat} (hoff : off ∈ stringNumberFields type)
    (hlt : off < n) :
    resolveString (bytes ++ stringSet pack) off =
      stringNumber (pack.map CStr.chars) (readField template off 1) := by
  rw [PlatformSmbios.resolveString, h.decodeRecord_snd hpack,
    readField_append _ (by rw [h.length_eq]; omega), h.stringFields_eq off hoff]

/-- Fields of the template that each name the string listed beside them resolve so. -/
theorem StringTemplate.forall_resolveString (h : StringTemplate bytes template type n)
    (hpack : ∀ s ∈ pack, s.chars ≠ []) {fields : List (Nat × List UInt8)}
    (hfields : ∀ f ∈ fields, f.1 ∈ stringNumberFields type ∧ f.1 < n ∧
      stringNumber (pack.map CStr.chars) (readField template f.1 1) = some f.2) :
    ∀ f ∈ fields, resolveString (bytes ++ stringSet pack) f.1 = some f.2 := fun f hf =>
  have ⟨hoff, hlt, hname⟩ := hfields f hf
  (h.resolveString_append hpack hoff hlt).trans hname

end StringTemplate

/-- The OEM-strings record with an empty product URL is not: its `StringCount` of 1 names a
string a reader does not find. -/
example : ¬ WellFormed (mOemStringsType11 ++ [0, 0]) := by decide

example : WellFormed (mCacheInfoType7_L2 ++ stringSet mCacheInfoType7Strings_L2) := by decide

end PlatformSmbios
