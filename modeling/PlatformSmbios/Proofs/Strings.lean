import PlatformSmbios.Proofs.Run

/-!
# The strings of the records

The builders stage external strings into zero-initialised buffers with the safe copies, which
leave a buffer alone when the source does not fit, and the string arrays point at the buffers.
Only the enclosure asset tag gets a default (a blank, "SMBIOS referenced strings cannot be
NULL").  An empty product URL therefore reaches the OEM-strings record as an empty string: the
record's string-set is a bare double NUL, which a reader takes for no strings at all, while the
record's `StringCount` says one.
-/

namespace PlatformSmbios

/-- With `PcdProductUrl` empty, the OEM-strings record of the run is the template followed by
a double NUL: it decodes to no strings, though its `StringCount` is 1, and it is in the table
whenever the firmware accepts it. -/
theorem oemStringsRecord_of_empty_productUrl (env : Env) (fw : Firmware)
    (hurl : env.pcdProductUrl.chars = []) :
    ∃ g trace, platformSmbiosDriverEntryPoint env fw = .ok (.success, g, trace) ∧
      mOemStringsType11 ++ stringSet g.oemStringsType11Strings = mOemStringsType11 ++ [0, 0] ∧
      readField mOemStringsType11 4 1 = 1 ∧
      decodeRecord (mOemStringsType11 ++ [0, 0]) = (mOemStringsType11, []) ∧
      (fw.accepts 9 (mOemStringsType11 ++ [0, 0]) = true →
        ((fw.add 9 (mOemStringsType11 ++ [0, 0])).2, mOemStringsType11 ++ [0, 0]) ∈
          registered trace) := by
  obtain ⟨g, hrun, -, ha⟩ := platformSmbiosDriverEntryPoint_eq env fw
  have hrecord : mOemStringsType11 ++ stringSet g.oemStringsType11Strings =
      mOemStringsType11 ++ [0, 0] := by
    simp [Globals.oemStringsType11Strings, ha.productUrl, asciiStrCpyS, safeStrCopy, CStr.len,
      hurl, CStr.ofBuffer, cString, stringSet]
  refine ⟨g, _, hrun, hrecord, rfl, by decide, fun haccept => ?_⟩
  rw [← hrecord] at haccept ⊢
  exact mem_registered_logCalls fw g.records 9 rfl haccept

theorem oemStringsRecord_of_empty_productUrl_sample :
    sampleBoard.pcdProductUrl.chars = [] ∧
      ∃ g trace, platformSmbiosDriverEntryPoint sampleBoard acceptingFirmware =
          .ok (.success, g, trace) ∧
        mOemStringsType11 ++ stringSet g.oemStringsType11Strings = mOemStringsType11 ++ [0, 0] ∧
        readField mOemStringsType11 4 1 = 1 ∧
        decodeRecord (mOemStringsType11 ++ [0, 0]) = (mOemStringsType11, []) ∧
        (acceptingFirmware.accepts 9 (mOemStringsType11 ++ [0, 0]) = true →
          ((acceptingFirmware.add 9 (mOemStringsType11 ++ [0, 0])).2, mOemStringsType11 ++ [0, 0]) ∈
            registered trace) :=
  ⟨rfl, oemStringsRecord_of_empty_productUrl sampleBoard acceptingFirmware rfl⟩

end PlatformSmbios
