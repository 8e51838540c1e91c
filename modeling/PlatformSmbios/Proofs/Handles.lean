import PlatformSmbios.Proofs.Run

/-!
# Handles of other records

Four records point at others by handle: Type 2 at the enclosure, Type 4 at its L1 data and L2
caches, Type 17 and Type 19 at the memory array.  The builder of the record pointed at passes
a local `SMBIOS_HANDLE` to `LogSmbiosData`, which writes it only when `Add` succeeds, and stores
the local into the pointing record whatever happened.  So a pointer is the right handle when
its record got in, and otherwise whatever the local held: nothing written for Type 3 and
Type 16, and for the L2 cache the handle the L1 data cache call left in the same local.

`platformSmbiosDriverEntryPoint_backReferences` is the first half, for every run and every
field of `backReferences`, read off the `Add`s of the trace (`callAdds`);
`l2CacheHandle_of_l2_not_registered` is the L2 case of the second.
-/

namespace PlatformSmbios

/-- The record of the L1 data cache. -/
def l1DataCacheRecord : List UInt8 := mCacheInfoType7_L1D ++ stringSet mCacheInfoType7Strings_L1D

/-- When the L1 data cache record gets into the table under handle `h` and the L2 record does
not, the `L2CacheHandle` of the Type 4 record is `h`: it points at the L1 data cache record,
which is in the table, and so is the Type 4 record whenever the firmware accepts it. -/
theorem l2CacheHandle_of_l2_not_registered (env : Env) (fw : Firmware)
    (hl1d : fw.accepts 5 l1DataCacheRecord = true)
    (hl2 : fw.accepts 6 (mCacheInfoType7_L2 ++ stringSet mCacheInfoType7Strings_L2) = false) :
    ∃ g trace, platformSmbiosDriverEntryPoint env fw = .ok (.success, g, trace) ∧
      readField (g.mProcessorInfoType4 ++ stringSet g.processorInfoType4Strings) 0x1C 2 =
        (fw.add 5 l1DataCacheRecord).2.toNat ∧
      ((fw.add 5 l1DataCacheRecord).2, l1DataCacheRecord) ∈ registered trace ∧
      (fw.accepts 7 (g.mProcessorInfoType4 ++ stringSet g.processorInfoType4Strings) = true →
        ((fw.add 7 (g.mProcessorInfoType4 ++ stringSet g.processorInfoType4Strings)).2,
          g.mProcessorInfoType4 ++ stringSet g.processorInfoType4Strings) ∈ registered trace) := by
  unfold l1DataCacheRecord at *
  obtain ⟨g, hrun, hs, ha⟩ := platformSmbiosDriverEntryPoint_eq env fw
  refine ⟨g, _, hrun, ?_, mem_registered_logCalls fw g.records 5 rfl hl1d,
    mem_registered_logCalls fw g.records 7 rfl⟩
  rw [readField_append _ (by rw [hs.type4.length_eq]; decide), ha.l2CacheHandle]
  simp [writtenHandle, Globals.records, written_logCall, hl1d, hl2]

theorem l2CacheHandle_of_l2_not_registered_sample :
    (rejectingFirmware (· == 6)).accepts 5 l1DataCacheRecord = true ∧
      (rejectingFirmware (· == 6)).accepts 6
        (mCacheInfoType7_L2 ++ stringSet mCacheInfoType7Strings_L2) = false ∧
      ∃ g trace, platformSmbiosDriverEntryPoint sampleBoard (rejectingFirmware (· == 6)) =
          .ok (.success, g, trace) ∧
        readField (g.mProcessorInfoType4 ++ stringSet g.processorInfoType4Strings) 0x1C 2 =
          ((rejectingFirmware (· == 6)).add 5 l1DataCacheRecord).2.toNat ∧
        (((rejectingFirmware (· == 6)).add 5 l1DataCacheRecord).2, l1DataCacheRecord) ∈
          registered trace ∧
        ((rejectingFirmware (· == 6)).accepts 7
            (g.mProcessorInfoType4 ++ stringSet g.processorInfoType4Strings) = true →
          (((rejectingFirmware (· == 6)).add 7
              (g.mProcessorInfoType4 ++ stringSet g.processorInfoType4Strings)).2,
            g.mProcessorInfoType4 ++ stringSet g.processorInfoType4Strings) ∈ registered trace) :=
  ⟨rfl, rfl, l2CacheHandle_of_l2_not_registered sampleBoard _ rfl rfl⟩

/-- The handle fields of a run: the call whose record holds one, the field's offset, and the
call whose record it points at. -/
def backReferences : List (Nat × Nat × Nat) :=
  [(3, 0x0B, 2),    -- Type 2 ChassisHandle: the enclosure
    (7, 0x1A, 5),   -- Type 4 L1CacheHandle: the L1 data cache
    (7, 0x1C, 6),   -- Type 4 L2CacheHandle: the L2 cache
    (11, 0x04, 10), -- Type 17 MemoryArrayHandle: the memory array
    (12, 0x0C, 10)] -- Type 19 MemoryArrayHandle: the memory array

section BackReferences

variable {env : Env} {fw : Firmware} {g : Globals}

/-- In the records of a run, each handle field holds the handle `Add` gave the record it points
at, whenever the firmware accepts that record. -/
theorem Globals.AfterRun.readField_backReferences (ha : g.AfterRun env fw) (hs : g.Shaped)
    {r : Nat × Nat × Nat} (hr : r ∈ backReferences) {holder target : UInt8 × List UInt8 × Bool}
    (hholder : g.records[r.1]? = some holder) (htarget : g.records[r.2.2]? = some target)
    (haccept : fw.accepts r.2.2 target.2.1 = true) :
    readField holder.2.1 r.2.1 2 = (fw.add r.2.2 target.2.1).2.toNat := by
  simp only [backReferences, List.mem_cons, List.not_mem_nil, or_false] at hr
  rcases hr with rfl | rfl | rfl | rfl | rfl <;> obtain rfl := Option.some.inj hholder <;>
    obtain rfl := Option.some.inj htarget <;>
    dsimp only [Globals.records, List.getElem_cons_succ, List.getElem_cons_zero] at haccept ⊢
  · rw [readField_append _ (by rw [hs.type2.length_eq]; decide), ha.chassisHandle, writtenHandle_two,
      written_logCall, haccept]
    rfl
  · rw [readField_append _ (by rw [hs.type4.length_eq]; decide), ha.l1CacheHandle, writtenHandle_five,
      written_logCall, haccept]
    rfl
  · rw [readField_append _ (by rw [hs.type4.length_eq]; decide), ha.l2CacheHandle, writtenHandle_six,
      written_logCall, haccept]
    rfl
  · rw [readField_append _ (by rw [hs.type17.length_eq]; decide), ha.memDevArrayHandle,
      writtenHandle_ten, written_logCall, haccept]
    rfl
  · rw [readField_append _ (by rw [hs.type19.length_eq]; decide), ha.memArrMapArrayHandle,
      writtenHandle_ten, written_logCall, haccept]
    rfl

end BackReferences

/-- For every platform and every behaviour of the firmware, each handle field of the records a
run hands to `Add` points at its record whenever the registry took that record: once the trace
shows `Add` accepting the record pointed at under a handle, that record is in the table under
it, the record that points holds it in its field, and its `Add` comes later in the trace. -/
theorem platformSmbiosDriverEntryPoint_backReferences (env : Env) (fw : Firmware) :
    ∃ g trace, platformSmbiosDriverEntryPoint env fw = .ok (.success, g, trace) ∧
      ∀ r ∈ backReferences, ∀ target handle,
        (r.2.2, target, EfiStatus.success, handle) ∈ callAdds 0 trace →
          (handle, target) ∈ registered trace ∧
          ∀ holder status handle', (r.1, holder, status, handle') ∈ callAdds 0 trace →
            readField holder r.2.1 2 = handle.toNat ∧
            [(r.2.2, target, EfiStatus.success, handle), (r.1, holder, status, handle')].Sublist
              (callAdds 0 trace) := by
  obtain ⟨g, hrun, hs, ha⟩ := platformSmbiosDriverEntryPoint_eq env fw
  have horder : ∀ r ∈ backReferences, r.2.2 < r.1 := by decide
  refine ⟨g, _, hrun, fun r hr target handle htarget => ⟨mem_registered_of_mem_callAdds htarget,
    fun holder status handle' hholder => ⟨?_, pair_sublist_callAdds_logCalls fw 0 g.records htarget
      hholder (horder r hr)⟩⟩⟩
  obtain ⟨ct, hct, rfl, hlocate, halloc, hadd⟩ := mem_callAdds_logCalls fw g.records htarget
  obtain ⟨ch, hch, rfl, -⟩ := mem_callAdds_logCalls fw g.records hholder
  have haccept : fw.accepts r.2.2 ct.2.1 = true := by simp [Firmware.accepts, hlocate, halloc, hadd]
  rw [ha.readField_backReferences hs hr hch hct haccept, hadd]

end PlatformSmbios
