import PlatformSmbios.Driver.LogSmbiosData

/-!
# What `LogSmbiosData` hands to `Add`

For a template whose `Length` byte gives its formatted area and a non-`NULL` pack, the record
is the formatted area followed by the pack's string-set (`stringSet`), it fills the buffer
the sizing loop allocated exactly, and a reader takes the formatted area and the strings back
out of it (`logSmbiosData_record`).  A call is then described without its buffer work by
`logCall`, which is what the topic builders are reasoned about with (`logSmbiosData_eq`).
With a `NULL` pack the sizing loop counts a double NUL, but the copying loop reads
`StringPack[0]` (`logSmbiosData_null`).

## Strategy

The record is built in three stores into a zeroed buffer: the formatted area, the strings,
and a NUL.  Each store overwrites a stretch of zeros of its own length (`copyMem_append`), so
after each the record is the stores so far followed by zeros; `copyPack_eq` does the string
loop by induction on the pack.  Decoding goes through `List.splitOn_intercalate`: the
string-set is the strings and two empty strings joined by NULs.
-/

namespace PlatformSmbios

/-! ## Templates and string-sets -/

/-- A fixed SMBIOS structure in memory: its `Length` byte covers at least the four-byte
header, and the formatted area it gives lies within the structure. -/
structure SmbiosTemplate where
  bytes : List UInt8
  header_le : 4 ≤ (bytes.getD 1 0).toNat
  length_le : (bytes.getD 1 0).toNat ≤ bytes.length

/-- `Template->Length`. -/
def SmbiosTemplate.length (t : SmbiosTemplate) : Nat := (t.bytes.getD 1 0).toNat

/-- The formatted area: the first `Length` bytes. -/
def SmbiosTemplate.formatted (t : SmbiosTemplate) : List UInt8 := t.bytes.take t.length

theorem SmbiosTemplate.length_formatted (t : SmbiosTemplate) : t.formatted.length = t.length :=
  List.length_take_of_le t.length_le

theorem SmbiosTemplate.one_lt_length (t : SmbiosTemplate) : 1 < t.length := by
  have := t.header_le; unfold SmbiosTemplate.length; omega

/-- The string-set of a pack: every string with its NUL, then one more NUL; for an empty pack,
a double NUL. -/
def stringSet (pack : List (CStr UInt8)) : List UInt8 :=
  (pack.map fun s => s.chars ++ [0]).flatten ++ if pack.isEmpty then [0, 0] else [0]

/-- A call of `LogSmbiosData` with a non-`NULL` pack, seen from outside, for the `n`-th call
of the run, a template of type `type`, and the record and buffer size it builds: the status,
the handle stored through `DataSmbiosHandle`, and the call's events. -/
def logCall (fw : Firmware) (n : Nat) (type : UInt8) (record : List UInt8) (dataSmbiosHandle : Bool) :
    EfiStatus × Option UInt16 × List Event :=
  let status := fw.locateProtocol n
  if status ≠ .success then (status, none, [.logSmbiosData type, .locateProtocol status]) else
  if !fw.allocateZeroPool n then
    (.outOfResources, none,
      [.logSmbiosData type, .locateProtocol status, .allocateZeroPool record.length false])
  else
    let (status, handle) := fw.add n record
    (status, if status = .success ∧ dataSmbiosHandle then some handle else none,
      [.logSmbiosData type, .locateProtocol .success, .allocateZeroPool record.length true,
        .add record status handle] ++ (if status = .success then [] else [.assertFailure]) ++
        [.freePool record.length])

@[simp] theorem callCount_nil : callCount [] = 0 := rfl

@[simp] theorem callCount_append (a b : List Event) : callCount (a ++ b) = callCount a + callCount b :=
  List.countP_append _ _ _

/-- Every call enters `LogSmbiosData` once. -/
@[simp] theorem callCount_append_logCall (fw : Firmware) (n : Nat) (type : UInt8)
    (record : List UInt8) (dataSmbiosHandle : Bool) (trace : List Event) :
    callCount (trace ++ (logCall fw n type record dataSmbiosHandle).2.2) = callCount trace + 1 := by
  unfold callCount logCall
  by_cases h : fw.locateProtocol n = .success <;> by_cases h' : fw.allocateZeroPool n <;>
    simp [h, h', Event.isCall]

@[simp] theorem callCount_logCall (fw : Firmware) (n : Nat) (type : UInt8) (record : List UInt8)
    (dataSmbiosHandle : Bool) : callCount (logCall fw n type record dataSmbiosHandle).2.2 = 1 := by
  simpa using callCount_append_logCall fw n type record dataSmbiosHandle []

/-! ## Sizes -/

theorem foldl_size (pack : List (CStr UInt8)) (size : Nat) :
    pack.foldl (fun size s => size + s.size) size = size + (pack.map CStr.size).sum := by
  induction pack generalizing size with
  | nil => rfl
  | cons s pack ih => simp only [List.foldl_cons, ih, List.map_cons, List.sum_cons]; omega

theorem length_flatten_pack (pack : List (CStr UInt8)) :
    (pack.map fun s => s.chars ++ [0]).flatten.length = (pack.map CStr.size).sum := by
  induction pack with
  | nil => rfl
  | cons s pack ih => simp [ih, CStr.size]; omega

theorem recordSize_some (length : Nat) (pack : List (CStr UInt8)) :
    recordSize length (some pack) =
      length + (pack.map CStr.size).sum + if pack.isEmpty then 2 else 1 := by
  simp only [recordSize, foldl_size]
  split <;> omega

theorem length_stringSet (pack : List (CStr UInt8)) :
    (stringSet pack).length = (pack.map CStr.size).sum + if pack.isEmpty then 2 else 1 := by
  simp only [stringSet, List.length_append, length_flatten_pack]
  split <;> rfl

/-! ## The stores -/

/-- The string loop writes the strings over the zeros after the formatted area. -/
theorem copyPack_eq (pack : List (CStr UInt8)) (pre : List UInt8) (k : Nat)
    (hk : (pack.map CStr.size).sum ≤ k) :
    copyPack pack (pre ++ List.replicate k 0) pre.length =
      .ok (pre ++ (pack.map fun s => s.chars ++ [0]).flatten ++
          List.replicate (k - (pack.map CStr.size).sum) 0,
        pre.length + (pack.map CStr.size).sum) := by
  induction pack generalizing pre k with
  | nil => simp [copyPack]
  | cons s pack ih =>
      simp only [List.map_cons, List.sum_cons] at hk ⊢
      have hsplit : List.replicate k (0 : UInt8) =
          List.replicate s.size 0 ++ List.replicate (k - s.size) 0 := by
        rw [← List.replicate_add]; congr 1; omega
      have hs : (s.chars ++ [0]).length = (List.replicate s.size (0 : UInt8)).length := by
        simp [CStr.size]
      rw [copyPack, hsplit, ← List.append_assoc, copyMem_append hs, ok_bind,
        show pre.length + s.size = (pre ++ (s.chars ++ [0])).length by simp [CStr.size],
        ih _ _ (by omega)]
      simp only [List.flatten_cons, List.append_assoc, List.length_append, Nat.sub_sub,
        Nat.add_assoc, CStr.size, List.length_singleton]

/-- The record of a call with a non-`NULL` pack, and the call itself seen from outside. -/
theorem logSmbiosData_eq (fw : Firmware) (t : SmbiosTemplate) (pack : List (CStr UInt8))
    (dataSmbiosHandle : Bool) (trace : List Event) :
    logSmbiosData fw t.bytes (some pack) dataSmbiosHandle trace =
      let (status, written, events) := logCall fw (callCount trace) (t.bytes.getD 0 0)
        (t.formatted ++ stringSet pack) dataSmbiosHandle
      .ok (status, written, trace ++ events) := by
  have hF := t.length_formatted
  have h1 := t.one_lt_length
  have hS := length_stringSet pack
  have hsize : recordSize t.length (some pack) = (t.formatted ++ stringSet pack).length := by
    rw [recordSize_some, List.length_append, hF, hS, Nat.add_assoc]
  have hzero : copyMem (List.replicate (t.formatted ++ stringSet pack).length 0) 0 t.formatted =
      .ok (t.formatted ++ List.replicate (stringSet pack).length 0) := by
    rw [copyMem_of_le (by simp)]
    simp [List.drop_replicate]
  have hstr (k : Nat) : ((t.formatted ++ List.replicate k 0).getD 1 0).toNat = t.formatted.length := by
    rw [List.getD_eq_getElem?_getD, List.getElem?_append_left (by omega), hF,
      SmbiosTemplate.formatted, List.getElem?_take_of_lt h1, ← List.getD_eq_getElem?_getD]
    rfl
  have hpack := copyPack_eq pack t.formatted (stringSet pack).length (by rw [hS]; omega)
  have hnul : copyMem (t.formatted ++ (pack.map fun s => s.chars ++ [0]).flatten ++
      List.replicate ((stringSet pack).length - (pack.map CStr.size).sum) 0)
      (t.formatted.length + (pack.map CStr.size).sum) [0] = .ok (t.formatted ++ stringSet pack) := by
    rw [show t.formatted.length + (pack.map CStr.size).sum =
      (t.formatted ++ (pack.map fun s => s.chars ++ [0]).flatten).length by
        rw [List.length_append, length_flatten_pack], hS, stringSet]
    split
    · rw [show (pack.map CStr.size).sum + 2 - (pack.map CStr.size).sum = 2 by omega,
        show List.replicate 2 (0 : UInt8) = [0] ++ [0] from rfl, ← List.append_assoc,
        copyMem_append rfl]
      simp
    · rw [show (pack.map CStr.size).sum + 1 - (pack.map CStr.size).sum = 1 by omega,
        show List.replicate 1 (0 : UInt8) = [0] ++ [] from rfl, ← List.append_assoc,
        copyMem_append rfl]
      simp
  have hread : readMem t.bytes t.length = .ok t.formatted := readMem_of_le t.length_le
  simp only [logSmbiosData, logCall, show (t.bytes.getD 1 0).toNat = t.length from rfl, hsize,
    hread, ok_bind, hzero, hstr, hpack, hnul]
  by_cases h : fw.locateProtocol (callCount trace) = .success
  · by_cases h' : fw.allocateZeroPool (callCount trace) = true
    · by_cases ha : (fw.add (callCount trace) (t.formatted ++ stringSet pack)).1 = .success <;>
        simp [h, h', ha, assertE]
    · simp [h, h']
  · simp [h]

/-! ## Reading the record back -/

theorem intercalate_cons {α : Type} (sep a : List α) {l : List (List α)} (hl : l ≠ []) :
    sep.intercalate (a :: l) = a ++ sep ++ sep.intercalate l := by
  obtain ⟨b, l, rfl⟩ := List.exists_cons_of_ne_nil hl
  simp [List.intercalate, List.intersperse_cons_cons]

/-- The strings with their NULs and one more NUL are the strings and two empty ones joined by
NULs. -/
theorem flatten_pack_eq_intercalate (pack : List (CStr UInt8)) :
    (pack.map fun s => s.chars ++ [0]).flatten ++ [0] =
      [0].intercalate (pack.map CStr.chars ++ [[], []]) := by
  induction pack with
  | nil => rfl
  | cons s pack ih =>
      rw [List.map_cons, List.flatten_cons, List.map_cons, List.cons_append,
        intercalate_cons _ _ (by simp), ← ih]
      simp

theorem decodeStrings_stringSet {pack : List (CStr UInt8)} (hpack : ∀ s ∈ pack, s.chars ≠ []) :
    decodeStrings (stringSet pack) = pack.map CStr.chars := by
  cases hp : pack.isEmpty
  · rw [decodeStrings, stringSet, hp, if_neg Bool.false_ne_true, flatten_pack_eq_intercalate,
      List.splitOn_intercalate _ _ ?_ (by simp), List.takeWhile_append_of_pos ?_]
    · simp
    · simpa using hpack
    · intro l hl
      simp only [List.mem_append, List.mem_map, List.mem_cons, List.mem_singleton] at hl
      rcases hl with ⟨s, -, rfl⟩ | rfl | rfl | h
      exacts [s.nul_free, List.not_mem_nil _, List.not_mem_nil _, absurd h (List.not_mem_nil _)]
  · rw [List.isEmpty_iff.mp hp]
    rfl

theorem getD_formatted_append (t : SmbiosTemplate) (rest : List UInt8) :
    (t.formatted ++ rest).getD 1 0 = t.bytes.getD 1 0 := by
  rw [List.getD_eq_getElem?_getD,
    List.getElem?_append_left (t.length_formatted ▸ t.one_lt_length), SmbiosTemplate.formatted,
    List.getElem?_take_of_lt t.one_lt_length, ← List.getD_eq_getElem?_getD]

theorem decodeRecord_formatted_append (t : SmbiosTemplate) (rest : List UInt8) :
    decodeRecord (t.formatted ++ rest) = (t.formatted, decodeStrings rest) := by
  simp only [decodeRecord, getD_formatted_append, show (t.bytes.getD 1 0).toNat = t.length from rfl,
    ← t.length_formatted, List.take_left, List.drop_left]

/-! ## `LogSmbiosData` -/

/-- The firmware under which every call of `LogSmbiosData` gets through, the `n`-th record
being registered under handle `n + 1`. -/
def acceptingFirmware : Firmware :=
  ⟨fun _ => .success, fun _ => true, fun n _ => (.success, UInt16.ofNat (n + 1))⟩

/-- The Type 32 template of the driver, as a sample template. -/
def bootInfoTemplate : SmbiosTemplate := ⟨[32, 11, 0, 0, 0, 0, 0, 0, 0, 0, 0], by decide, by decide⟩

/-- The one-character string `"A"`. -/
def letterA : CStr UInt8 := ⟨[65], by decide⟩

/-- `LogSmbiosData` hands `Add` the template's formatted area followed by the string-set of
the pack, in a buffer of exactly the size its sizing loop computed, and a reader of that
record gets the formatted area and the strings back when no string is empty. -/
theorem logSmbiosData_record (fw : Firmware) (t : SmbiosTemplate) (pack : List (CStr UInt8))
    (dataSmbiosHandle : Bool) (trace : List Event)
    (hlocate : fw.locateProtocol (callCount trace) = .success)
    (hallocate : fw.allocateZeroPool (callCount trace) = true) :
    (∃ status written rest, logSmbiosData fw t.bytes (some pack) dataSmbiosHandle trace =
        .ok (status, written, trace ++ [.logSmbiosData (t.bytes.getD 0 0),
          .locateProtocol .success, .allocateZeroPool (recordSize t.length (some pack)) true,
          .add (t.formatted ++ stringSet pack) status
            (fw.add (callCount trace) (t.formatted ++ stringSet pack)).2] ++ rest)) ∧
      (t.formatted ++ stringSet pack).length = recordSize t.length (some pack) ∧
      recordSize t.length (some pack) =
        t.length + (pack.map CStr.size).sum + (if pack.isEmpty then 2 else 1) ∧
      ((∀ s ∈ pack, s.chars ≠ []) →
        decodeRecord (t.formatted ++ stringSet pack) = (t.formatted, pack.map CStr.chars)) := by
  have hsize : (t.formatted ++ stringSet pack).length = recordSize t.length (some pack) := by
    rw [recordSize_some, List.length_append, t.length_formatted, length_stringSet, Nat.add_assoc]
  refine ⟨?_, hsize, recordSize_some _ _, fun hpack => ?_⟩
  · rcases hadd : fw.add (callCount trace) (t.formatted ++ stringSet pack) with ⟨status, handle⟩
    refine ⟨status, if status = .success ∧ dataSmbiosHandle then some handle else none,
      (if status = .success then [] else [.assertFailure]) ++ [.freePool (recordSize t.length (some pack))], ?_⟩
    rw [logSmbiosData_eq]
    simp [logCall, hlocate, hallocate, hsize, hadd]
  · rw [decodeRecord_formatted_append, decodeStrings_stringSet hpack]

theorem logSmbiosData_record_letterA :
    acceptingFirmware.locateProtocol (callCount []) = .success ∧
      acceptingFirmware.allocateZeroPool (callCount []) = true ∧
      ((∃ status written rest, logSmbiosData acceptingFirmware bootInfoTemplate.bytes (some [letterA])
          true [] = .ok (status, written, [] ++ [.logSmbiosData (bootInfoTemplate.bytes.getD 0 0),
            .locateProtocol .success,
            .allocateZeroPool (recordSize bootInfoTemplate.length (some [letterA])) true,
            .add (bootInfoTemplate.formatted ++ stringSet [letterA]) status
              (acceptingFirmware.add (callCount [])
                (bootInfoTemplate.formatted ++ stringSet [letterA])).2] ++ rest)) ∧
        (bootInfoTemplate.formatted ++ stringSet [letterA]).length =
          recordSize bootInfoTemplate.length (some [letterA]) ∧
        recordSize bootInfoTemplate.length (some [letterA]) = bootInfoTemplate.length +
          ([letterA].map CStr.size).sum + (if [letterA].isEmpty then 2 else 1) ∧
        ((∀ s ∈ [letterA], s.chars ≠ []) →
          decodeRecord (bootInfoTemplate.formatted ++ stringSet [letterA]) =
            (bootInfoTemplate.formatted, [letterA].map CStr.chars))) :=
  ⟨rfl, rfl, logSmbiosData_record acceptingFirmware bootInfoTemplate [letterA] true [] rfl rfl⟩

/-- With a `NULL` pack the sizing loop sizes the record as for an empty pack, but the copying
loop reads `StringPack[0]`. -/
theorem logSmbiosData_null (fw : Firmware) (t : SmbiosTemplate) (dataSmbiosHandle : Bool)
    (trace : List Event) (hlocate : fw.locateProtocol (callCount trace) = .success)
    (hallocate : fw.allocateZeroPool (callCount trace) = true) :
    recordSize t.length none = recordSize t.length (some []) ∧
      logSmbiosData fw t.bytes none dataSmbiosHandle trace = .error .nullDereference := by
  have hread : readMem t.bytes t.length = .ok t.formatted := readMem_of_le t.length_le
  have hcopy : 0 + t.formatted.length ≤ (List.replicate (recordSize t.length none) (0 : UInt8)).length := by
    simp [recordSize, t.length_formatted]
  refine ⟨rfl, ?_⟩
  simp only [logSmbiosData, hlocate, hallocate, ne_eq, not_true_eq_false, if_false, Bool.not_true,
    Bool.false_eq_true, show (t.bytes.getD 1 0).toNat = t.length from rfl, hread, ok_bind,
    copyMem_of_le hcopy]

theorem logSmbiosData_null_bootInfo :
    acceptingFirmware.locateProtocol (callCount []) = .success ∧
      acceptingFirmware.allocateZeroPool (callCount []) = true ∧
      (recordSize bootInfoTemplate.length none = recordSize bootInfoTemplate.length (some []) ∧
        logSmbiosData acceptingFirmware bootInfoTemplate.bytes none false [] = .error .nullDereference) :=
  ⟨rfl, rfl, logSmbiosData_null acceptingFirmware bootInfoTemplate false [] rfl rfl⟩

end PlatformSmbios
