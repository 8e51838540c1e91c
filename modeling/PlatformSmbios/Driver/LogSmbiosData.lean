import PlatformSmbios.Driver.Basic

/-!
# `LogSmbiosData` and the firmware it calls

`LogSmbiosData` turns a fixed structure and an array of strings into one record and hands it
to `Smbios->Add`.  Everything it asks of the firmware is an answer the model does not fix:
whether `LocateProtocol` finds the SMBIOS protocol, whether `AllocateZeroPool` returns a
buffer, and what `Add` does with the record.  A `Firmware` gives these answers for each call
of `LogSmbiosData` in a run, so a statement over every `Firmware` is a statement over every
behaviour of the firmware, the registry included.

What a run shows is its trace: the calls into the firmware with their results, and the
`ASSERT`s that fail.  The table the registry ends up holding is read off the trace
(`registered`).
-/

namespace PlatformSmbios

/-! ## The firmware -/

/-- `EFI_STATUS`: `EFI_SUCCESS`, or an error with its code. -/
inductive EfiStatus
  | success
  | error (code : Nat)
  deriving DecidableEq, Repr

/-- `EFI_OUT_OF_RESOURCES`. -/
def EfiStatus.outOfResources : EfiStatus := .error 9

/-- What the firmware answers in the `n`-th call of `LogSmbiosData` of a run: the status of
`LocateProtocol (&gEfiSmbiosProtocolGuid, ...)`, whether `AllocateZeroPool` returns a buffer,
and, for the record handed to `Smbios->Add`, the status it returns and the handle it leaves
in `SmbiosHandle`. -/
structure Firmware where
  locateProtocol : Nat → EfiStatus
  allocateZeroPool : Nat → Bool
  add : Nat → List UInt8 → EfiStatus × UInt16

/-- What a run of the driver shows: its calls into the firmware, and its failing `ASSERT`s. -/
inductive Event
  /-- `LogSmbiosData` is entered with a template of this `Type`. -/
  | logSmbiosData (type : UInt8)
  /-- `LocateProtocol` of the SMBIOS protocol returned this status. -/
  | locateProtocol (status : EfiStatus)
  /-- `AllocateZeroPool (Size)` returned a buffer, or `NULL`. -/
  | allocateZeroPool (size : Nat) (allocated : Bool)
  /-- `Smbios->Add` was handed `record`, and returned `status` with `handle` in
  `SmbiosHandle`. -/
  | add (record : List UInt8) (status : EfiStatus) (handle : UInt16)
  /-- An `ASSERT` of the driver fails.  A `DEBUG` build stops here; a release build compiles
  the check out and goes on, which is what the rest of the trace shows. -/
  | assertFailure
  /-- `FreePool` of the record buffer of this size. -/
  | freePool (size : Nat)
  deriving DecidableEq, Repr

/-- Whether an event is the entry into `LogSmbiosData`. -/
def Event.isCall : Event → Bool
  | .logSmbiosData _ => true
  | _ => false

/-- The number of calls of `LogSmbiosData` in a trace: the next call's index into the
`Firmware`. -/
def callCount (trace : List Event) : Nat := trace.countP Event.isCall

/-- The records the registry accepted, with the handles it gave them, in order. -/
def registered (trace : List Event) : List (UInt16 × List UInt8) :=
  trace.filterMap fun
    | .add record .success handle => some (handle, record)
    | _ => none

/-- `ASSERT (condition)`: a failing one shows in the trace. -/
def assertE (condition : Bool) (trace : List Event) : List Event :=
  if condition then trace else trace ++ [.assertFailure]

/-! ## Building the record -/

/-- The sizing loop of `LogSmbiosData`: `Template->Length`, plus `AsciiStrSize` of every
string, plus one for an empty pack, plus the terminating NUL; a `NULL` pack counts as a double
NUL. -/
def recordSize (length : Nat) : Option (List (CStr UInt8)) → Nat
  | none => length + 2
  | some pack =>
      let size := pack.foldl (fun size s => size + s.size) length
      let size := if pack.isEmpty then size + 1 else size
      size + 1

/-- The copying loop of `LogSmbiosData`: each string with its NUL is copied to `Str`, and
`Str` moves past it.  Returns the record and the final `Str`. -/
def copyPack : List (CStr UInt8) → List UInt8 → Nat → Except Fault (List UInt8 × Nat)
  | [], record, str => .ok (record, str)
  | s :: pack, record, str => do
      let record ← copyMem record str (s.chars ++ [0])
      copyPack pack record (str + s.size)

/-- `LogSmbiosData (Template, StringPack, DataSmbiosHandle)`.  `template` is the memory at
`Template`, `stringPack` the strings of `StringPack` (`none` for `NULL`), and
`dataSmbiosHandle` whether `DataSmbiosHandle` is non-`NULL`.  Returns the status, the handle
stored through `DataSmbiosHandle` if one is, and the trace with this call's events.  The
copying phase reads `StringPack[0]` whatever the sizing phase did, so a `NULL` pack is a
`Fault` there. -/
def logSmbiosData (fw : Firmware) (template : List UInt8) (stringPack : Option (List (CStr UInt8)))
    (dataSmbiosHandle : Bool) (trace : List Event) :
    Except Fault (EfiStatus × Option UInt16 × List Event) :=
  let n := callCount trace
  let status := fw.locateProtocol n
  let trace := trace ++ [.logSmbiosData (template.getD 0 0), .locateProtocol status]
  if status ≠ .success then .ok (status, none, trace) else
  let length := (template.getD 1 0).toNat
  let size := recordSize length stringPack
  let allocated := fw.allocateZeroPool n
  let trace := trace ++ [.allocateZeroPool size allocated]
  if !allocated then .ok (.outOfResources, none, trace) else do
  let formatted ← readMem template length
  let record ← copyMem (List.replicate size 0) 0 formatted
  match stringPack with
  | none => .error .nullDereference
  | some pack => do
      let (record, str) ← copyPack pack record (record.getD 1 0).toNat
      let record ← copyMem record str [0]
      let (status, handle) := fw.add n record
      let written := if status = .success ∧ dataSmbiosHandle then some handle else none
      let trace := assertE (status = .success) (trace ++ [.add record status handle])
      .ok (status, written, trace ++ [.freePool size])

/-! ## Reading a record back -/

/-- The strings of a string-set as a reader of the table takes them: NUL-terminated strings up
to the first empty one, which ends the set with its double NUL. -/
def decodeStrings (area : List UInt8) : List (List UInt8) :=
  (area.splitOn 0).takeWhile fun s => !s.isEmpty

/-- A record as a reader of the table takes it apart: the formatted area of `Length` bytes,
and the strings after it. -/
def decodeRecord (record : List UInt8) : List UInt8 × List (List UInt8) :=
  let length := (record.getD 1 0).toNat
  (record.take length, decodeStrings (record.drop length))

end PlatformSmbios
