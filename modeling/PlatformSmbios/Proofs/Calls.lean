import Mathlib.Data.List.Chain
import PlatformSmbios.Proofs.LogSmbiosData

/-!
# The events of a sequence of calls

A run of the driver is a sequence of `LogSmbiosData` calls, and its trace is the events of one
call after the other (`logCalls`).  What one call can show is said once, by `logCall_events`;
every fact about a call's events follows from it (the step lemmas), and the same fact about a
whole sequence follows by induction over the calls (the run lemmas): the calls are entered in
order, each hands `Add` at most its own record, every buffer allocated is freed, an `ASSERT`
fails right after each rejected `Add` and nowhere else, and the table holds exactly the
accepted records.  `callAdds` reads the `Add`s of a trace with the calls they are made in;
those of a sequence of calls are the records of the calls that get past `LocateProtocol` and
`AllocateZeroPool`, in call order.
-/

namespace PlatformSmbios

/-- The events of the calls `calls`, each given by the type of its template, its record and
whether the caller passes `DataSmbiosHandle`, the first of which is call `n` of the run. -/
def logCalls (fw : Firmware) (n : Nat) : List (UInt8 × List UInt8 × Bool) → List Event
  | [] => []
  | (type, record, flag) :: calls => (logCall fw n type record flag).2.2 ++ logCalls fw (n + 1) calls

/-- What call `n` of `calls` stores through `DataSmbiosHandle`. -/
def writtenHandle (fw : Firmware) (calls : List (UInt8 × List UInt8 × Bool)) (n : Nat) :
    Option UInt16 :=
  match calls[n]? with
  | some (type, record, flag) => (logCall fw n type record flag).2.1
  | none => none

/-- Whether the firmware lets call `n` register `record`: the protocol is found, the buffer
allocated, and `Add` succeeds. -/
def Firmware.accepts (fw : Firmware) (n : Nat) (record : List UInt8) : Bool :=
  fw.locateProtocol n == .success && fw.allocateZeroPool n && (fw.add n record).1 == .success

/-! ## Reading a trace -/

/-- The template type of an entry into `LogSmbiosData`. -/
def Event.callType : Event → Option UInt8
  | .logSmbiosData type => some type
  | _ => none

/-- The record of an `Add`. -/
def Event.addedRecord : Event → Option (List UInt8)
  | .add record _ _ => some record
  | _ => none

/-- The size of a buffer `AllocateZeroPool` returned. -/
def Event.allocatedSize : Event → Option Nat
  | .allocateZeroPool size true => some size
  | _ => none

/-- The size of a buffer `FreePool` released. -/
def Event.freedSize : Event → Option Nat
  | .freePool size => some size
  | _ => none

/-- Whether an event is an `Add` the registry rejected. -/
def Event.isRejectedAdd : Event → Bool
  | .add _ status _ => status != .success
  | _ => false

/-- The `Add`s of a trace, each with the number of the `LogSmbiosData` call it is made in, and
with the record it was handed and the status and handle it returned; `entered` calls precede
the trace, so call `entered - 1` is under way. -/
def callAdds (entered : Nat) : List Event → List (Nat × List UInt8 × EfiStatus × UInt16)
  | [] => []
  | .logSmbiosData _ :: trace => callAdds (entered + 1) trace
  | .add record status handle :: trace => (entered - 1, record, status, handle) :: callAdds entered trace
  | .locateProtocol _ :: trace | .allocateZeroPool _ _ :: trace | .assertFailure :: trace
  | .freePool _ :: trace => callAdds entered trace

/-- An `Add` that succeeded leaves its record in the table. -/
theorem mem_registered_of_mem_callAdds {n i : Nat} {record : List UInt8} {handle : UInt16}
    {trace : List Event} (h : (i, record, .success, handle) ∈ callAdds n trace) :
    (handle, record) ∈ registered trace := by
  induction trace generalizing n with
  | nil => exact absurd h (List.not_mem_nil _)
  | cons e trace ih =>
      rw [registered, List.filterMap_cons, ← registered]
      cases e <;> simp only [callAdds, List.mem_cons] at h
      case add record' status handle' =>
        rcases h with h | h
        · simp only [Prod.mk.injEq] at h
          obtain ⟨-, rfl, rfl, rfl⟩ := h
          exact List.mem_cons_self _ _
        · split <;> first | exact ih h | exact List.mem_cons_of_mem _ (ih h)
      all_goals exact ih h
/-! ## One call -/

section Step

variable (fw : Firmware) (n : Nat) (type : UInt8) (record : List UInt8) (flag : Bool)

/-- Everything a call can show: it enters and looks up the protocol; if that succeeds it
allocates; if that succeeds it hands `Add` the record, fails the `ASSERT` on a rejection and
frees the buffer. -/
theorem logCall_events :
    (logCall fw n type record flag).2.2 =
      [.logSmbiosData type, .locateProtocol (fw.locateProtocol n)] ++
        if fw.locateProtocol n ≠ .success then [] else
          .allocateZeroPool record.length (fw.allocateZeroPool n) ::
            if !fw.allocateZeroPool n then [] else
              .add record (fw.add n record).1 (fw.add n record).2 ::
                ((if (fw.add n record).1 = .success then [] else [.assertFailure]) ++
                  [.freePool record.length]) := by
  unfold logCall
  by_cases h : fw.locateProtocol n = .success <;> by_cases h' : fw.allocateZeroPool n <;> simp [h, h']

/-- What a call stores through `DataSmbiosHandle`: the handle of the record it registered. -/
theorem written_logCall :
    (logCall fw n type record flag).2.1 =
      if flag && fw.accepts n record then some (fw.add n record).2 else none := by
  unfold logCall Firmware.accepts
  by_cases h : fw.locateProtocol n = .success <;> by_cases h' : fw.allocateZeroPool n <;>
    by_cases h'' : (fw.add n record).1 = .success <;> cases flag <;> simp [h, h', h'']

theorem callTypes_logCall : (logCall fw n type record flag).2.2.filterMap Event.callType = [type] := by
  rw [logCall_events]
  split_ifs <;> simp [Event.callType]

/-- A call hands `Add` its own record, once, if it gets that far. -/
theorem addedRecords_logCall :
    (logCall fw n type record flag).2.2.filterMap Event.addedRecord =
      if fw.locateProtocol n = .success ∧ fw.allocateZeroPool n then [record] else [] := by
  rw [logCall_events]
  split_ifs <;> simp_all [Event.addedRecord]

theorem allocated_logCall :
    (logCall fw n type record flag).2.2.filterMap Event.allocatedSize =
      (logCall fw n type record flag).2.2.filterMap Event.freedSize := by
  rw [logCall_events]
  split_ifs <;> simp_all [Event.allocatedSize, Event.freedSize]

/-- The `ASSERT_EFI_ERROR` after `Add` fails exactly when `Add` rejects the record. -/
theorem count_assertFailure_logCall :
    (logCall fw n type record flag).2.2.count .assertFailure =
      (logCall fw n type record flag).2.2.countP Event.isRejectedAdd := by
  rw [logCall_events]
  split_ifs <;> simp_all [Event.isRejectedAdd]

theorem registered_logCall :
    registered (logCall fw n type record flag).2.2 =
      if fw.accepts n record then [((fw.add n record).2, record)] else [] := by
  rw [logCall_events]
  split_ifs <;> simp_all [registered, Firmware.accepts]

/-- Within a call, an `ASSERT` fails right after a rejected `Add` and nowhere else. -/
theorem chain'_logCall :
    (logCall fw n type record flag).2.2.Chain' fun e e' => e' = .assertFailure ↔ e.isRejectedAdd := by
  rw [logCall_events]
  split_ifs <;> simp_all [Event.isRejectedAdd, List.chain'_cons]

/-- A call ends on its protocol lookup, its allocation or its `FreePool`. -/
theorem getLast?_logCall : ∀ e ∈ (logCall fw n type record flag).2.2.getLast?, e.isRejectedAdd = false := by
  rw [logCall_events]
  split_ifs <;> simp_all [Event.isRejectedAdd]

theorem head?_logCall : (logCall fw n type record flag).2.2.head? = some (.logSmbiosData type) := by
  rw [logCall_events]
  rfl

/-- A call adds its record, as call `n`, once it gets past `LocateProtocol` and
`AllocateZeroPool`. -/
theorem callAdds_logCall_append (rest : List Event) :
    callAdds n ((logCall fw n type record flag).2.2 ++ rest) =
      (if fw.locateProtocol n = .success ∧ fw.allocateZeroPool n = true then
        [(n, record, fw.add n record)] else []) ++ callAdds (n + 1) rest := by
  rw [logCall_events]
  split_ifs <;> simp_all [callAdds, Prod.ext_iff]

end Step

/-! ## A sequence of calls -/

section Run

variable (fw : Firmware)

theorem callTypes_logCalls (n : Nat) (calls : List (UInt8 × List UInt8 × Bool)) :
    (logCalls fw n calls).filterMap Event.callType = calls.map Prod.fst := by
  induction calls generalizing n with
  | nil => rfl
  | cons c calls ih => simp [logCalls, List.filterMap_append, callTypes_logCall, ih]

/-- No record is handed to `Add` twice, and none out of order. -/
theorem addedRecords_logCalls_sublist (n : Nat) (calls : List (UInt8 × List UInt8 × Bool)) :
    ((logCalls fw n calls).filterMap Event.addedRecord).Sublist (calls.map fun c => c.2.1) := by
  induction calls generalizing n with
  | nil => exact List.Sublist.slnil
  | cons c calls ih =>
      rw [logCalls, List.filterMap_append, addedRecords_logCall, List.map_cons]
      split_ifs
      · exact (ih (n + 1)).cons₂ _
      · exact (ih (n + 1)).cons _

theorem allocated_logCalls (n : Nat) (calls : List (UInt8 × List UInt8 × Bool)) :
    (logCalls fw n calls).filterMap Event.allocatedSize =
      (logCalls fw n calls).filterMap Event.freedSize := by
  induction calls generalizing n with
  | nil => rfl
  | cons c calls ih => simp only [logCalls, List.filterMap_append, allocated_logCall, ih]

theorem count_assertFailure_logCalls (n : Nat) (calls : List (UInt8 × List UInt8 × Bool)) :
    (logCalls fw n calls).count .assertFailure = (logCalls fw n calls).countP Event.isRejectedAdd := by
  induction calls generalizing n with
  | nil => rfl
  | cons c calls ih =>
      simp only [logCalls, List.count_append, List.countP_append, count_assertFailure_logCall, ih]

/-- The table holds exactly the records of the calls the firmware accepted, under the handles
it gave them. -/
theorem registered_logCalls (n : Nat) (calls : List (UInt8 × List UInt8 × Bool)) :
    registered (logCalls fw n calls) = (calls.enumFrom n).filterMap fun c =>
      if fw.accepts c.1 c.2.2.1 then some ((fw.add c.1 c.2.2.1).2, c.2.2.1) else none := by
  induction calls generalizing n with
  | nil => rfl
  | cons c calls ih =>
      rw [logCalls, registered, List.filterMap_append, ← registered, ← registered, registered_logCall,
        ih, List.enumFrom_cons, List.filterMap_cons]
      split_ifs <;> rfl

/-- A call the firmware accepts leaves its record in the table. -/
theorem mem_registered_logCalls (calls : List (UInt8 × List UInt8 × Bool)) (i : Nat)
    {c : UInt8 × List UInt8 × Bool} (hc : calls[i]? = some c) (haccept : fw.accepts i c.2.1 = true) :
    ((fw.add i c.2.1).2, c.2.1) ∈ registered (logCalls fw 0 calls) := by
  rw [registered_logCalls, List.mem_filterMap]
  exact ⟨(i, c), List.mem_enum_iff_getElem?.2 hc, by simp [haccept]⟩

/-- After any event other than a rejected `Add`, the events of a sequence of calls show an
`ASSERT` failure right after each rejected `Add` and nowhere else; the seams between calls are
an end of call followed by an entry. -/
theorem chain'_cons_logCalls (n : Nat) (calls : List (UInt8 × List UInt8 × Bool)) {e : Event}
    (he : e.isRejectedAdd = false) :
    (e :: logCalls fw n calls).Chain' fun e e' => e' = .assertFailure ↔ e.isRejectedAdd := by
  induction calls generalizing n e with
  | nil => exact List.chain'_singleton e
  | cons c calls ih =>
      have hrest (x : Event) (hx : x.isRejectedAdd = false) := List.chain'_cons'.mp (ih (n + 1) hx)
      rw [logCalls, List.chain'_cons', List.chain'_append, List.head?_append, head?_logCall]
      refine ⟨?_, chain'_logCall .., (hrest .assertFailure rfl).2,
        fun x hx => (hrest x (getLast?_logCall fw n _ _ _ x hx)).1⟩
      simp [he]

/-- The `Add`s of a sequence of calls are the records of the calls that get past
`LocateProtocol` and `AllocateZeroPool`, each once, in call order. -/
theorem callAdds_logCalls (n : Nat) (calls : List (UInt8 × List UInt8 × Bool)) :
    callAdds n (logCalls fw n calls) = (calls.enumFrom n).filterMap fun c =>
      if fw.locateProtocol c.1 = .success ∧ fw.allocateZeroPool c.1 = true then
        some (c.1, c.2.2.1, fw.add c.1 c.2.2.1) else none := by
  induction calls generalizing n with
  | nil => rfl
  | cons c calls ih =>
      rw [logCalls, callAdds_logCall_append, ih, List.enumFrom_cons, List.filterMap_cons]
      split_ifs <;> rfl

/-- An `Add` of a run's trace is made in the call it names, on that call's record, once the
call found the protocol and got its buffer. -/
theorem mem_callAdds_logCalls (calls : List (UInt8 × List UInt8 × Bool)) {i : Nat}
    {record : List UInt8} {status : EfiStatus} {handle : UInt16}
    (h : (i, record, status, handle) ∈ callAdds 0 (logCalls fw 0 calls)) :
    ∃ c, calls[i]? = some c ∧ c.2.1 = record ∧ fw.locateProtocol i = .success ∧
      fw.allocateZeroPool i = true ∧ fw.add i record = (status, handle) := by
  rw [callAdds_logCalls, List.mem_filterMap] at h
  obtain ⟨⟨k, c⟩, hc, hf⟩ := h
  split_ifs at hf with hok
  simp only [Option.some.injEq, Prod.mk.injEq] at hf
  obtain ⟨rfl, rfl, hadd⟩ := hf
  exact ⟨c, List.mem_enum_iff_getElem?.mp hc, rfl, hok.1, hok.2, hadd⟩

/-- The `Add`s of calls numbered from `n` belong to calls from `n` on. -/
theorem le_of_mem_callAdds_logCalls (n : Nat) (calls : List (UInt8 × List UInt8 × Bool))
    {a : Nat × List UInt8 × EfiStatus × UInt16} (ha : a ∈ callAdds n (logCalls fw n calls)) : n ≤ a.1 := by
  induction calls generalizing n with
  | nil => exact absurd ha (List.not_mem_nil _)
  | cons c calls ih =>
      rw [logCalls, callAdds_logCall_append, List.mem_append] at ha
      rcases ha with ha | ha
      · split_ifs at ha
        · rw [List.mem_singleton.mp ha]
        · exact absurd ha (List.not_mem_nil _)
      · exact Nat.le_of_succ_le (ih (n + 1) ha)

/-- The `Add`s of a sequence of calls come in call order: of two of them, the one of the
earlier call comes first in the trace. -/
theorem pair_sublist_callAdds_logCalls (n : Nat) (calls : List (UInt8 × List UInt8 × Bool))
    {a b : Nat × List UInt8 × EfiStatus × UInt16} (ha : a ∈ callAdds n (logCalls fw n calls))
    (hb : b ∈ callAdds n (logCalls fw n calls)) (hab : a.1 < b.1) :
    [a, b].Sublist (callAdds n (logCalls fw n calls)) := by
  induction calls generalizing n with
  | nil => exact absurd ha (List.not_mem_nil _)
  | cons c calls ih =>
      rw [logCalls, callAdds_logCall_append] at ha hb ⊢
      rw [List.mem_append] at ha hb
      split_ifs at ha hb ⊢
      · rcases ha with ha | ha <;> rcases hb with hb | hb
        · rw [List.mem_singleton.mp ha, List.mem_singleton.mp hb] at hab
          exact absurd hab (Nat.lt_irrefl _)
        · rw [List.mem_singleton.mp ha]
          exact (List.singleton_sublist.mpr hb).cons₂ _
        · have := le_of_mem_callAdds_logCalls fw (n + 1) calls ha
          rw [List.mem_singleton.mp hb] at hab
          exact absurd hab (by simp only; omega)
        · exact (ih (n + 1) ha hb).trans (List.sublist_append_right _ _)
      · simp only [List.not_mem_nil, false_or] at ha hb
        exact ih (n + 1) ha hb

end Run

end PlatformSmbios
