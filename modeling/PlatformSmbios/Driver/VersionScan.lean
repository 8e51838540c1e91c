import PlatformSmbios.Driver.Basic

/-!
# The version scan of `BIOSInfoUpdateSmbiosType0`

`BIOSInfoUpdateSmbiosType0` looks for an `x.y` number anywhere in `mBiosVersion` with a
`for` loop over a `switch (State)` whose cases fall through into each other:

* `case 0` waits for a digit, clears `Value`, and falls into `case 1`;
* `case 1` and `case 3` accumulate a digit into `Value[State / 2]`, abandon the candidate
  when it exceeds 255 (skipping the rest of its digits), or step to the next state on a
  non-digit, falling into `case 2` when that state is 2;
* `case 2` moves to the minor part on a `.` followed by a digit, and back to 0 otherwise.

The loop runs while `i < AsciiStrLen (mBiosVersion)` and `State < 4`.  Each case is a
function here, and the fall-through is a call of the next case's function.  The `for` loop
is `scanLoop`, with a fuel argument; since every pass moves `i` forward, fuel
`AsciiStrLen (mBiosVersion)` runs it to its end (`Proofs/ScanReads.lean`).  The indices of
`mBiosVersion` each case reads are listed by a companion function of the case
(`scanSwitchReads` and the functions under it), which follows the same states.
-/

namespace PlatformSmbios

/-- `SMB_IS_DIGIT (c)`. -/
def isDigit (c : UInt8) : Bool := 48 ≤ c.toNat && c.toNat ≤ 57

/-- The variables of the scan: `i`, `State` and `Value[0]`, `Value[1]`.  They are `INTN` in
the source and never negative. -/
structure ScanState where
  i : Nat
  state : Nat
  value0 : Nat
  value1 : Nat
  deriving DecidableEq, Repr

/-- `Value[k]`. -/
def ScanState.value (st : ScanState) (k : Nat) : Nat := if k = 0 then st.value0 else st.value1

/-- `Value[k] = v`. -/
def ScanState.setValue (st : ScanState) (k v : Nat) : ScanState :=
  if k = 0 then { st with value0 := v } else { st with value1 := v }

/-- `while (SMB_IS_DIGIT (mBiosVersion[i + 1])) i++;`, over the bytes from `i + 1` on. -/
def skipDigits : List UInt8 → Nat → Nat
  | [], i => i
  | c :: cs, i => if isDigit c then skipDigits cs (i + 1) else i

/-- `case 2`: a `.` followed by a digit starts the minor part; anything else abandons the
candidate. -/
def scanDot (buf : List UInt8) (st : ScanState) : ScanState :=
  if buf.getD st.i 0 = 46 ∧ isDigit (buf.getD (st.i + 1) 0) then { st with state := st.state + 1 }
  else { st with state := 0 }

/-- `case 1` and `case 3`: accumulate a digit into `Value[State / 2]`, or step `State` on a
non-digit and fall through into `case 2` if it became 2. -/
def scanDigit (buf : List UInt8) (st : ScanState) : ScanState :=
  let c := buf.getD st.i 0
  let st :=
    if isDigit c then
      let st := st.setValue (st.state / 2) (st.value (st.state / 2) * 10 + (c.toNat - 48))
      if st.value (st.state / 2) > 255 then
        -- "we may have something like "Firmware X83737.1 v1.23""
        { st with i := skipDigits (buf.drop (st.i + 1)) st.i, state := 0 }
      else st
    else { st with state := st.state + 1 }
  if st.state = 2 then scanDot buf st else st

/-- The `switch (State)` of one pass, before the loop's `i++`. -/
def scanSwitch (buf : List UInt8) (st : ScanState) : ScanState :=
  match st.state with
  | 0 =>
      if isDigit (buf.getD st.i 0) then scanDigit buf { st with value0 := 0, value1 := 0, state := 1 }
      else st
  | 1 => scanDigit buf st
  | 2 => scanDot buf st
  | 3 => scanDigit buf st
  | _ => st

/-- One pass of the loop body, with the `i++` of the `for`. -/
def scanPass (buf : List UInt8) (st : ScanState) : ScanState :=
  let st := scanSwitch buf st
  { st with i := st.i + 1 }

/-- `for (; (i < AsciiStrLen (mBiosVersion)) && (State < 4); i++)`, for at most `fuel` passes. -/
def scanLoop (buf : List UInt8) (len : Nat) : Nat → ScanState → ScanState
  | 0, st => st
  | fuel + 1, st => if st.i < len ∧ st.state < 4 then scanLoop buf len fuel (scanPass buf st) else st

/-- The scan over `mBiosVersion`, from `i = 0` and `State = 0`; `Value` is whatever the
uninitialised array holds, passed in as `value`. -/
def scanVersion (mBiosVersion : List UInt8) (value : Nat × Nat) : ScanState :=
  let len := (cString mBiosVersion).length
  scanLoop mBiosVersion len len ⟨0, 0, value.1, value.2⟩

/-! ## The bytes the scan reads

The functions above read `mBiosVersion` through `getD`, which gives 0 past the end of the
buffer.  Which bytes the loop reads is said separately, case by case: each function below
lists the indices `k` of the `mBiosVersion[k]` its case evaluates, in order, and moves on
with the same states as the case itself.  `SMB_IS_DIGIT (mBiosVersion[k])` reads index `k`
(once or twice: the macro names its argument twice). -/

/-- The loop `while (SMB_IS_DIGIT (mBiosVersion[i + 1])) i++;` reads `i + 1`, and goes on
while that is a digit. -/
def skipDigitsReads : List UInt8 → Nat → List Nat
  | [], i => [i + 1]
  | c :: cs, i => (i + 1) :: if isDigit c then skipDigitsReads cs (i + 1) else []

/-- `case 2` reads `mBiosVersion[i]`, and `mBiosVersion[i + 1]` only when the first is a `.`:
the `&&` does not evaluate its right side otherwise. -/
def scanDotReads (buf : List UInt8) (st : ScanState) : List Nat :=
  st.i :: if buf.getD st.i 0 = 46 then [st.i + 1] else []

/-- `case 1` and `case 3` read `mBiosVersion[i]` for the test and, on a digit, for its value,
then the run the `while` skips after an overflow; on a non-digit, `case 2` reads when `State`
became 2. -/
def scanDigitReads (buf : List UInt8) (st : ScanState) : List Nat :=
  let c := buf.getD st.i 0
  if isDigit c then
    let st := st.setValue (st.state / 2) (st.value (st.state / 2) * 10 + (c.toNat - 48))
    st.i :: st.i ::
      if st.value (st.state / 2) > 255 then skipDigitsReads (buf.drop (st.i + 1)) st.i else []
  else
    let st := { st with state := st.state + 1 }
    st.i :: if st.state = 2 then scanDotReads buf st else []

/-- The reads of the `switch (State)` of one pass: `case 0` tests `mBiosVersion[i]` and falls
into `case 1`. -/
def scanSwitchReads (buf : List UInt8) (st : ScanState) : List Nat :=
  match st.state with
  | 0 =>
      st.i :: if isDigit (buf.getD st.i 0) then
        scanDigitReads buf { st with value0 := 0, value1 := 0, state := 1 } else []
  | 1 => scanDigitReads buf st
  | 2 => scanDotReads buf st
  | 3 => scanDigitReads buf st
  | _ => []

/-- The reads of the passes of `scanLoop`, in order. -/
def scanLoopReads (buf : List UInt8) (len : Nat) : Nat → ScanState → List Nat
  | 0, _ => []
  | fuel + 1, st =>
      if st.i < len ∧ st.state < 4 then
        scanSwitchReads buf st ++ scanLoopReads buf len fuel (scanPass buf st)
      else []

/-- The indices of `mBiosVersion` the loop of `scanVersion` reads. -/
def scanVersionReads (mBiosVersion : List UInt8) (value : Nat × Nat) : List Nat :=
  let len := (cString mBiosVersion).length
  scanLoopReads mBiosVersion len len ⟨0, 0, value.1, value.2⟩

/-- The release the scan found: `Value` when the loop ended in state 3 or 4. -/
def ScanState.release (st : ScanState) : Option (Nat × Nat) :=
  if st.state = 3 ∨ st.state = 4 then some (st.value0, st.value1) else none

/-- `SystemBiosMajorRelease` and `SystemBiosMinorRelease`, the bytes at offsets `0x14` and
`0x15` of the Type 0 record. -/
def biosRelease (record : List UInt8) : Nat × Nat := (readField record 0x14 1, readField record 0x15 1)

/-- The end of the scan: in state 3 or 4, `(UINT8) Value[0]` and `(UINT8) Value[1]` are stored
into the two release fields of the Type 0 record. -/
def setBiosRelease (st : ScanState) (record : List UInt8) : List UInt8 :=
  if st.state = 3 ∨ st.state = 4 then writeField (writeField record 0x14 1 st.value0) 0x15 1 st.value1
  else record

end PlatformSmbios
