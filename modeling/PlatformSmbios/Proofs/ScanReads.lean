import PlatformSmbios.Proofs.VersionScan

/-!
# The version scan reads only the string and its NUL, and ends

`scanVersion_reads_le_length`: for every NUL-terminated string `s` in `mBiosVersion` and
whatever `Value` holds, every index the loop of `BIOSInfoUpdateSmbiosType0` reads
(`scanVersionReads`: the test and value of `mBiosVersion[i]`, the lookahead
`mBiosVersion[i + 1]` of `case 2`, and the `while` that skips an overflowing run) is at most
`AsciiStrLen (s)`, and the loop leaves by its own test within `AsciiStrLen (s)` passes.

## Strategy

Everything rests on the terminator: the byte at `AsciiStrLen` is 0, not a digit.  A pass
starts with `i < len` (the loop's test), so `i` and `i + 1` are at most `len`, and the
skipping `while` stops at the NUL at the latest, so it reads at most up to `len` and leaves
`i < len` (`skipDigits_drop_lt`).  That is one pass (`scanSwitchReads_le`,
`scanSwitch_i_lt`); the run follows by induction on the fuel, for the reads
(`scanLoopReads_le`) and for the exit (`scanLoop_exits`), since every pass moves `i` forward.
-/

namespace PlatformSmbios

/-! ## The skipping loop -/

theorem skipDigitsReads_le (l : List UInt8) (i : Nat) :
    ∀ j ∈ skipDigitsReads l i, j ≤ skipDigits l i + 1 := by
  induction l generalizing i with
  | nil => simp [skipDigitsReads, skipDigits]
  | cons c l ih =>
      cases hc : isDigit c
      · simp [skipDigitsReads, skipDigits, hc]
      · have := le_skipDigits l (i + 1)
        simp only [skipDigitsReads, skipDigits, hc, if_true, List.mem_cons]
        rintro j (rfl | hj)
        exacts [by omega, ih (i + 1) j hj]

/-- The skipping loop stops at the first non-digit. -/
theorem skipDigits_le {l : List UInt8} {p : Nat} (h : isDigit (l.getD p 0) = false) (i : Nat) :
    skipDigits l i ≤ i + p := by
  induction l generalizing i p with
  | nil => exact Nat.le_add_right _ _
  | cons c l ih =>
      cases p with
      | zero => simp [skipDigits, show isDigit c = false from h]
      | succ p =>
          unfold skipDigits
          split
          · have := ih (show isDigit (l.getD p 0) = false from h) (i + 1); omega
          · omega

section Pass

variable {buf : List UInt8} {len : Nat} {st : ScanState}

/-- From inside the string, the skipping loop stops before the terminator. -/
theorem skipDigits_drop_lt (hbuf : buf.getD len 0 = 0) {i : Nat} (hi : i < len) :
    skipDigits (buf.drop (i + 1)) i < len := by
  have hnul : isDigit ((buf.drop (i + 1)).getD (len - (i + 1)) 0) = false := by
    rw [List.getD_eq_getElem?_getD, List.getElem?_drop, ← List.getD_eq_getElem?_getD,
      show i + 1 + (len - (i + 1)) = len by omega, hbuf]
    rfl
  have := skipDigits_le hnul i
  omega

theorem scanDotReads_le (st : ScanState) : ∀ j ∈ scanDotReads buf st, j ≤ st.i + 1 := by
  unfold scanDotReads
  split <;> simp only [List.mem_cons, List.mem_singleton, List.not_mem_nil, or_false] <;> omega

theorem scanDigitReads_le (hbuf : buf.getD len 0 = 0) (hi : st.i < len) :
    ∀ j ∈ scanDigitReads buf st, j ≤ len := by
  have hskip := skipDigits_drop_lt hbuf hi
  intro j hj
  unfold scanDigitReads at hj
  simp only [setValue_i, value_setValue, gt_iff_lt] at hj
  split_ifs at hj <;> simp only [List.mem_cons, List.not_mem_nil, or_false] at hj
  · rcases hj with rfl | rfl | hj
    · omega
    · omega
    · exact (skipDigitsReads_le _ _ j hj).trans hskip
  · omega
  · rcases hj with rfl | hj
    · omega
    · exact (scanDotReads_le _ j hj).trans hi
  · omega

theorem scanDigit_i_lt (hbuf : buf.getD len 0 = 0) (hi : st.i < len) :
    (scanDigit buf st).i < len := by
  unfold scanDigit
  simp only
  rw [apply_ite ScanState.i, scanDot_i, ite_self]
  split_ifs <;> simp only [setValue_i] <;> first | exact hi | exact skipDigits_drop_lt hbuf hi

/-- The reads of one pass that starts inside the string are within it or on its NUL. -/
theorem scanSwitchReads_le (hbuf : buf.getD len 0 = 0) (hi : st.i < len) :
    ∀ j ∈ scanSwitchReads buf st, j ≤ len := by
  obtain ⟨i, _ | _ | _ | _ | state, v0, v1⟩ := st
  · intro j hj
    simp only [scanSwitchReads, List.mem_cons] at hj
    rcases hj with rfl | hj
    · exact hi.le
    · split at hj
      · exact @scanDigitReads_le buf len ⟨i, 1, 0, 0⟩ hbuf hi j hj
      · simp at hj
  · exact scanDigitReads_le hbuf hi
  · exact fun j hj => (scanDotReads_le _ j hj).trans hi
  · exact scanDigitReads_le hbuf hi
  · simp [scanSwitchReads]

/-- A pass that starts inside the string leaves `i` inside it, before the `i++`. -/
theorem scanSwitch_i_lt (hbuf : buf.getD len 0 = 0) (hi : st.i < len) :
    (scanSwitch buf st).i < len := by
  obtain ⟨i, _ | _ | _ | _ | state, v0, v1⟩ := st
  · simp only [scanSwitch]
    split
    · exact @scanDigit_i_lt buf len ⟨i, 1, 0, 0⟩ hbuf hi
    · exact hi
  · exact scanDigit_i_lt hbuf hi
  · exact (scanDot_i _).trans_lt hi
  · exact scanDigit_i_lt hbuf hi
  · exact hi

end Pass

/-! ## The loop -/

section Run

variable {buf : List UInt8} {len : Nat}

theorem scanLoopReads_le (hbuf : buf.getD len 0 = 0) :
    ∀ fuel st, st.i ≤ len → ∀ j ∈ scanLoopReads buf len fuel st, j ≤ len := by
  intro fuel
  induction fuel with
  | zero => simp [scanLoopReads]
  | succ fuel ih =>
      intro st _ j hj
      unfold scanLoopReads at hj
      split_ifs at hj with hguard
      · rcases List.mem_append.mp hj with hj | hj
        · exact scanSwitchReads_le hbuf hguard.1 j hj
        · exact ih (scanPass buf st) (scanSwitch_i_lt hbuf hguard.1) j hj
      · simp at hj

/-- With fuel for every index left, the loop ends by its own test. -/
theorem scanLoop_exits (hbuf : buf.getD len 0 = 0) :
    ∀ fuel st, st.i ≤ len → len - st.i ≤ fuel →
      ¬ ((scanLoop buf len fuel st).i < len ∧ (scanLoop buf len fuel st).state < 4) := by
  intro fuel
  induction fuel with
  | zero =>
      intro st _ hfuel
      simp only [scanLoop]
      omega
  | succ fuel ih =>
      intro st _ hfuel
      unfold scanLoop
      split_ifs with hguard
      · have hle := @i_le_scanSwitch buf st
        exact ih _ (scanSwitch_i_lt hbuf hguard.1) (by simp only [scanPass]; omega)
      · exact hguard

end Run

/-- For every NUL-terminated string `s` held in `mBiosVersion` and whatever `Value` holds,
the loop of `BIOSInfoUpdateSmbiosType0` reads `mBiosVersion` only at indices up to
`AsciiStrLen (s)` (inside the string or on its NUL), and it leaves by its own test
`i < AsciiStrLen (mBiosVersion) && State < 4` within `AsciiStrLen (s)` passes. -/
theorem scanVersion_reads_le_length (s rest : List UInt8) (value : Nat × Nat) (hs : 0 ∉ s) :
    (∀ j ∈ scanVersionReads (s ++ 0 :: rest) value, j ≤ s.length) ∧
      ¬ ((scanVersion (s ++ 0 :: rest) value).i < s.length ∧
        (scanVersion (s ++ 0 :: rest) value).state < 4) := by
  have hlen : (cString (s ++ 0 :: rest)).length = s.length := by rw [cString_append_zero hs]
  have hbuf : (s ++ 0 :: rest).getD s.length 0 = 0 := by
    rw [List.getD_eq_getElem?_getD, List.getElem?_append_right le_rfl]
    simp
  unfold scanVersionReads scanVersion
  simp only [hlen]
  exact ⟨scanLoopReads_le hbuf _ _ (Nat.zero_le _), scanLoop_exits hbuf _ _ (Nat.zero_le _) le_rfl⟩

/-- `"1.999"`: the minor part overflows at its last digit, and the skipping `while` reads the
NUL at index 5 and stops. -/
theorem scanVersion_reads_le_length_overflow :
    (0 : UInt8) ∉ [49, 46, 57, 57, 57] ∧
      ((∀ j ∈ scanVersionReads ([49, 46, 57, 57, 57] ++ 0 :: []) (0, 0),
          j ≤ [49, 46, 57, 57, 57].length) ∧
        ¬ ((scanVersion ([49, 46, 57, 57, 57] ++ 0 :: []) (0, 0)).i < [49, 46, 57, 57, 57].length ∧
          (scanVersion ([49, 46, 57, 57, 57] ++ 0 :: []) (0, 0)).state < 4)) :=
  ⟨by decide, scanVersion_reads_le_length _ [] _ (by decide)⟩

example : scanVersionReads [49, 46, 57, 57, 57, 0] (0, 0) = [0, 0, 0, 1, 1, 2, 2, 2, 3, 3, 4, 4, 5] := by
  decide

end PlatformSmbios
