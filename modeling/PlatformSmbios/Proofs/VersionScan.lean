import PlatformSmbios.Driver.VersionScan

/-!
# The version scan finds the first `x.y` of digit runs

The reference reads a string as the spec does: its maximal runs of digits `r₁, r₂, …`, each
with the gap of non-digits after it (`digitRuns`), and the release is the first pair
`rₖ . rₖ₊₁` whose gap is exactly one `.` and whose two values are at most 255
(`firstRelease`).  `scanVersion_firstRelease` says the loop ends in state 3 or 4 with exactly
those two values when there is such a pair, and in another state when there is none, for
every string held in `mBiosVersion` and whatever `Value` held before.

## Strategy

The scan is run with fuel, so the statements are about `Yields st x`: from `st`, every
sufficient fuel ends in a state whose `release` is `x`.  `yields_pass` takes one pass of
the loop, and `yields_digits` a whole run of digits in state 1 or 3, both for a run that
stays within 255 and for one that overflows and is skipped.  The main induction,
`searches_all`, is over the length of the rest of the string from a state 0: it either
skips a non-digit, or consumes one whole candidate `rₖ [. rₖ₊₁]`, and in each case the
reference drops the same runs.
-/

namespace PlatformSmbios

/-! ## The reference -/

/-- One digit more: `Value * 10 + (c - '0')`. -/
def decimalStep (acc : Nat) (c : UInt8) : Nat := acc * 10 + (c.toNat - 48)

/-- The decimal value of a run of digits. -/
def decimalValue (r : List UInt8) : Nat := r.foldl decimalStep 0

/-- The maximal runs of digits of a string, in order, each with the gap of non-digits that
follows it; the first component is the gap before the first run. -/
def digitRuns : List UInt8 → List UInt8 × List (List UInt8 × List UInt8)
  | [] => ([], [])
  | c :: cs =>
      if isDigit c then
        match digitRuns cs with
        | ([], (r, g) :: runs) => ([], (c :: r, g) :: runs)
        | (gap, runs) => ([], ([c], gap) :: runs)
      else (c :: (digitRuns cs).1, (digitRuns cs).2)

/-- The first run `rₖ` of value at most 255 followed by exactly one `.` and a run `rₖ₊₁` of
value at most 255, with the two values. -/
def firstRelease : List (List UInt8 × List UInt8) → Option (Nat × Nat)
  | [] => none
  | [_] => none
  | (r, g) :: (r', g') :: runs =>
      if g = [46] ∧ decimalValue r ≤ 255 ∧ decimalValue r' ≤ 255 then
        some (decimalValue r, decimalValue r')
      else firstRelease ((r', g') :: runs)

/-! ## Runs -/

theorem digitRuns_of_not_digit {c : UInt8} (hc : isDigit c = false) (cs : List UInt8) :
    digitRuns (c :: cs) = (c :: (digitRuns cs).1, (digitRuns cs).2) := by
  simp [digitRuns, hc]

/-- A string that does not start with a digit has a nonempty leading gap, or no runs. -/
theorem digitRuns_fst_ne_nil {u : List UInt8} (hu : ∀ c ∈ u.head?, isDigit c = false) :
    (digitRuns u).1 ≠ [] ∨ (digitRuns u).2 = [] := by
  cases u with
  | nil => simp [digitRuns]
  | cons c u => simp [digitRuns_of_not_digit (hu c rfl)]

/-- A maximal run of digits is the first run. -/
theorem digitRuns_append {r u : List UInt8} (hr : r ≠ []) (hd : ∀ c ∈ r, isDigit c = true)
    (hu : ∀ c ∈ u.head?, isDigit c = false) :
    digitRuns (r ++ u) = ([], (r, (digitRuns u).1) :: (digitRuns u).2) := by
  induction r with
  | nil => exact absurd rfl hr
  | cons c r ih =>
      have hc := hd c (List.mem_cons_self _ _)
      rcases r with _ | ⟨c', r⟩
      · cases u with
        | nil => simp only [List.nil_append, List.cons_append, digitRuns, hc, if_true]
        | cons c' u =>
            simp only [List.nil_append, List.cons_append, digitRuns, hc, hu c' rfl, if_true,
              Bool.false_eq_true, if_false]
      · rw [List.cons_append, digitRuns, if_pos hc,
          ih (List.cons_ne_nil _ _) fun x hx => hd x (List.mem_cons_of_mem _ hx)]

/-- A run that cannot start a release is passed over. -/
theorem firstRelease_cons_of_not {r g : List UInt8} {runs : List (List UInt8 × List UInt8)}
    (h : ¬ (g = [46] ∧ runs ≠ [] ∧ decimalValue r ≤ 255 ∧
      ∀ p ∈ runs.head?, decimalValue p.1 ≤ 255)) :
    firstRelease ((r, g) :: runs) = firstRelease runs := by
  rcases runs with _ | ⟨⟨r', g'⟩, runs⟩
  · rfl
  · rw [firstRelease, if_neg (by simpa [and_assoc] using h)]

/-- Both values of a release are at most 255, so the `UINT8` casts keep them. -/
theorem firstRelease_le : ∀ {runs : List (List UInt8 × List UInt8)} {a b : Nat},
    firstRelease runs = some (a, b) → a ≤ 255 ∧ b ≤ 255
  | (r, g) :: (r', g') :: runs, a, b, h => by
      rw [firstRelease] at h
      split_ifs at h with hc
      · cases h; exact hc.2
      · exact firstRelease_le h

theorem le_foldl_decimalStep (d : List UInt8) (acc : Nat) : acc ≤ d.foldl decimalStep acc := by
  induction d generalizing acc with
  | nil => exact le_rfl
  | cons c d ih => exact le_trans (by simp only [decimalStep]; omega) (ih _)

/-! ## One pass of the loop -/

section Pass

variable {buf : List UInt8}

@[simp] theorem setValue_i (st : ScanState) (k v : Nat) : (st.setValue k v).i = st.i := by
  unfold ScanState.setValue; split <;> rfl

@[simp] theorem setValue_state (st : ScanState) (k v : Nat) : (st.setValue k v).state = st.state := by
  unfold ScanState.setValue; split <;> rfl

@[simp] theorem value_setValue (st : ScanState) (k v : Nat) : (st.setValue k v).value k = v := by
  unfold ScanState.setValue ScanState.value; split <;> simp_all

theorem setValue_setValue (st : ScanState) (k v w : Nat) :
    (st.setValue k v).setValue k w = st.setValue k w := by
  unfold ScanState.setValue; split <;> rfl

theorem setValue_value (st : ScanState) (k : Nat) : st.setValue k (st.value k) = st := by
  unfold ScanState.setValue ScanState.value; split <;> rfl

theorem le_skipDigits (l : List UInt8) (i : Nat) : i ≤ skipDigits l i := by
  induction l generalizing i with
  | nil => exact le_rfl
  | cons c l ih => unfold skipDigits; split <;> [exact le_trans (by omega) (ih _); exact le_rfl]

theorem scanDot_i (st : ScanState) : (scanDot buf st).i = st.i := by
  unfold scanDot; split <;> rfl

theorem i_le_scanDigit (st : ScanState) : st.i ≤ (scanDigit buf st).i := by
  unfold scanDigit
  simp only
  rw [apply_ite ScanState.i, scanDot_i, ite_self]
  split_ifs <;> simp only [setValue_i, le_skipDigits, le_refl]

theorem i_le_scanSwitch (st : ScanState) : st.i ≤ (scanSwitch buf st).i := by
  obtain ⟨i, _ | _ | _ | _ | state, v0, v1⟩ := st
  · simp only [scanSwitch]
    split
    · exact @i_le_scanDigit buf ⟨i, 1, 0, 0⟩
    · exact le_rfl
  · exact i_le_scanDigit _
  · exact le_of_eq (scanDot_i _).symm
  · exact i_le_scanDigit _
  · exact le_rfl

variable {st : ScanState}

theorem isDigit_sub_le {c : UInt8} (hc : isDigit c = true) : c.toNat - 48 ≤ 9 := by
  simp only [isDigit, Bool.and_eq_true, decide_eq_true_eq] at hc
  omega

theorem scanPass_of_zero_of_not_digit (hs : st.state = 0) (hc : isDigit (buf.getD st.i 0) = false) :
    scanPass buf st = { st with i := st.i + 1 } := by
  obtain ⟨i, state, v0, v1⟩ := st
  subst hs
  simp only [scanPass, scanSwitch, hc, Bool.false_eq_true, if_false]

/-- `case 1` and `case 3` on a digit: the digit is accumulated into `Value[State / 2]`, and a
value past 255 abandons the candidate, skipping the rest of the run. -/
theorem scanDigit_of_digit (hs : st.state ≠ 2) (hc : isDigit (buf.getD st.i 0) = true) :
    scanDigit buf st =
      if 255 < decimalStep (st.value (st.state / 2)) (buf.getD st.i 0) then
        { st.setValue (st.state / 2) (decimalStep (st.value (st.state / 2)) (buf.getD st.i 0)) with
          i := skipDigits (buf.drop (st.i + 1)) st.i, state := 0 }
      else st.setValue (st.state / 2) (decimalStep (st.value (st.state / 2)) (buf.getD st.i 0)) := by
  unfold scanDigit
  simp only [hc, if_true, value_setValue, setValue_state, setValue_i, decimalStep, gt_iff_lt]
  split_ifs <;> first | rfl | contradiction | exact absurd ((setValue_state _ _ _).symm.trans ‹_›) hs

theorem scanSwitch_of_pending (hs : st.state = 1 ∨ st.state = 3) :
    scanSwitch buf st = scanDigit buf st := by
  rcases hs with h | h <;> simp only [scanSwitch, h]

theorem scanPass_of_zero_of_digit (hs : st.state = 0) (hc : isDigit (buf.getD st.i 0) = true) :
    scanPass buf st = ⟨st.i + 1, 1, decimalStep 0 (buf.getD st.i 0), 0⟩ := by
  have h9 := isDigit_sub_le hc
  have hv : ¬255 < decimalStep 0 (buf.getD st.i 0) := by simp only [decimalStep]; omega
  simp only [scanPass, scanSwitch, hs, hc, if_true,
    @scanDigit_of_digit buf ⟨st.i, 1, 0, 0⟩ (by simp) hc, ScanState.value, if_neg hv]
  rfl

theorem scanPass_of_digit (hs : st.state = 1 ∨ st.state = 3) (hc : isDigit (buf.getD st.i 0) = true)
    (hv : decimalStep (st.value (st.state / 2)) (buf.getD st.i 0) ≤ 255) :
    scanPass buf st = { st.setValue (st.state / 2)
      (decimalStep (st.value (st.state / 2)) (buf.getD st.i 0)) with i := st.i + 1 } := by
  simp only [scanPass, scanSwitch_of_pending hs, scanDigit_of_digit (by omega) hc,
    if_neg (not_lt.2 hv), setValue_i]

theorem scanPass_of_overflow (hs : st.state = 1 ∨ st.state = 3) (hc : isDigit (buf.getD st.i 0) = true)
    (hv : 255 < decimalStep (st.value (st.state / 2)) (buf.getD st.i 0)) :
    scanPass buf st = { st.setValue (st.state / 2)
      (decimalStep (st.value (st.state / 2)) (buf.getD st.i 0)) with
        i := skipDigits (buf.drop (st.i + 1)) st.i + 1, state := 0 } := by
  simp only [scanPass, scanSwitch_of_pending hs, scanDigit_of_digit (by omega) hc, if_pos hv]

theorem scanPass_of_one_of_not_digit (hs : st.state = 1) (hc : isDigit (buf.getD st.i 0) = false) :
    scanPass buf st =
      { st with
        i := st.i + 1
        state := if buf.getD st.i 0 = 46 ∧ isDigit (buf.getD (st.i + 1) 0) then 3 else 0 } := by
  obtain ⟨i, state, v0, v1⟩ := st
  subst hs
  simp only [scanPass, scanSwitch, scanDigit, scanDot, hc, Bool.false_eq_true, if_false, if_true]
  split_ifs <;> rfl

theorem scanPass_of_three_of_not_digit (hs : st.state = 3) (hc : isDigit (buf.getD st.i 0) = false) :
    scanPass buf st = { st with i := st.i + 1, state := 4 } := by
  obtain ⟨i, state, v0, v1⟩ := st
  subst hs
  simp only [scanPass, scanSwitch, scanDigit, hc, Bool.false_eq_true, if_false]
  rfl

end Pass

/-! ## Runs of the loop -/

/-- From `st`, every run of the loop with enough fuel ends in a state that releases `x`. -/
def Yields (buf : List UInt8) (len : Nat) (st : ScanState) (x : Option (Nat × Nat)) : Prop :=
  ∀ fuel, len - st.i ≤ fuel → (scanLoop buf len fuel st).release = x

section Run

variable {buf : List UInt8} {len : Nat} {st : ScanState} {x : Option (Nat × Nat)}

theorem yields_stop (h : len ≤ st.i ∨ 4 ≤ st.state) : Yields buf len st st.release := by
  intro fuel _
  cases fuel with
  | zero => rfl
  | succ fuel => rw [scanLoop, if_neg (by omega)]

theorem yields_pass (hi : st.i < len) (hs : st.state < 4) (h : Yields buf len (scanPass buf st) x) :
    Yields buf len st x := by
  intro fuel hf
  have hle := @i_le_scanSwitch buf st
  cases fuel with
  | zero => omega
  | succ fuel =>
      rw [scanLoop, if_pos ⟨hi, hs⟩]
      exact h fuel (by simp only [scanPass]; omega)

theorem getD_of_drop {i : Nat} {l : List UInt8} (h : buf.drop i = l) : buf.getD i 0 = l.headD 0 := by
  subst h
  simp [List.getD_eq_getElem?_getD, List.headD_eq_head?_getD, List.head?_drop]

theorem drop_add_of_drop {i : Nat} {l₁ l₂ : List UInt8} (h : buf.drop i = l₁ ++ l₂) :
    buf.drop (i + l₁.length) = l₂ := by
  rw [← List.drop_drop, h, List.drop_left]

theorem skipDigits_append {d u : List UInt8} (hd : ∀ c ∈ d, isDigit c = true)
    (hu : ∀ c ∈ u.head?, isDigit c = false) (i : Nat) : skipDigits (d ++ u) i = i + d.length := by
  induction d generalizing i with
  | nil =>
      cases u with
      | nil => rfl
      | cons c u => simp [skipDigits, hu c rfl]
  | cons c d ih =>
      rw [List.cons_append, skipDigits, if_pos (hd c (List.mem_cons_self _ _)),
        ih (fun c hc => hd c (List.mem_cons_of_mem _ hc))]
      simp only [List.length_cons]; omega

@[simp] theorem setValue_value0 (st : ScanState) (k v : Nat) :
    (st.setValue k v).value0 = if k = 0 then v else st.value0 := by
  unfold ScanState.setValue; split <;> rfl

@[simp] theorem setValue_value1 (st : ScanState) (k v : Nat) :
    (st.setValue k v).value1 = if k = 0 then st.value1 else v := by
  unfold ScanState.setValue; split <;> rfl

/-- A run of digits in state 1 or 3 whose value stays within 255 is accumulated whole into
`Value[State / 2]`. -/
theorem yields_digits {d u : List UInt8} (hb : buf.drop st.i = d ++ u) (hlen : st.i + d.length ≤ len)
    (hs : st.state = 1 ∨ st.state = 3) (hd : ∀ c ∈ d, isDigit c = true)
    (hv : d.foldl decimalStep (st.value (st.state / 2)) ≤ 255)
    (h : Yields buf len { st.setValue (st.state / 2) (d.foldl decimalStep (st.value (st.state / 2)))
      with i := st.i + d.length } x) :
    Yields buf len st x := by
  induction d generalizing st with
  | nil =>
      simp only [List.foldl_nil, List.length_nil, Nat.add_zero, setValue_value] at h
      exact h
  | cons c d ih =>
      have hc : buf.getD st.i 0 = c := getD_of_drop hb
      have hv' : decimalStep (st.value (st.state / 2)) c ≤ 255 :=
        le_trans (le_foldl_decimalStep d _) hv
      apply yields_pass (by simp only [List.length_cons] at hlen; omega) (by omega)
      rw [scanPass_of_digit hs (hc ▸ hd c (List.mem_cons_self _ _)) (hc ▸ hv'), hc]
      apply ih (@drop_add_of_drop buf st.i [c] _ hb) (by simp only [List.length_cons] at hlen ⊢; omega)
        (by simpa only [setValue_state] using hs) (fun c hc => hd c (List.mem_cons_of_mem _ hc))
      all_goals by_cases hk : st.state / 2 = 0 <;> simp [ScanState.value, hk] at hv h ⊢
      all_goals first | exact hv | rwa [Nat.add_assoc, Nat.add_comm 1]

/-- A run of digits in state 1 or 3 whose value passes 255 abandons the candidate: the loop
goes on in state 0 after the whole run, whatever `Value` then holds. -/
theorem yields_overflow {d u : List UInt8} (hb : buf.drop st.i = d ++ u)
    (hlen : st.i + d.length ≤ len) (hs : st.state = 1 ∨ st.state = 3)
    (hd : ∀ c ∈ d, isDigit c = true) (hu : ∀ c ∈ u.head?, isDigit c = false)
    (hv₀ : st.value (st.state / 2) ≤ 255) (hv : 255 < d.foldl decimalStep (st.value (st.state / 2)))
    (h : ∀ v₀ v₁, Yields buf len ⟨st.i + d.length, 0, v₀, v₁⟩ x) : Yields buf len st x := by
  induction d generalizing st with
  | nil => exact absurd hv (by simpa only [List.foldl_nil, not_lt] using hv₀)
  | cons c d ih =>
      have hc : buf.getD st.i 0 = c := getD_of_drop hb
      have hdc : isDigit (buf.getD st.i 0) = true := hc ▸ hd c (List.mem_cons_self _ _)
      have hb' : buf.drop (st.i + 1) = d ++ u := @drop_add_of_drop buf st.i [c] _ hb
      have hd' : ∀ c ∈ d, isDigit c = true := fun c hc => hd c (List.mem_cons_of_mem _ hc)
      apply yields_pass (by simp only [List.length_cons] at hlen; omega) (by omega)
      by_cases hvc : decimalStep (st.value (st.state / 2)) c ≤ 255
      · rw [scanPass_of_digit hs hdc (hc ▸ hvc), hc]
        apply ih hb' (by simp only [List.length_cons] at hlen ⊢; omega)
          (by simpa only [setValue_state] using hs) hd'
        all_goals by_cases hk : st.state / 2 = 0 <;> simp [ScanState.value, hk] at hv hvc ⊢
        all_goals first
          | exact hvc
          | exact hv
          | exact fun v₀ v₁ => by
              simpa only [Nat.add_assoc, Nat.add_comm 1, List.length_cons] using h v₀ v₁
      · rw [scanPass_of_overflow hs hdc (hc ▸ Nat.lt_of_not_le hvc), hb', skipDigits_append hd' hu]
        exact h _ _

end Run

/-! ## The search -/

/-- From state 0 at `i`, where `u` is the rest of the string before its terminator, the loop
releases what the reference finds in `u`, whatever `Value` holds. -/
def Searches (buf rest : List UInt8) (len : Nat) (u : List UInt8) : Prop :=
  ∀ i, buf.drop i = u ++ 0 :: rest → i + u.length = len →
    ∀ v₀ v₁, Yields buf len ⟨i, 0, v₀, v₁⟩ (firstRelease (digitRuns u).2)

theorem digitRuns_fst_of_digit {c : UInt8} (hc : isDigit c = true) (cs : List UInt8) :
    (digitRuns (c :: cs)).1 = [] := by
  simp only [digitRuns, hc, if_true]; split <;> rfl

/-- Every string is its first run of digits followed by a rest that does not start with one. -/
theorem exists_run (u : List UInt8) :
    ∃ r t, u = r ++ t ∧ (∀ c ∈ r, isDigit c = true) ∧ ∀ c ∈ t.head?, isDigit c = false := by
  refine ⟨u.takeWhile isDigit, u.dropWhile isDigit, (List.takeWhile_append_dropWhile _ _).symm,
    fun c hc => List.mem_takeWhile_imp hc, fun c hc => ?_⟩
  have h := List.head?_dropWhile_not isDigit u
  rwa [Option.mem_def.mp hc] at h

theorem head_not_digit {t rest : List UInt8} (h : isDigit ((t ++ 0 :: rest).headD 0) = false) :
    ∀ c ∈ t.head?, isDigit c = false := by
  cases t <;> simp_all

/-- The terminator is not a digit. -/
theorem head_append_zero_not_digit {t rest : List UInt8} (ht : ∀ c ∈ t.head?, isDigit c = false) :
    ∀ c ∈ (t ++ 0 :: rest).head?, isDigit c = false := by
  cases t with
  | nil =>
      simp only [List.nil_append, List.head?_cons, Option.mem_def, Option.some.injEq]
      rintro _ rfl
      rfl
  | cons c t => simpa using ht

section Search

variable {buf rest : List UInt8} {len : Nat}

theorem searches_nil : Searches buf rest len [] := by
  intro i _ hlen v₀ v₁
  simpa [ScanState.release, digitRuns, firstRelease] using
    @yields_stop buf len ⟨i, 0, v₀, v₁⟩ (Or.inl (by simp only [List.length_nil] at hlen ⊢; omega))

theorem searches_cons_of_not_digit {c : UInt8} {u : List UInt8} (hc : isDigit c = false)
    (h : Searches buf rest len u) : Searches buf rest len (c :: u) := by
  intro i hb hlen v₀ v₁
  have hci : buf.getD i 0 = c := getD_of_drop hb
  rw [digitRuns_of_not_digit hc]
  apply yields_pass (by simp only [List.length_cons] at hlen ⊢; omega) (by simp only [zero_lt_four])
  rw [scanPass_of_zero_of_not_digit rfl (hci ▸ hc)]
  exact h (i + 1) (@drop_add_of_drop buf i [c] _ hb)
    (by simp only [List.length_cons] at hlen; omega) v₀ v₁

/-- State 3 at the first digit of the minor part `r₂` of a candidate `r . r₂`. -/
theorem yields_minor {r r₂ t : List UInt8} {j : Nat} (hr : decimalValue r ≤ 255) (hr₂ : r₂ ≠ [])
    (hd : ∀ c ∈ r₂, isDigit c = true) (ht : ∀ c ∈ t.head?, isDigit c = false)
    (hb : buf.drop j = r₂ ++ t ++ 0 :: rest) (hlen : j + (r₂ ++ t).length = len)
    (h : Searches buf rest len t) :
    Yields buf len ⟨j, 3, decimalValue r, 0⟩ (firstRelease ((r, [46]) :: (digitRuns (r₂ ++ t)).2)) := by
  have hb' : buf.drop j = r₂ ++ (t ++ 0 :: rest) := by rw [hb, List.append_assoc]
  have hlen' : j + r₂.length + t.length = len := by simp only [List.length_append] at hlen; omega
  rw [digitRuns_append hr₂ hd ht]
  by_cases hv : decimalValue r₂ ≤ 255
  · rw [firstRelease, if_pos ⟨rfl, hr, hv⟩]
    apply @yields_digits buf len ⟨j, 3, decimalValue r, 0⟩ _ r₂ _ hb' (by simp only; omega)
      (Or.inr rfl) hd
      (by simpa only [ScanState.value, Nat.reduceDiv, one_ne_zero, if_false] using hv)
    simp only [ScanState.setValue, ScanState.value, show (3 : Nat) / 2 = 1 from rfl, Nat.one_ne_zero,
      if_false]
    have hbt := drop_add_of_drop hb'
    cases t with
    | nil => exact yields_stop (Or.inl (by simp only [List.length_nil] at hlen' ⊢; omega))
    | cons c t =>
        have hc : buf.getD (j + r₂.length) 0 = c := getD_of_drop hbt
        apply yields_pass (by simp only [List.length_cons] at hlen' ⊢; omega)
          (by simp only [Nat.lt_add_one])
        rw [scanPass_of_three_of_not_digit rfl (by rw [hc]; exact ht c rfl)]
        exact yields_stop (Or.inr le_rfl)
  · rw [firstRelease, if_neg (by simp [hv]), firstRelease_cons_of_not (by simp [hv])]
    refine @yields_overflow buf len ⟨j, 3, decimalValue r, 0⟩ _ r₂ _ hb' (by simp only; omega)
      (Or.inr rfl) hd (head_append_zero_not_digit ht) (by simp [ScanState.value])
      (by simpa only [Nat.reduceDiv, not_le] using hv) ?_
    exact fun v₀ v₁ => h _ (drop_add_of_drop hb') hlen' v₀ v₁

/-- State 1 at the end of the major part `r` of a candidate. -/
theorem yields_major_end {r t : List UInt8} {j : Nat} (hr : decimalValue r ≤ 255)
    (ht : ∀ c ∈ t.head?, isDigit c = false) (hb : buf.drop j = t ++ 0 :: rest)
    (hlen : j + t.length = len) (h : ∀ k, Searches buf rest len (t.drop k)) :
    Yields buf len ⟨j, 1, decimalValue r, 0⟩
      (firstRelease ((r, (digitRuns t).1) :: (digitRuns t).2)) := by
  cases t with
  | nil =>
      simpa [ScanState.release, digitRuns, firstRelease] using
        @yields_stop buf len ⟨j, 1, decimalValue r, 0⟩
          (Or.inl (by simp only [List.length_nil] at hlen ⊢; omega))
  | cons c t =>
      have hc : isDigit c = false := ht c rfl
      have hcj : buf.getD j 0 = c := getD_of_drop hb
      have hb' : buf.drop (j + 1) = t ++ 0 :: rest := @drop_add_of_drop buf j [c] _ hb
      rw [digitRuns_of_not_digit hc]
      apply yields_pass (by simp only [List.length_cons] at hlen ⊢; omega) (by simp only [Nat.reduceLT])
      rw [scanPass_of_one_of_not_digit rfl (hcj ▸ hc), hcj, getD_of_drop hb']
      by_cases hdot : c = 46 ∧ isDigit ((t ++ 0 :: rest).headD 0)
      · rw [if_pos hdot]
        obtain ⟨rfl, hd⟩ := hdot
        cases t with
        | nil => simp [isDigit] at hd
        | cons c t =>
            obtain ⟨r₂, t₂, rfl, hd₂, ht₂⟩ := exists_run t
            have hc : isDigit c = true := by simpa using hd
            rw [digitRuns_fst_of_digit hc]
            exact yields_minor hr (List.cons_ne_nil c r₂) (List.forall_mem_cons.mpr ⟨hc, hd₂⟩) ht₂
              (by simpa only [List.cons_append, List.append_assoc] using hb')
              (by simp only [List.length_cons, List.length_append] at hlen ⊢; omega)
              (by simpa only [List.drop_succ_cons, List.drop_left'] using h (r₂.length + 2))
      · rw [if_neg hdot, firstRelease_cons_of_not]
        · refine h 1 (j + 1) hb' ?_ _ _
          simp only [List.length_cons, List.drop_succ_cons, List.drop_zero] at hlen ⊢
          omega
        · rintro ⟨hg, hne, -⟩
          simp only [List.cons.injEq] at hg
          refine hdot ⟨hg.1, by_contra fun hd => ?_⟩
          rcases digitRuns_fst_ne_nil (head_not_digit (Bool.eq_false_iff.mpr hd)) with h' | h'
          exacts [h' hg.2, hne h']

/-- State 0 at the first digit of a candidate: the major part `r` is read whole, and is
abandoned when it passes 255. -/
theorem searches_of_run {r t : List UInt8} (hr : r ≠ []) (hd : ∀ c ∈ r, isDigit c = true)
    (ht : ∀ c ∈ t.head?, isDigit c = false) (h : ∀ k, Searches buf rest len (t.drop k)) :
    Searches buf rest len (r ++ t) := by
  intro i hb hlen v₀ v₁
  obtain ⟨c, r, rfl⟩ := List.exists_cons_of_ne_nil hr
  have hc := hd c (List.mem_cons_self _ _)
  have hd' : ∀ c ∈ r, isDigit c = true := fun c hc => hd c (List.mem_cons_of_mem _ hc)
  have hci : buf.getD i 0 = c := getD_of_drop hb
  have hb' : buf.drop (i + 1) = r ++ (t ++ 0 :: rest) := by
    simpa only [List.length_singleton] using
      @drop_add_of_drop buf i [c] _ (by simpa only [List.singleton_append, List.append_assoc] using hb)
  have hlen' : i + 1 + r.length + t.length = len := by
    simp only [List.cons_append, List.length_cons, List.length_append] at hlen; omega
  rw [digitRuns_append hr hd ht]
  apply yields_pass (by simp only; omega) (by simp only [zero_lt_four])
  rw [scanPass_of_zero_of_digit rfl (hci ▸ hc), hci]
  by_cases hv : decimalValue (c :: r) ≤ 255
  · refine @yields_digits buf len ⟨i + 1, 1, decimalStep 0 c, 0⟩ _ r _ hb' (by simp only; omega)
      (Or.inl rfl) hd' (by simpa only [ScanState.value, Nat.reduceDiv, if_true] using hv) ?_
    simp only [ScanState.setValue, ScanState.value, show (1 : Nat) / 2 = 0 from rfl, if_true]
    exact yields_major_end hv ht (drop_add_of_drop hb') (by omega) h
  · rw [firstRelease_cons_of_not (by simp [hv])]
    refine @yields_overflow buf len ⟨i + 1, 1, decimalStep 0 c, 0⟩ _ r _ hb' (by simp only; omega)
      (Or.inl rfl) hd' (head_append_zero_not_digit ht) ?_
      (by simpa only [ScanState.value, Nat.reduceDiv, if_true, not_le] using hv) ?_
    · simp only [ScanState.value, decimalStep, if_true]
      have := isDigit_sub_le hc
      omega
    · exact fun v₀ v₁ => h 0 _ (drop_add_of_drop hb') (by simp only [List.drop_zero]; omega) v₀ v₁

/-- The loop releases what the reference finds, from state 0 anywhere in the string. -/
theorem searches_all (u : List UInt8) : Searches buf rest len u := by
  obtain ⟨n, hn⟩ : ∃ n, u.length = n := ⟨_, rfl⟩
  induction n using Nat.strong_induction_on generalizing u with
  | _ n ih =>
      cases u with
      | nil => exact searches_nil
      | cons c u =>
          cases hc : isDigit c
          · exact searches_cons_of_not_digit hc (ih u.length (by simp at hn; omega) u rfl)
          · obtain ⟨r, t, rfl, hd, ht⟩ := exists_run u
            refine searches_of_run (List.cons_ne_nil c r) (List.forall_mem_cons.mpr ⟨hc, hd⟩) ht
              fun k => ih _ ?_ _ rfl
            simp at hn ⊢
            omega

end Search

/-- The release fields read back what the scan released, and are untouched otherwise. -/
theorem biosRelease_setBiosRelease (st : ScanState) {record : List UInt8}
    (hrecord : 0x16 ≤ record.length) (hv : ∀ a b, st.release = some (a, b) → a ≤ 255 ∧ b ≤ 255) :
    biosRelease (setBiosRelease st record) = st.release.getD (biosRelease record) := by
  unfold setBiosRelease
  by_cases hs : st.state = 3 ∨ st.state = 4
  · have h₁ : 0x14 + 1 ≤ record.length := by omega
    have h₂ : 0x15 + 1 ≤ (writeField record 0x14 1 st.value0).length := by
      rw [length_writeField h₁]; omega
    have hrel : st.release = some (st.value0, st.value1) := if_pos hs
    have hle := hv _ _ hrel
    rw [if_pos hs, hrel, Option.getD_some, biosRelease, readField_writeField h₂,
      readField_writeField_of_disjoint h₂ _ (Or.inl le_rfl), readField_writeField h₁,
      Nat.pow_one, Nat.mod_eq_of_lt (by omega), Nat.mod_eq_of_lt (by omega)]
  · rw [if_neg hs, show st.release = none from if_neg hs, Option.getD_none]

/-- The release fields are in the first `0x16` bytes of a record. -/
theorem biosRelease_append {record : List UInt8} (h : 0x16 ≤ record.length) (rest : List UInt8) :
    biosRelease (record ++ rest) = biosRelease record := by
  rw [biosRelease, @readField_append record 0x14 1 rest (by omega),
    @readField_append record 0x15 1 rest (by omega), biosRelease]

/-- A store after the release fields leaves them. -/
theorem biosRelease_writeField {record : List UInt8} {off width : Nat} (hoff : 0x16 ≤ off)
    (h : off + width ≤ record.length) (value : Nat) :
    biosRelease (writeField record off width value) = biosRelease record := by
  rw [biosRelease, readField_writeField_of_disjoint h value (Or.inl (by omega)),
    readField_writeField_of_disjoint h value (Or.inl (by omega)), biosRelease]

/-- The loop ends in state 3 or 4 exactly when the string has a run of value at most 255
followed by exactly one `.` and a second run of value at most 255, with the values of the first
such pair in `Value`; the release fields then read back those values, and otherwise keep
theirs. -/
theorem scanVersion_firstRelease (s rest record : List UInt8) (value : Nat × Nat) (hs : 0 ∉ s)
    (hrecord : 0x16 ≤ record.length) :
    (scanVersion (s ++ 0 :: rest) value).release = firstRelease (digitRuns s).2 ∧
      biosRelease (setBiosRelease (scanVersion (s ++ 0 :: rest) value) record) =
        (firstRelease (digitRuns s).2).getD (biosRelease record) := by
  have hrel : (scanVersion (s ++ 0 :: rest) value).release = firstRelease (digitRuns s).2 :=
    @searches_all (s ++ 0 :: rest) rest _ s 0 rfl (by rw [cString_append_zero hs]; simp)
      value.1 value.2 _ (Nat.sub_le _ _)
  refine ⟨hrel, ?_⟩
  rw [← hrel]
  exact biosRelease_setBiosRelease _ hrecord fun a b h => firstRelease_le (hrel ▸ h)

/-- `"X83737.1 v1.23"`: the overflowing run and the run before a space are passed over. -/
example : firstRelease (digitRuns [88, 56, 51, 55, 51, 55, 46, 49, 32, 118, 49, 46, 50, 51]).2 =
    some (1, 23) := by decide

end PlatformSmbios
