import AccessGateway.Text.Numeral

/-!
# `AccessGateway.Proofs.Text.Numeral`: a number that was written is read back

Counters, ports and points in time are stored as text between two calls, so what the next call
sees of them is what it reads.

* `Numeral.readDigits_ofNat`: the digits of a number, in front of any text, are read as the number.
  The limit is checked at each digit, and no number on the way exceeds the one that comes out.
* `Numeral.readNat_ofNat`, `Numeral.readInt_ofInt`: so are whole numerals within their bounds.
* `Numeral.addSigned_eq_add`, `Numeral.mulWord_eq_mul`: the arithmetic of words is that of numbers
  as long as the result is a word. Both hypotheses are about the result, so nothing is asked of
  the operands.
-/

set_option autoImplicit false

namespace AccessGateway.Text.Numeral

/-- The character of a digit is read as the digit; of a larger number it is the last one. -/
theorem digit?_digitChar (d : Nat) : digit? (digitChar d) = some (d % 10) := by
  have hdigits : ∀ d < 10, digit? (Char.ofNat ('0'.toNat + d)) = some d := by decide
  exact hdigits (d % 10) (Nat.mod_lt d (by decide))

/-- A number is written with digits only, each the character of some digit. -/
theorem exists_digit_of_mem_ofNat (n : Nat) : ∀ c ∈ ofNat n, ∃ d, c = digitChar d := by
  induction n using ofNat.induct with
  | case1 n hsmall =>
    intro c hc
    rw [ofNat, if_pos hsmall, List.mem_singleton] at hc
    exact ⟨n, hc⟩
  | case2 n hlarge ih =>
    intro c hc
    rw [ofNat, if_neg hlarge, List.mem_append, List.mem_singleton] at hc
    rcases hc with hc | hc
    · exact ih c hc
    · exact ⟨n, hc⟩

/-- No digit is a sign, so a reader cannot take the first digit of a number for one. -/
theorem digitChar_ne_sign (d : Nat) : digitChar d ≠ '+' ∧ digitChar d ≠ '-' := by
  have hdigits : ∀ d < 10, Char.ofNat ('0'.toNat + d) ≠ '+' ∧ Char.ofNat ('0'.toNat + d) ≠ '-' := by
    decide
  exact hdigits (d % 10) (Nat.mod_lt d (by decide))

/-- The character of a digit is one of the ten. -/
theorem isDigit_digitChar (d : Nat) : (digitChar d).isDigit = true := by
  have hdigits : ∀ d < 10, (Char.ofNat ('0'.toNat + d)).isDigit = true := by decide
  exact hdigits (d % 10) (Nat.mod_lt d (by decide))

/-- Whatever stands in a written number is a digit. -/
theorem isDigit_of_mem_ofNat {n : Nat} {c : Char} (hc : c ∈ ofNat n) : c.isDigit = true := by
  obtain ⟨d, rfl⟩ := exists_digit_of_mem_ofNat n c hc
  exact isDigit_digitChar d

/-- Only a multiple of ten ends in zero: no other digit has that character. -/
theorem digitChar_eq_zero {d : Nat} (hzero : digitChar d = '0') : d % 10 = 0 := by
  have hdigits : ∀ d < 10, Char.ofNat ('0'.toNat + d) = '0' → d = 0 := by decide
  exact hdigits (d % 10) (Nat.mod_lt d (by decide)) hzero

/-- No number but zero is written with a leading zero, so a written number is a numeral of JSON as
it stands. -/
theorem head?_ofNat {n : Nat} (hn : n ≠ 0) : (ofNat n).head? ≠ some '0' := by
  induction n using ofNat.induct with
  | case1 n hsmall =>
    rw [ofNat, if_pos hsmall]
    intro hzero
    have := digitChar_eq_zero (Option.some.inj hzero)
    omega
  | case2 n hlarge ih =>
    rw [ofNat, if_neg hlarge, List.head?_append]
    have hhead := ih (by omega)
    cases hdigits : (ofNat (n / 10)).head? with
    | none =>
      rw [List.head?_eq_none_iff, ofNat] at hdigits
      split at hdigits
      · cases hdigits
      · exact absurd hdigits (by simp)
    | some c =>
      rw [hdigits] at hhead
      exact hhead

/-- A number is written with at least one digit, and the first is none of the signs. -/
theorem ofNat_eq_cons (n : Nat) : ∃ c rest, ofNat n = c :: rest ∧ c ≠ '+' ∧ c ≠ '-' := by
  cases hdigits : ofNat n with
  | nil =>
    rw [ofNat] at hdigits
    split at hdigits
    · cases hdigits
    · exact absurd hdigits (by simp)
  | cons c rest =>
    obtain ⟨d, rfl⟩ := exists_digit_of_mem_ofNat n c (hdigits ▸ List.mem_cons_self)
    exact ⟨_, rest, rfl, digitChar_ne_sign d⟩

/-- The digits of a number within the limit, in front of any text, are read as the number. The
number so far is a beginning of the one to come, so it stays within the limit too. -/
theorem readDigits_ofNat (limit : Nat) (beyond : Fault) (n : Nat) (rest : List Char)
    (hle : n ≤ limit) :
    readDigits limit beyond 0 (ofNat n ++ rest) = readDigits limit beyond n rest := by
  induction n using ofNat.induct generalizing rest with
  | case1 n hsmall =>
    rw [ofNat, if_pos hsmall, List.singleton_append, readDigits, digit?_digitChar]
    have hvalue : 0 * 10 + n % 10 = n := by omega
    simp only [hvalue, if_pos hle]
  | case2 n hlarge ih =>
    -- all digits but the last are those of the tenth
    rw [ofNat, if_neg hlarge, List.append_assoc, ih _ (by omega), List.singleton_append, readDigits,
      digit?_digitChar]
    have hvalue : n / 10 * 10 + n % 10 = n := by omega
    simp only [hvalue, if_pos hle]

/-- A number within the limit is read back, as its digits begin with no sign. -/
theorem readNat_ofNat {limit n : Nat} (hle : n ≤ limit) : readNat limit (ofNat n) = .ok n := by
  obtain ⟨c, rest, hdigits, hplus, -⟩ := ofNat_eq_cons n
  have hread := readDigits_ofNat limit .tooLarge n [] hle
  rw [List.append_nil, hdigits] at hread
  rw [hdigits, readNat, hread]
  · rfl
  -- the other patterns begin with a sign
  all_goals simp [hplus]

/-- A signed number within the bounds is read back, the smallest included, whose digits alone no
signed word holds. -/
theorem readInt_ofInt {n : Int} (hlower : -(maxSigned + 1 : Nat) ≤ n) (hupper : n ≤ maxSigned) :
    readInt (ofInt n) = .ok n := by
  cases n with
  | ofNat n =>
    obtain ⟨c, rest, hdigits, hplus, hminus⟩ := ofNat_eq_cons n
    have hread := readDigits_ofNat maxSigned .tooLarge n [] (by simpa using hupper)
    rw [List.append_nil, hdigits] at hread
    show readInt (ofNat n) = _
    rw [hdigits, readInt, hread]
    · rfl
    all_goals simp [hplus, hminus]
  | negSucc n =>
    obtain ⟨c, rest, hdigits, -, -⟩ := ofNat_eq_cons (n + 1)
    have hread := readDigits_ofNat (maxSigned + 1) .tooSmall (n + 1) [] (by omega)
    rw [List.append_nil] at hread
    show readInt ('-' :: ofNat (n + 1)) = _
    rw [hdigits, readInt, ← hdigits, hread]
    · rfl
    · simp

/-- Zero is read, as the text that an absent counter counts as. -/
theorem readInt_zero : readInt "0".toList = .ok 0 := rfl

/-! ### Words -/

/-- A sum that a signed word holds does not wrap around. -/
theorem addSigned_eq_add {a b : Int} (hlower : -(maxSigned + 1 : Nat) ≤ a + b)
    (hupper : a + b ≤ maxSigned) : addSigned a b = a + b := by
  rw [maxSigned] at hlower hupper
  rw [addSigned, maxWord]
  exact Int.bmod_eq_of_le (by omega) (by omega)

/-- Counting up from the largest signed word starts again at the smallest. -/
example : addSigned maxSigned 1 = -(maxSigned + 1 : Nat) := by decide

/-- A number that a signed word holds is followed by the next one, unless it is the largest. A
counter that began at zero is therefore the count of its steps until then. -/
theorem addSigned_natCast_one {n : Nat} (hlt : n < maxSigned) : addSigned n 1 = (n + 1 : Nat) :=
  addSigned_eq_add (by omega) (by omega)

/-- A product that a word holds does not wrap around. -/
theorem mulWord_eq_mul {a b : Nat} (hword : a * b ≤ maxWord) : mulWord a b = a * b :=
  Nat.mod_eq_of_lt (Nat.lt_succ_of_le hword)

end AccessGateway.Text.Numeral

namespace AccessGateway.Text

/-- The text of a number within the limit is read as the number. -/
theorem readNat_natText {limit n : Nat} (hle : n ≤ limit) :
    Numeral.readNat limit (natText n).toList = .ok n := by
  rw [natText, String.toList_ofList]
  exact Numeral.readNat_ofNat hle

/-- So it is by the reader of signed numbers, for a number that is no larger than a signed word. -/
theorem readInt_natText {n : Nat} (hle : n ≤ Numeral.maxSigned) :
    Numeral.readInt (natText n).toList = .ok (n : Int) := by
  rw [natText, String.toList_ofList]
  exact Numeral.readInt_ofInt (n := (n : Int)) (by omega) (Int.ofNat_le.mpr hle)

/-- The text of a number below ten is one digit. -/
theorem natText_digit {n : Nat} (hsmall : n < 10) :
    natText n = String.ofList [Numeral.digitChar n] := by
  rw [natText, Numeral.ofNat, if_pos hsmall]

/-- What an absent counter is read as. -/
theorem natText_zero : natText 0 = "0" := natText_digit (by decide)

/-- What is written where a count begins. -/
theorem intText_one : intText 1 = "1" := natText_digit (by decide)

/-- The largest signed word in digits. -/
theorem natText_maxSigned : natText Numeral.maxSigned = "9223372036854775807" := by
  rw [natText, Numeral.maxSigned]
  simp [Numeral.ofNat]
  rfl

end AccessGateway.Text
