import AccessGateway.Proofs.Text.Numeral
import AccessGateway.Text.Decimal
import Mathlib.Algebra.Ring.Nat
import Mathlib.Tactic.Ring

/-!
# `AccessGateway.Proofs.Text.Decimal`: the value of a row of digits

A number is written with the digits that it needs, or with more, filled up with zeros to a width.

* `digitsValue_ofNat`, `digitsValue_padded`: either way the digits have the value of the number.
* `Numeral.ofNat_injective`, `Numeral.ofInt_injective`: so no two numbers are written alike.
* `Numeral.length_padded`: what is filled up has the width that was asked for.
* `append_lt_of_digitsValue_lt`, `Numeral.padded_append_lt`: rows of digits of one width are ordered
  as their values. The order of points in time by their texts rests on this: each part of a date
  has its width, and what follows a part decides only where the parts are equal.
* `Numeral.readInt_eq_ok_iff`: which texts are numerals of a signed word, and of which number.
  `IsSigned` says so without the reader, which stops at the first digit that is too much.
-/

set_option autoImplicit false

namespace AccessGateway.Text

/-! ### The digits of a number -/

/-- The digits of a number have its value, so writing a number loses nothing. -/
theorem digitsValue_ofNat (n : Nat) : digitsValue (Numeral.ofNat n) = n := by
  have hdigit : ∀ d, (Numeral.digitChar d).toNat - '0'.toNat = d % 10 := by
    intro d
    have hread := Numeral.digit?_digitChar d
    rw [Numeral.digit?, if_pos (Numeral.isDigit_digitChar d)] at hread
    exact Option.some.inj hread
  induction n using Numeral.ofNat.induct with
  | case1 n hsmall =>
    rw [Numeral.ofNat, if_pos hsmall]
    show 0 * 10 + ((Numeral.digitChar n).toNat - '0'.toNat) = n
    rw [hdigit]
    omega
  | case2 n hlarge ih =>
    rw [Numeral.ofNat, if_neg hlarge, digitsValue, List.foldl_append]
    show digitsValue (Numeral.ofNat (n / 10)) * 10 + ((Numeral.digitChar n).toNat - '0'.toNat) = n
    rw [ih, hdigit]
    omega

/-- Numbers with the same digits are the same, since the digits have their value. -/
theorem Numeral.ofNat_injective : Function.Injective Numeral.ofNat :=
  Function.LeftInverse.injective digitsValue_ofNat

/-- A signed number is written with digits and perhaps a minus sign, and with no other character. -/
theorem Numeral.eq_minus_or_isDigit_of_mem_ofInt {n : Int} {c : Char} (hc : c ∈ ofInt n) :
    c = '-' ∨ c.isDigit = true := by
  cases n with
  | ofNat n => exact Or.inr (isDigit_of_mem_ofNat hc)
  | negSucc n => exact (List.mem_cons.mp hc).imp_right isDigit_of_mem_ofNat

/-- Signed numbers with the same text are the same: a minus sign is no digit, so the text shows the
sign too. -/
theorem Numeral.ofInt_injective : Function.Injective Numeral.ofInt := by
  have hsign : ∀ m n : Nat, ofNat m ≠ '-' :: ofNat n := by
    intro m n h
    obtain ⟨c, rest, hdigits, -, hminus⟩ := ofNat_eq_cons m
    exact hminus (List.cons.inj (hdigits.symm.trans h)).1
  intro m n h
  match m, n with
  | .ofNat m, .ofNat n => exact congrArg Int.ofNat (ofNat_injective h)
  | .ofNat m, .negSucc n => exact absurd h (hsign m (n + 1))
  | .negSucc m, .ofNat n => exact absurd h.symm (hsign n (m + 1))
  | .negSucc m, .negSucc n =>
    have hsucc : m + 1 = n + 1 := ofNat_injective (List.cons.inj h).2
    exact congrArg Int.negSucc (Nat.succ.inj hsucc)

/-- A number has no more digits than a width that is wide enough, that is, one whose power of ten
exceeds it. -/
theorem Numeral.length_ofNat_le {width n : Nat} (hwidth : 0 < width) (hn : n < 10 ^ width) :
    (ofNat n).length ≤ width := by
  induction n using ofNat.induct generalizing width with
  | case1 n hsmall =>
    rw [ofNat, if_pos hsmall]
    exact hwidth
  | case2 n hlarge ih =>
    obtain ⟨width, rfl⟩ : ∃ less, width = less + 1 := ⟨width - 1, by omega⟩
    have hless : 0 < width := by
      -- one digit would not be enough
      rcases Nat.eq_zero_or_pos width with rfl | hpos
      · simp at hn
        omega
      · exact hpos
    have htenth : n / 10 < 10 ^ width := by
      rw [Nat.pow_succ] at hn
      omega
    rw [ofNat, if_neg hlarge, List.length_append, List.length_singleton]
    have hlength := ih hless htenth
    omega

/-! ### Digits filled up with zeros -/

/-- Zeros in front do not count for the value of a row of digits, however many there are. -/
theorem digitsValue_replicate_append (count : Nat) (digits : List Char) :
    digitsValue (List.replicate count '0' ++ digits) = digitsValue digits := by
  induction count with
  | zero => rfl
  | succ count ih => exact ih

/-- Zeros in front do not change the value, whether they were needed for the width or not. -/
theorem digitsValue_padded (width n : Nat) : digitsValue (Numeral.padded width n) = n := by
  rw [Numeral.padded, digitsValue_replicate_append, digitsValue_ofNat]

namespace Numeral

variable {width n : Nat}

/-- A number that is filled up has the width that it was filled up to, if it fits. A number that
does not would be longer. -/
theorem length_padded (hwidth : 0 < width) (hn : n < 10 ^ width) :
    (padded width n).length = width := by
  have hlength := length_ofNat_le hwidth hn
  simp only [padded, List.length_append, List.length_replicate]
  omega

/-- What is filled up is digits only, the zeros in front included. -/
theorem isDigit_of_mem_padded {c : Char} (hc : c ∈ padded width n) : c.isDigit = true := by
  rw [padded, List.mem_append] at hc
  rcases hc with hzero | hdigit
  · rw [(List.mem_replicate.mp hzero).2]
    rfl
  · exact isDigit_of_mem_ofNat hdigit

end Numeral

/-! ### The order of rows of digits -/

/-- The numbers of the digits, which stand in a row from 48 on. -/
theorem toNat_of_isDigit {c : Char} (hc : c.isDigit = true) : 48 ≤ c.toNat ∧ c.toNat ≤ 57 := by
  simpa [Char.isDigit, UInt32.le_iff_toNat_le] using hc

/-- The digits read so far weigh as much as there are digits behind them. -/
theorem foldl_digits_acc (digits : List Char) (acc : Nat) :
    digits.foldl (fun acc c => acc * 10 + (c.toNat - '0'.toNat)) acc
      = acc * 10 ^ digits.length + digitsValue digits := by
  induction digits generalizing acc with
  | nil => simp [digitsValue]
  | cons c rest ih =>
    have hacc := ih (acc * 10 + (c.toNat - '0'.toNat))
    have hnone := ih (0 * 10 + (c.toNat - '0'.toNat))
    simp only [digitsValue, List.foldl_cons, List.length_cons, Nat.pow_succ] at hacc hnone ⊢
    rw [hacc, hnone]
    ring

/-- The first digit weighs as much as there are digits behind it. -/
theorem digitsValue_cons (c : Char) (rest : List Char) :
    digitsValue (c :: rest) = (c.toNat - '0'.toNat) * 10 ^ rest.length + digitsValue rest := by
  show rest.foldl _ (0 * 10 + (c.toNat - '0'.toNat)) = _
  rw [foldl_digits_acc, Nat.zero_mul, Nat.zero_add]

/-- A row of digits has a value that needs no more of them: it is below the power of ten of their
count. -/
theorem digitsValue_lt {digits : List Char} (hdigits : ∀ c ∈ digits, c.isDigit = true) :
    digitsValue digits < 10 ^ digits.length := by
  induction digits with
  | nil => exact Nat.zero_lt_one
  | cons c rest ih =>
    obtain ⟨hc, hrest⟩ := List.forall_mem_cons.mp hdigits
    have hdigit : c.toNat - '0'.toNat ≤ 9 := Nat.sub_le_sub_right (toNat_of_isDigit hc).2 48
    have hfirst := Nat.mul_le_mul_right (10 ^ rest.length) hdigit
    have hvalue := ih hrest
    rw [digitsValue_cons, List.length_cons, Nat.pow_succ]
    omega

/-- Of two rows of digits of one length, the one with the smaller value comes first, whatever
follows them. -/
theorem append_lt_of_digitsValue_lt {digits others : List Char}
    (hlength : digits.length = others.length) (hdigits : ∀ c ∈ digits, c.isDigit = true)
    (hothers : ∀ c ∈ others, c.isDigit = true) (hlt : digitsValue digits < digitsValue others)
    (rest rest' : List Char) : digits ++ rest < others ++ rest' := by
  induction digits generalizing others with
  | nil =>
    rw [List.eq_nil_of_length_eq_zero hlength.symm] at hlt
    exact absurd hlt (Nat.lt_irrefl _)
  | cons c digits ih =>
    obtain ⟨d, others, rfl⟩ := List.exists_cons_of_length_eq_add_one hlength.symm
    have hrest := (List.forall_mem_cons.mp hdigits).2
    obtain ⟨hd, hrest'⟩ := List.forall_mem_cons.mp hothers
    have hsame : digits.length = others.length := Nat.succ.inj hlength
    rw [digitsValue_cons, digitsValue_cons, hsame] at hlt
    rw [List.cons_append, List.cons_append, List.cons_lt_cons_iff]
    rcases Nat.lt_trichotomy c.toNat d.toNat with hless | hequal | hmore
    · exact Or.inl hless
    · obtain rfl : c = d := Char.toNat_inj.mp hequal
      exact Or.inr ⟨rfl, ih hsame hrest hrest' (Nat.lt_of_add_lt_add_left hlt)⟩
    · -- a larger digit outweighs all digits behind the smaller one
      have hdigit : d.toNat - '0'.toNat + 1 ≤ c.toNat - '0'.toNat := by
        have hlow : 48 ≤ d.toNat := (toNat_of_isDigit hd).1
        show d.toNat - 48 + 1 ≤ c.toNat - 48
        omega
      have hweight := Nat.mul_le_mul_right (10 ^ others.length) hdigit
      have hvalue := digitsValue_lt hrest'
      rw [Nat.add_mul, Nat.one_mul] at hweight
      omega

namespace Numeral

variable {width m n : Nat}

/-- A number that is filled up with zeros comes before a larger one of the same width, and before
itself if what follows does. -/
theorem padded_append_lt {rest rest' : List Char} (hwidth : 0 < width) (hn : n < 10 ^ width)
    (h : m < n ∨ m = n ∧ rest < rest') : padded width m ++ rest < padded width n ++ rest' := by
  rcases h with hlt | ⟨rfl, hrest⟩
  · refine append_lt_of_digitsValue_lt ?_ (fun c => isDigit_of_mem_padded)
      (fun c => isDigit_of_mem_padded) ?_ rest rest'
    · rw [length_padded hwidth hn, length_padded hwidth (Nat.lt_trans hlt hn)]
    · rwa [digitsValue_padded, digitsValue_padded]
  · exact List.append_left_lt hrest

/-! ### Numerals of a signed word -/

/-- A row of digits that is a numeral. -/
def IsDigits (digits : List Char) : Prop := digits ≠ [] ∧ ∀ c ∈ digits, c.isDigit = true

/-- A numeral of a signed 64-bit word: digits, leading zeros included, with at most one sign in
front. There is one more number below zero than above. -/
inductive IsSigned : List Char → Int → Prop where
  | plain {digits : List Char} (form : IsDigits digits)
      (bound : digitsValue digits ≤ 2 ^ 63 - 1) : IsSigned digits (digitsValue digits)
  | plus {digits : List Char} (form : IsDigits digits)
      (bound : digitsValue digits ≤ 2 ^ 63 - 1) : IsSigned ('+' :: digits) (digitsValue digits)
  | minus {digits : List Char} (form : IsDigits digits)
      (bound : digitsValue digits ≤ 2 ^ 63) : IsSigned ('-' :: digits) (-digitsValue digits)

/-- A digit has the value of its place among the ten, and nothing else has one. -/
theorem digit?_eq_some_iff {c : Char} {d : Nat} :
    digit? c = some d ↔ c.isDigit = true ∧ d = c.toNat - '0'.toNat := by
  rw [digit?]
  split
  · rename_i hc
    simp [hc, eq_comm]
  · rename_i hc
    simp [hc]

/-- More digits make a number no smaller, so one that has exceeded a limit stays beyond it. -/
theorem le_foldl_digits (digits : List Char) (acc : Nat) :
    acc ≤ digits.foldl (fun acc c => acc * 10 + (c.toNat - '0'.toNat)) acc := by
  induction digits generalizing acc with
  | nil => exact Nat.le_refl acc
  | cons c rest ih =>
    refine Nat.le_trans ?_ (ih _)
    show acc ≤ acc * 10 + (c.toNat - '0'.toNat)
    omega

/-- Digits are read when there is nothing else among them and their value is within the limit. -/
theorem readDigits_eq_ok_iff {limit : Nat} {beyond : Fault} {digits : List Char} {acc n : Nat}
    (hacc : acc ≤ limit) :
    readDigits limit beyond acc digits = .ok n
      ↔ (∀ c ∈ digits, c.isDigit = true) ∧ n ≤ limit ∧
        n = digits.foldl (fun acc c => acc * 10 + (c.toNat - '0'.toNat)) acc := by
  induction digits generalizing acc with
  | nil =>
    rw [readDigits, Except.ok.injEq]
    constructor
    · rintro rfl
      exact ⟨List.forall_mem_nil _, hacc, rfl⟩
    · exact fun h => h.2.2.symm
  | cons c rest ih =>
    rw [readDigits, List.forall_mem_cons, List.foldl_cons]
    cases hdigit : digit? c with
    | none =>
      have hc : c.isDigit ≠ true := fun hc => by
        rw [digit?, if_pos hc] at hdigit
        cases hdigit
      refine iff_of_false ?_ fun h => hc h.1.1
      rintro ⟨⟩
    | some d =>
      obtain ⟨hc, rfl⟩ := digit?_eq_some_iff.mp hdigit
      show (if _ then _ else _) = _ ↔ _
      split
      · rename_i hbound
        rw [ih hbound, and_iff_right hc]
      · -- the digits that are left do not make the number smaller
        rename_i hbound
        refine iff_of_false ?_ ?_
        · rintro ⟨⟩
        · rintro ⟨-, hlimit, rfl⟩
          exact hbound (Nat.le_trans (le_foldl_digits rest _) hlimit)

/-- A row of digits is read as its value, within the limit. The function on top is the sign that
stood in front. -/
theorem map_readDigits_eq_ok_iff {limit : Nat} {beyond : Fault} {digits : List Char}
    {number : Nat → Int} {n : Int} (hdigits : digits ≠ []) :
    (readDigits limit beyond 0 digits).map number = .ok n
      ↔ IsDigits digits ∧ digitsValue digits ≤ limit ∧ number (digitsValue digits) = n := by
  have hread : ∀ value, readDigits limit beyond 0 digits = .ok value ↔ _ :=
    fun value => readDigits_eq_ok_iff (Nat.zero_le limit)
  constructor
  · intro h
    cases hvalue : readDigits limit beyond 0 digits with
    | error fault =>
      rw [hvalue] at h
      cases h
    | ok value =>
      obtain ⟨hall, hbound, rfl⟩ := (hread value).mp hvalue
      rw [hvalue] at h
      exact ⟨⟨hdigits, hall⟩, hbound, Except.ok.inj h⟩
  · rintro ⟨⟨-, hall⟩, hbound, rfl⟩
    rw [(hread _).mpr ⟨hall, hbound, rfl⟩]
    rfl

/-- A row of digits begins with none of the signs, nor with anything else that is no digit. -/
theorem not_isDigits_cons {c : Char} {rest : List Char} (hc : c.isDigit = false) :
    ¬ IsDigits (c :: rest) :=
  fun h => Bool.false_ne_true (hc.symm.trans (h.2 c List.mem_cons_self))

/-- A reader of signed words takes their numerals and nothing else. The cases are those of the
reader: nothing, a sign alone, a sign in front, and no sign. -/
theorem readInt_eq_ok_iff {text : List Char} {n : Int} :
    readInt text = .ok n ↔ IsSigned text n := by
  have hfault : ∀ {fault : Fault}, (Except.error fault : Except Fault Int) ≠ .ok n := by
    rintro fault ⟨⟩
  rw [readInt.eq_def]
  split
  · refine iff_of_false hfault fun h => ?_
    cases h with
    | plain form => exact absurd rfl form.1
  · -- a sign alone
    refine iff_of_false hfault fun h => ?_
    cases h with
    | plain form => exact absurd form (not_isDigits_cons (by decide))
    | plus form => exact absurd rfl form.1
  · refine iff_of_false hfault fun h => ?_
    cases h with
    | plain form => exact absurd form (not_isDigits_cons (by decide))
    | minus form => exact absurd rfl form.1
  · rename_i rest hrest
    rw [map_readDigits_eq_ok_iff hrest]
    constructor
    · rintro ⟨form, hbound, rfl⟩
      exact .plus form hbound
    · intro h
      cases h with
      | plain form => exact absurd form (not_isDigits_cons (by decide))
      | plus form bound => exact ⟨form, bound, rfl⟩
  · rename_i rest hrest
    rw [map_readDigits_eq_ok_iff hrest]
    constructor
    · rintro ⟨form, hbound, rfl⟩
      exact .minus form hbound
    · intro h
      cases h with
      | plain form => exact absurd form (not_isDigits_cons (by decide))
      | minus form bound => exact ⟨form, bound, rfl⟩
  · rename_i hnil _ _ hplus hminus
    rw [map_readDigits_eq_ok_iff hnil]
    constructor
    · rintro ⟨form, hbound, rfl⟩
      exact .plain form hbound
    · intro h
      cases h with
      | plain form bound => exact ⟨form, bound, rfl⟩
      | plus => exact absurd rfl (hplus _)
      | minus => exact absurd rfl (hminus _)

end Numeral

end AccessGateway.Text
