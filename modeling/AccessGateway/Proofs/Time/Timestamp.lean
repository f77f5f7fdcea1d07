import AccessGateway.Proofs.Text.Decimal
import AccessGateway.Proofs.Time.Calendar
import AccessGateway.Time.Timestamp

/-!
# `AccessGateway.Proofs.Time.Timestamp`: a creation time is read back from its text

The text of a creation time is a row of fields, each filled up with zeros to a fixed width, with a
mark between any two of them. A reader takes as many digits as it can, so what matters of the text
behind a field is that it begins with none (`Timestamp.EndsField`).

Each part of the reader has a lemma that says what it takes from the front of a text that begins
with what was written, and what it leaves. The whole reader is then followed from part to part. In
the end it has the fields of the timestamp, and has to make the second from them, which is where the
calendar comes in. A leap second is written as second 60 and read as the second before it with a
mark, and the mark is the same as it was.

* `digits?_padded`, `field?_padded`, `year?_padded`: a field is read as the number in it.
* `fraction?_fractionText`: the fraction of a second is read as its nanoseconds, in however many
  digits it is written.
* `second_eq`: date and time of day make up the second, so that nothing is lost between them.
* `read?_text`: a creation time in a year of four digits is read back from its text.
-/

set_option autoImplicit false

namespace AccessGateway

namespace Text

/-- Digits are no blanks, so trimming stops in front of a number. -/
theorem isBlank_of_isDigit {c : Char} (hc : c.isDigit = true) : isBlank c = false := by
  have hrange := toNat_of_isDigit hc
  simp [isBlank]
  omega

/-- A text that begins with no blank has none to remove in front. -/
theorem trimStart_cons {c : Char} (hc : isBlank c = false) (rest : List Char) :
    trimStart (c :: rest) = c :: rest :=
  List.dropWhile_cons_of_neg (by simp [hc])

/-- What is filled up with zeros begins with a digit. -/
theorem Numeral.padded_eq_cons (width n : Nat) :
    ∃ d digits, padded width n = d :: digits ∧ d.isDigit = true := by
  have hne : padded width n ≠ [] := by
    obtain ⟨c, rest, hdigits, -⟩ := ofNat_eq_cons n
    simp [padded, hdigits]
  obtain ⟨d, digits, hdigits⟩ := List.exists_cons_of_ne_nil hne
  exact ⟨d, digits, hdigits, isDigit_of_mem_padded (hdigits ▸ List.mem_cons_self)⟩

/-- Nor has one that begins with a number, whatever follows it. -/
theorem trimStart_padded (width n : Nat) (rest : List Char) :
    trimStart (Numeral.padded width n ++ rest) = Numeral.padded width n ++ rest := by
  obtain ⟨d, digits, hdigits, hd⟩ := Numeral.padded_eq_cons width n
  rw [hdigits]
  exact trimStart_cons (isBlank_of_isDigit hd) _

end Text

namespace Time.Timestamp

open Text (trimStart_padded trimStart_cons isBlank_of_isDigit)
open Text.Numeral (padded length_padded isDigit_of_mem_padded padded_eq_cons)

/-! ### Fields -/

/-- A text does not begin with a digit, so a field in front of it ends there. -/
def EndsField (rest : List Char) : Prop := ∀ c ∈ rest.head?, c.isDigit = false

/-- A field ends in front of anything but a digit, so it need not be as long as it may. -/
theorem endsField_cons {c : Char} (hc : c.isDigit = false) (rest : List Char) :
    EndsField (c :: rest) := by
  rintro _ ⟨⟩
  exact hc

section
variable {width places n : Nat} {rest : List Char}

/-- A field is read as its number, by a reader that takes at least its width and is not led on by
what is behind. -/
theorem digits?_padded (hplaces : 0 < places) (hwidth : places ≤ width) (hn : n < 10 ^ places)
    (hrest : EndsField rest) :
    digits? width (padded places n ++ rest) = some (n, rest) := by
  have hlength : (padded places n).length = places := length_padded hplaces hn
  have hnone : ∀ count, (rest.take count).takeWhile Char.isDigit = [] := by
    intro count
    cases rest with
    | nil => simp
    | cons c more =>
      cases count with
      | zero => rfl
      | succ count =>
        rw [List.take_succ_cons]
        exact List.takeWhile_cons_of_neg (by simp [hrest c rfl])
  -- what is taken of the text is the whole field, and then no more digits
  have htaken : ((padded places n ++ rest).take width).takeWhile Char.isDigit
      = padded places n := by
    rw [List.take_append, List.take_of_length_le (by omega),
      List.takeWhile_append_of_pos fun c hc => isDigit_of_mem_padded hc, hnone, List.append_nil]
  obtain ⟨d, digits, hdigits, -⟩ := padded_eq_cons places n
  have hsome : (padded places n).isEmpty = false := by simp [hdigits]
  rw [digits?]
  simp only [htaken, hsome, Bool.false_eq_true, if_false, List.drop_left]
  show some (Text.digitsValue (padded places n), rest) = _
  rw [Text.digitsValue_padded]

/-- A field of two digits is read within its bounds, when no third digit follows it. -/
theorem field?_padded {low high : Nat} (hlow : low ≤ n) (hhigh : n ≤ high) (hsmall : n < 100)
    (hrest : EndsField rest) :
    field? low high (padded 2 n ++ rest) = some (n, rest) := by
  rw [field?, trimStart_padded, digits?_padded (by decide) (by decide) hsmall hrest]
  exact if_pos ⟨hlow, hhigh⟩

/-- A mark is read in its place, and nothing stands for it. -/
theorem mark?_cons {c : Char} (hc : Text.isBlank c = false) (rest : List Char) :
    mark? c (c :: rest) = some ((), rest) := by
  rw [mark?, trimStart_cons hc]
  simp

/-- A year of four digits is read, when no fifth follows it. -/
theorem year?_padded (hn : n < 10000) (hrest : EndsField rest) :
    year? (padded 4 n ++ rest) = some ((n : Int), rest) := by
  obtain ⟨d, digits, hdigits, hd⟩ := padded_eq_cons 4 n
  have hread : digits? 4 (padded 4 n ++ rest) = some (n, rest) :=
    digits?_padded (by decide) (by decide) hn hrest
  rw [hdigits, List.cons_append] at hread ⊢
  rw [year?, hread]
  · rfl
  -- the other forms of a year begin with a sign
  · rintro more ⟨⟩
    cases hd
  · rintro more ⟨⟩
    cases hd

/-! ### The fraction of a second -/

/-- The fraction is followed by the mark of UTC, and its places say how much its digits weigh. -/
theorem fraction?_padded (hplaces : 0 < places) (hwidth : places ≤ 9) (hn : n < 10 ^ places) :
    fraction? ('.' :: (padded places n ++ ['Z'])) = some (n * 10 ^ (9 - places), ['Z']) := by
  have hgiven : (padded places n ++ ['Z']).length - ['Z'].length = places := by
    rw [List.length_append, length_padded hplaces hn, Nat.add_sub_cancel]
  rw [fraction?, digits?_padded hplaces hwidth hn (endsField_cons (by rfl) [])]
  show some (n * Nat.pow 10 (9 - ((padded places n ++ ['Z']).length - ['Z'].length)), _) = _
  rw [hgiven]
  rfl

end

/-- The nanoseconds of a fraction are read back, in however many digits they are written. Zeros that
were dropped at the end are put back. -/
theorem fraction?_fractionText {nano : Nat} (hnano : nano < 1000000000) :
    fraction? (fractionText nano ++ ['Z']) = some (nano, ['Z']) := by
  unfold fractionText
  split
  · rename_i hzero
    rw [hzero]
    rfl
  split
  · rw [List.cons_append, fraction?_padded (by decide) (by decide) (by omega)]
    congr 2
    omega
  split
  · rw [List.cons_append, fraction?_padded (by decide) (by decide) (by omega)]
    congr 2
    omega
  · rw [List.cons_append, fraction?_padded (by decide) (by decide) hnano]
    congr 2
    omega

/-- Behind the seconds comes a point, or the mark of UTC where the fraction is zero. -/
theorem endsField_fractionText (nano : Nat) : EndsField (fractionText nano ++ ['Z']) := by
  unfold fractionText
  split
  · exact endsField_cons (by rfl) _
  split
  · exact endsField_cons (by rfl) _
  split
  · exact endsField_cons (by rfl) _
  · exact endsField_cons (by rfl) _

/-! ### Whole timestamps -/

/-- The year of a timestamp is one of the years 0 to 9999, which are written without a sign. -/
def HasFourDigitYear (t : Timestamp) : Prop := 0 ≤ t.date.year ∧ t.date.year ≤ 9999

instance (t : Timestamp) : Decidable t.HasFourDigitYear := inferInstanceAs (Decidable (_ ∧ _))

variable (t : Timestamp)

/-- The number on the clock in a leap second is one more than in the second before it. -/
def clockSecond : Nat := t.secondOfDay % 60 + if t.leap then 1 else 0

/-- The second of a timestamp is that of its date and its time of day, by the calendar. -/
theorem second_eq : (t.date.dayNumber - epochDay) * daySeconds + t.secondOfDay = t.second := by
  rw [date, Date.dayNumber_ofDay, secondOfDay, daySeconds]
  omega

/-- The time of day stays within the seconds of a day, a leap second being counted with the one
before. -/
theorem secondOfDay_lt : t.secondOfDay < 86400 := by
  rw [secondOfDay, daySeconds]
  omega

/-- A leap second follows the last second of a minute, and any other one has its own number. -/
theorem clockSecond_cases :
    t.leap = false ∧ t.clockSecond = t.secondOfDay % 60 ∨
    t.leap = true ∧ t.clockSecond = 60 ∧ t.secondOfDay % 60 = 59 := by
  rw [clockSecond]
  cases hleap : t.leap with
  | true =>
    have hlast : t.secondOfDay % 60 = 59 := by
      have := t.leap_follows_59 hleap
      rw [secondOfDay, daySeconds]
      omega
    exact Or.inr ⟨rfl, by rw [hlast, if_pos rfl], hlast⟩
  | false => exact Or.inl ⟨rfl, rfl⟩

/-- A leap second is known by its number, and stands for the second before it. -/
theorem clockSecond_spec :
    (t.clockSecond == 60) = t.leap ∧ t.clockSecond ≤ 60 ∧
    (if t.leap then 59 else t.clockSecond) = t.secondOfDay % 60 := by
  rcases t.clockSecond_cases with ⟨hleap, hclock⟩ | ⟨hleap, hclock, hlast⟩
  · have hlt : t.secondOfDay % 60 < 60 := Nat.mod_lt _ (by decide)
    simp [hleap, hclock]
    omega
  · simp [hleap, hclock, hlast]

/-- A creation time can be made from its own parts, as these are well formed. -/
theorem make?_self : make? t.second t.nano t.leap = some t := by
  rw [make?, dif_pos t.nano_lt, dif_pos t.leap_follows_59]

variable {t}

/-- Date and time of day, from field to field, in front of any text. -/
theorem wholeChars_append (h : t.HasFourDigitYear) (rest : List Char) :
    t.wholeChars ++ rest = padded 4 t.date.year.toNat ++ '-' :: (padded 2 t.date.month ++ '-' ::
      (padded 2 t.date.day ++ 'T' :: (padded 2 (t.secondOfDay / 3600) ++ ':' ::
        (padded 2 (t.secondOfDay / 60 % 60) ++ ':' :: (padded 2 t.clockSecond ++ rest))))) := by
  have hyear : yearText t.date.year = padded 4 t.date.year.toNat := if_pos h
  rw [wholeChars, dateText, hyear, clockText, clockSecond]
  simp only [List.append_assoc, List.cons_append]

/-- A timestamp in a year of four digits is read back from its text. -/
theorem read?_text (h : t.HasFourDigitYear) : read? t.text = some t := by
  have hvalid : t.date.isValid = true := Date.isValid_ofDay _
  obtain ⟨hmonth, hday⟩ := Date.bounds_of_isValid hvalid
  have hclock := t.secondOfDay_lt
  obtain ⟨hleap, hsecond, hbefore⟩ := t.clockSecond_spec
  have hyear : ((t.date.year.toNat : Nat) : Int) = t.date.year := Int.toNat_of_nonneg h.1
  have hfour : t.date.year.toNat < 10000 := by
    have := h.2
    omega
  -- no mark between two fields is a digit or a blank
  have hdash : ∀ rest, EndsField ('-' :: rest) := endsField_cons (by decide)
  have htime : ∀ rest, EndsField ('T' :: rest) := endsField_cons (by decide)
  have hcolon : ∀ rest, EndsField (':' :: rest) := endsField_cons (by decide)
  have hmark : ∀ rest, mark? '-' ('-' :: rest) = some ((), rest) := mark?_cons (by decide)
  have hclockMark : ∀ rest, mark? ':' (':' :: rest) = some ((), rest) := mark?_cons (by decide)
  rw [read?, text, String.toList_ofList, chars, List.append_assoc, wholeChars_append h,
    trimStart_padded]
  -- the date, from field to field
  refine Option.bind_eq_some_iff.mpr ⟨_, year?_padded hfour (hdash _), ?_⟩
  refine Option.bind_eq_some_iff.mpr ⟨_, hmark _, ?_⟩
  refine Option.bind_eq_some_iff.mpr
    ⟨_, field?_padded hmonth.1 hmonth.2 (by omega) (hdash _), ?_⟩
  refine Option.bind_eq_some_iff.mpr ⟨_, hmark _, ?_⟩
  refine Option.bind_eq_some_iff.mpr ⟨_, field?_padded hday.1 hday.2 (by omega) (htime _), ?_⟩
  refine Option.bind_eq_some_iff.mpr ⟨_, rfl, ?_⟩
  -- the time of day, down to its fraction and the mark of UTC
  refine Option.bind_eq_some_iff.mpr
    ⟨_, field?_padded (by omega) (by omega) (by omega) (hcolon _), ?_⟩
  refine Option.bind_eq_some_iff.mpr ⟨_, hclockMark _, ?_⟩
  refine Option.bind_eq_some_iff.mpr
    ⟨_, field?_padded (by omega) (by omega) (by omega) (hcolon _), ?_⟩
  refine Option.bind_eq_some_iff.mpr ⟨_, hclockMark _, ?_⟩
  refine Option.bind_eq_some_iff.mpr
    ⟨_, field?_padded (by omega) hsecond (by omega) (endsField_fractionText t.nano), ?_⟩
  refine Option.bind_eq_some_iff.mpr ⟨_, fraction?_fractionText t.nano_lt, ?_⟩
  refine Option.bind_eq_some_iff.mpr ⟨(0, []), rfl, ?_⟩
  -- what was read is a date and a second of the day, which make up the second
  have hdate : (⟨t.date.year, t.date.month, t.date.day⟩ : Date) = t.date := rfl
  have hwithin : minYear ≤ t.date.year ∧ t.date.year ≤ maxYear := by
    simp only [minYear, maxYear]
    have := h.1
    have := h.2
    omega
  have haccepted : (!(Text.trimStart []).isEmpty || !t.date.isValid ||
      decide (t.date.year < minYear) || decide (maxYear < t.date.year)) = false := by
    simp only [hvalid, decide_eq_false (Int.not_lt.mpr hwithin.1),
      decide_eq_false (Int.not_lt.mpr hwithin.2)]
    rfl
  have hclockSum : t.secondOfDay / 3600 * 3600 + t.secondOfDay / 60 % 60 * 60
      + t.secondOfDay % 60 = t.secondOfDay := by omega
  dsimp only
  simp only [hyear, hdate, haccepted, hleap, hbefore, hclockSum, Bool.false_eq_true, if_false,
    Int.ofNat_eq_natCast, second_eq, Int.sub_zero, make?_self, Option.bind_eq_bind,
    Option.bind_some]
  exact if_pos hwithin

end Time.Timestamp

end AccessGateway
