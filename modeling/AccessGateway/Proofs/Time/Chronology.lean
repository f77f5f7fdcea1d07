import AccessGateway.Proofs.Text.Utf8
import AccessGateway.Proofs.Time.Timestamp

/-!
# `AccessGateway.Proofs.Time.Chronology`: texts of creation times are in the order of time

Creation times that are cut to the second are compared as texts. `Timestamp.Before` is the order of
time itself, with a leap second behind the second that it follows, and `Timestamp.wholeSecond` cuts
a time to the second.

The text of a second is a row of fields of fixed width, from the year down to the second on the
clock. The fields of the earlier second come first where they differ first
(`Timestamp.fields_lt_of_before`), and so does its text. As one of two seconds is the earlier one
unless they agree, the texts decide between them (`Timestamp.secondText_lt_iff`,
`Timestamp.secondText_eq_iff`).

A leap second has the number of the second that it follows, and so the same date and the same time
of day. It differs from it in the last field only, where it is written as second 60. That is the one
case in which the order of the fields does not come from the order of the numbers.

The years have four digits, since a longer year would have a longer text, and one with a sign would
come in another place.
-/

set_option autoImplicit false

namespace AccessGateway.Time.Timestamp

open Text.Numeral (padded padded_append_lt)

/-! ### The order of time -/

/-- Which of two timestamps comes first. A leap second comes after the whole of the second that it
is inserted behind, and before the next one. -/
inductive Before (t u : Timestamp) : Prop where
  | bySecond (h : t.second < u.second)
  | byLeap (hsecond : t.second = u.second) (ht : t.leap = false) (hu : u.leap = true)
  | byNano (hsecond : t.second = u.second) (hleap : t.leap = u.leap) (h : t.nano < u.nano)

/-- The start of the second, or of the leap second, that a timestamp lies in. -/
def wholeSecond (t : Timestamp) : Timestamp :=
  { t with nano := 0, nano_lt := Nat.zero_lt_of_lt t.nano_lt }

variable {t u : Timestamp}

/-- Whole seconds are ordered by number, and a leap second comes after the second whose number it
has. -/
theorem wholeSecond_before_iff : t.wholeSecond.Before u.wholeSecond
    ↔ t.second < u.second ∨ t.second = u.second ∧ t.leap = false ∧ u.leap = true := by
  constructor
  · intro h
    cases h with
    | bySecond h => exact Or.inl h
    | byLeap hsecond ht hu => exact Or.inr ⟨hsecond, ht, hu⟩
    | byNano _ _ h => exact absurd h (Nat.lt_irrefl 0)
  · rintro (h | ⟨hsecond, ht, hu⟩)
    · exact .bySecond h
    · exact .byLeap hsecond ht hu

/-- They are the same when number and leap are; what is left out is the fraction. -/
theorem wholeSecond_eq_iff :
    t.wholeSecond = u.wholeSecond ↔ t.second = u.second ∧ t.leap = u.leap := by
  simp [wholeSecond]

/-- Seconds that differ come one before the other, a leap second behind the one of its number. -/
theorem wholeSecond_trichotomy (t u : Timestamp) :
    t.wholeSecond.Before u.wholeSecond ∨ t.wholeSecond = u.wholeSecond ∨
      u.wholeSecond.Before t.wholeSecond := by
  rw [wholeSecond_before_iff, wholeSecond_before_iff, wholeSecond_eq_iff]
  rcases Int.lt_trichotomy t.second u.second with h | h | h
  · exact Or.inl (Or.inl h)
  · cases ht : t.leap <;> cases hu : u.leap <;> simp [h]
  · exact Or.inr (Or.inr (Or.inl h))

/-! ### From a second to its fields -/

/-- The numbers in the text of a second, from the year to the second on the clock. Lists of numbers
are compared where they differ first. -/
def fields (t : Timestamp) : List Nat :=
  [t.date.year.toNat, t.date.month, t.date.day, t.secondOfDay / 3600, t.secondOfDay / 60 % 60,
    t.clockSecond]

/-- Fields are in order where they differ first, the year leading and the second last. -/
theorem fields_lt_iff : t.fields < u.fields
    ↔ t.date.year.toNat < u.date.year.toNat ∨ t.date.year.toNat = u.date.year.toNat ∧
      (t.date.month < u.date.month ∨ t.date.month = u.date.month ∧
      (t.date.day < u.date.day ∨ t.date.day = u.date.day ∧
      (t.secondOfDay / 3600 < u.secondOfDay / 3600 ∨ t.secondOfDay / 3600 = u.secondOfDay / 3600 ∧
      (t.secondOfDay / 60 % 60 < u.secondOfDay / 60 % 60 ∨
        t.secondOfDay / 60 % 60 = u.secondOfDay / 60 % 60 ∧ t.clockSecond < u.clockSecond)))) := by
  simp only [fields, List.cons_lt_cons_iff, List.lt_irrefl, and_false, or_false]

/-- On an earlier date the fields come first, whatever the time of day. -/
theorem fields_lt_of_date_before (ht : t.HasFourDigitYear) (h : t.date.Before u.date) :
    t.fields < u.fields := by
  have hyear : 0 ≤ t.date.year := ht.1
  rw [fields_lt_iff]
  cases h with
  | byYear h => exact Or.inl (by omega)
  | byMonth hyear h => exact Or.inr ⟨by rw [hyear], Or.inl h⟩
  | byDay hyear hmonth h => exact Or.inr ⟨by rw [hyear], Or.inr ⟨hmonth, Or.inl h⟩⟩

/-- On one day, the fields of the clock are in the order of the seconds, and a leap second comes
after the second with its number. -/
theorem fields_lt_of_date_eq (hdate : t.date = u.date)
    (h : t.secondOfDay < u.secondOfDay ∨
      t.secondOfDay = u.secondOfDay ∧ t.leap = false ∧ u.leap = true) : t.fields < u.fields := by
  rw [fields_lt_iff, hdate]
  refine Or.inr ⟨rfl, Or.inr ⟨rfl, Or.inr ⟨rfl, ?_⟩⟩⟩
  -- only the last second of a minute has a leap second, so the clock does not overtake the next one
  have hclock := t.clockSecond_cases
  have hclock' := u.clockSecond_cases
  rcases h with hless | ⟨hsame, ht, hu⟩
  · omega
  · simp only [ht, hu, Bool.false_eq_true, Bool.true_eq_false, false_and, true_and, or_false,
      false_or] at hclock hclock'
    omega

/-- The fields of an earlier second come before those of a later one, on another day or on the
same. -/
theorem fields_lt_of_before (ht : t.HasFourDigitYear) (h : t.wholeSecond.Before u.wholeSecond) :
    t.fields < u.fields := by
  have hdate : t.second / daySeconds = u.second / daySeconds → t.date = u.date := by
    intro hday
    rw [date, date, hday]
  rcases wholeSecond_before_iff.mp h with hless | ⟨hsame, hleap⟩
  · by_cases hday : t.second / daySeconds = u.second / daySeconds
    · refine fields_lt_of_date_eq (hdate hday) (Or.inl ?_)
      simp only [secondOfDay, daySeconds] at hday ⊢
      omega
    · refine fields_lt_of_date_before ht (Date.ofDay_before ?_)
      simp only [daySeconds] at hday ⊢
      omega
  · refine fields_lt_of_date_eq (hdate (by rw [hsame])) (Or.inr ⟨?_, hleap⟩)
    rw [secondOfDay, secondOfDay, hsame]

/-! ### From the fields to the text -/

/-- A field decides which of two texts comes first, unless it is the same in both. -/
theorem padded_mark_lt {width m n : Nat} {rest rest' : List Char} (mark : Char)
    (hwidth : 0 < width) (hn : n < 10 ^ width) (h : m < n ∨ m = n ∧ rest < rest') :
    padded width m ++ mark :: rest < padded width n ++ mark :: rest' :=
  padded_append_lt hwidth hn (h.imp_right fun ⟨hsame, hrest⟩ =>
    ⟨hsame, List.cons_lt_cons_self.mpr hrest⟩)

/-- The text with the fields that come first comes first, since the fields have fixed widths and the
same marks between them. -/
theorem secondText_lt_of_fields_lt (ht : t.HasFourDigitYear) (hu : u.HasFourDigitYear)
    (h : t.fields < u.fields) : t.secondText < u.secondText := by
  have hvalid : u.date.isValid = true := Date.isValid_ofDay _
  obtain ⟨⟨-, hmonth⟩, -, hday⟩ := Date.bounds_of_isValid hvalid
  have hclock := u.secondOfDay_lt
  obtain ⟨-, hsecond, -⟩ := u.clockSecond_spec
  have hyear : u.date.year.toNat < 10 ^ 4 := by
    have := hu.2
    omega
  rw [String.lt_iff, secondText, secondText, String.toList_ofList, String.toList_ofList,
    wholeChars_append ht, wholeChars_append hu]
  rw [fields_lt_iff] at h
  -- each field decides, or leaves it to the next one
  refine padded_mark_lt '-' (by decide) hyear (h.imp_right fun ⟨hsame, h⟩ => ⟨hsame, ?_⟩)
  refine padded_mark_lt '-' (by decide) (by omega) (h.imp_right fun ⟨hsame, h⟩ => ⟨hsame, ?_⟩)
  refine padded_mark_lt 'T' (by decide) (by omega) (h.imp_right fun ⟨hsame, h⟩ => ⟨hsame, ?_⟩)
  refine padded_mark_lt ':' (by decide) (by omega) (h.imp_right fun ⟨hsame, h⟩ => ⟨hsame, ?_⟩)
  refine padded_mark_lt ':' (by decide) (by omega) (h.imp_right fun ⟨hsame, h⟩ => ⟨hsame, ?_⟩)
  exact padded_append_lt (by decide) (by omega) (Or.inl h)

/-- One second has one text, whatever the fraction. -/
theorem secondText_congr (h : t.wholeSecond = u.wholeSecond) : t.secondText = u.secondText := by
  obtain ⟨hsecond, hleap⟩ := wholeSecond_eq_iff.mp h
  simp only [secondText, wholeChars, date, secondOfDay, hsecond, hleap]

section
variable (ht : t.HasFourDigitYear) (hu : u.HasFourDigitYear)
include ht hu

/-- An earlier second has a text that comes first. Each field is written with its width, so the
texts are ordered as the fields are. -/
theorem secondText_lt_of_before (h : t.wholeSecond.Before u.wholeSecond) :
    t.secondText < u.secondText :=
  secondText_lt_of_fields_lt ht hu (fields_lt_of_before ht h)

/-- The text of one second comes first when the second does, and only then. -/
theorem secondText_lt_iff : t.secondText < u.secondText ↔ t.wholeSecond.Before u.wholeSecond := by
  refine ⟨fun hlt => ?_, secondText_lt_of_before ht hu⟩
  rcases wholeSecond_trichotomy t u with hbefore | hsame | hafter
  · exact hbefore
  · rw [secondText_congr hsame] at hlt
    exact absurd hlt (String.lt_irrefl _)
  · exact absurd hlt (String.lt_asymm (secondText_lt_of_before hu ht hafter))

/-- Two seconds have the same text when they are the same, and only then, as one of two different
ones comes first. -/
theorem secondText_eq_iff : t.secondText = u.secondText ↔ t.wholeSecond = u.wholeSecond := by
  refine ⟨fun heq => ?_, secondText_congr⟩
  rcases wholeSecond_trichotomy t u with hbefore | hsame | hafter
  · exact absurd (secondText_lt_of_before ht hu hbefore) (heq ▸ String.lt_irrefl _)
  · exact hsame
  · exact absurd (secondText_lt_of_before hu ht hafter) (heq ▸ String.lt_irrefl _)

end

end AccessGateway.Time.Timestamp
