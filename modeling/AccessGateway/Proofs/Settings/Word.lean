import AccessGateway.Proofs.Text.Decimal
import AccessGateway.Proofs.Text.Split
import AccessGateway.Settings.Inline
import Mathlib.Data.List.TakeWhile

/-!
# `AccessGateway.Proofs.Settings.Word`: variables whose value is a word

The value of a variable is a text, of which the gateway guesses the type. A word has no character
that a number, a quoted text or a group could begin with or end at, so it is taken as it stands,
unless it is one of the two that are truth values.

Words are told from other texts by their characters alone (`Inline.isLetterLike`), and every fact
about the reading of one follows from a fact about these characters: they are no blanks, no digits
and signs, and no marks. The truth values need a second look, because the reader takes them for
themselves even in front of other letters. A word that only begins with one is then not read to its
end, and for this reason it is a plain text after all.

* `Inline.plainValue_word`: a word is no number.
* `Inline.read_word`, `Inline.text?_read_word`: what a word is taken for.
-/

set_option autoImplicit false

namespace AccessGateway.Inline

/-- A letter of ASCII, or a character outside of ASCII that is no blank. The letters of every
alphabet are among these. -/
def isLetterLike (c : Char) : Bool := c.isAlpha || (decide (128 ≤ c.toNat) && !Text.isBlank c)

/-- A text of such characters. The empty text is one. -/
def IsWord (text : String) : Prop := ∀ c ∈ text.toList, isLetterLike c = true

instance (text : String) : Decidable (IsWord text) :=
  List.decidableBAll (fun c => isLetterLike c = true) text.toList

/-- What a word is taken for: a truth value if it is the name of one, and itself otherwise. -/
def wordValue (text : String) : Json :=
  if text = "true" then .bool true else if text = "false" then .bool false else .str text

/-! ### The characters of a word -/

/-- The numbers of the letters of ASCII, which stand in two rows. -/
theorem toNat_of_isAlpha {c : Char} (h : c.isAlpha = true) :
    (65 ≤ c.toNat ∧ c.toNat ≤ 90) ∨ (97 ≤ c.toNat ∧ c.toNat ≤ 122) := by
  have hcases : (decide (65 ≤ c.val ∧ c.val ≤ 90)
      || decide (97 ≤ c.val) && decide (c.val ≤ 122)) = true := h
  simpa [UInt32.le_iff_toNat_le] using hcases

section
variable {c : Char} (hc : isLetterLike c = true)
include hc

/-- What is not in a word is another character, whichever of the special ones it is. -/
theorem ne_of_isLetterLike {d : Char} (hd : isLetterLike d = false) : c ≠ d := by
  rintro rfl
  exact Bool.false_ne_true (hd.symm.trans hc)

/-- What a word begins with is a letter of ASCII or a character beyond it. -/
theorem toNat_of_isLetterLike :
    (65 ≤ c.toNat ∧ c.toNat ≤ 90) ∨ (97 ≤ c.toNat ∧ c.toNat ≤ 122) ∨ 128 ≤ c.toNat := by
  rw [isLetterLike, Bool.or_eq_true, Bool.and_eq_true, decide_eq_true_eq] at hc
  rcases hc with halpha | ⟨hlarge, -⟩
  · exact (toNat_of_isAlpha halpha).imp_right Or.inl
  · exact Or.inr (Or.inr hlarge)

/-- It is no blank, so trimming stops in front of it. -/
theorem isBlank_of_isLetterLike : Text.isBlank c = false := by
  rw [← Bool.not_eq_true]
  intro hblank
  rw [isLetterLike, hblank, Bool.not_true, Bool.and_false, Bool.or_false] at hc
  -- what is blank could be in a word only as a letter of ASCII
  have halpha := toNat_of_isAlpha hc
  simp [Text.isBlank] at hblank
  omega

/-- It is no digit, so no number begins with it. -/
theorem isDigit_of_isLetterLike : c.isDigit = false := by
  rw [← Bool.not_eq_true]
  intro hdigit
  have hrange := toNat_of_isLetterLike hc
  have hdigits := Text.toNat_of_isDigit hdigit
  omega

/-- So no number goes on with it, whatever was read before and whatever the limit is. -/
theorem readDigits_of_isLetterLike (limit : Nat) (beyond : Text.Numeral.Fault) (acc : Nat)
    (rest : List Char) :
    Text.Numeral.readDigits limit beyond acc (c :: rest) = .error .invalidDigit := by
  rw [Text.Numeral.readDigits, Text.Numeral.digit?, isDigit_of_isLetterLike hc]
  rfl

/-- It is none of the marks that arrays, tables and strings begin with. -/
theorem isMark_of_isLetterLike : isMark c = false := by
  have hmark : ∀ {d : Char}, isLetterLike d = false → (c == d) = false :=
    fun hd => beq_eq_false_iff_ne.mpr (ne_of_isLetterLike hc hd)
  simp only [isMark, Bool.or_eq_false_iff]
  exact ⟨⟨⟨⟨hmark rfl, hmark rfl⟩, hmark rfl⟩, hmark rfl⟩, hmark rfl⟩

end

/-! ### The reading of a word -/

section
variable {text : List Char} (hword : ∀ c ∈ text, isLetterLike c = true)
include hword

/-- In front of a word there is nothing to skip. -/
theorem skip_word : skip text = text := by
  cases text with
  | nil => rfl
  | cons c rest =>
    have hblank := isBlank_of_isLetterLike (hword c List.mem_cons_self)
    refine List.dropWhile_cons_of_neg fun hascii => ?_
    exact Bool.false_ne_true (hblank.symm.trans (Text.isBlank_of_isAsciiBlank hascii))

/-- A word begins neither with a digit nor with a sign, so it is no number without one. -/
theorem readNat_word (limit : Nat) : ∃ fault, Text.Numeral.readNat limit text = .error fault := by
  cases text with
  | nil => exact ⟨.empty, rfl⟩
  | cons c rest =>
    have hc := hword c List.mem_cons_self
    have hplus : c ≠ '+' := ne_of_isLetterLike hc rfl
    refine ⟨.invalidDigit, ?_⟩
    rw [Text.Numeral.readNat, readDigits_of_isLetterLike hc]
    all_goals simp [hplus]

/-- A word is no number, with a sign or without. -/
theorem readInt_word : ∃ fault, Text.Numeral.readInt text = .error fault := by
  cases text with
  | nil => exact ⟨.empty, rfl⟩
  | cons c rest =>
    have hc := hword c List.mem_cons_self
    have hplus : c ≠ '+' := ne_of_isLetterLike hc rfl
    have hminus : c ≠ '-' := ne_of_isLetterLike hc rfl
    refine ⟨.invalidDigit, ?_⟩
    rw [Text.Numeral.readInt, readDigits_of_isLetterLike hc]
    · rfl
    all_goals simp [hplus, hminus]

/-- A word is no number, neither a whole one nor a decimal, and so it is a text. -/
theorem plainValue_word : plainValue text = .str (String.ofList text) := by
  have hpoint : text.contains '.' = false := by
    rw [List.contains_eq_mem, decide_eq_false_iff_not]
    exact fun hmem => ne_of_isLetterLike (hword _ hmem) rfl rfl
  obtain ⟨fault, hnat⟩ := readNat_word hword Text.Numeral.maxWord
  obtain ⟨fault', hint⟩ := readInt_word hword
  rw [plainValue, hpoint, if_neg Bool.false_ne_true, hnat, hint]

/-- A word is one value up to its end, unless a truth value stands in front of it. In that case the
value ends where this does. -/
theorem bareValue_word :
    (∃ rest, text = "true".toList ++ rest ∧
      ∀ fuel, bareValue (fuel + 1) text = some (.bool true, rest)) ∨
    (∃ rest, text = "false".toList ++ rest ∧
      ∀ fuel, bareValue (fuel + 1) text = some (.bool false, rest)) ∨
    (text ≠ "true".toList ∧ text ≠ "false".toList ∧
      ∀ fuel, bareValue (fuel + 1) text = some (.str (String.ofList text), [])) := by
  by_cases htrue : ∃ rest, text = "true".toList ++ rest
  · obtain ⟨rest, rfl⟩ := htrue
    exact Or.inl ⟨rest, rfl, fun _ => rfl⟩
  by_cases hfalse : ∃ rest, text = "false".toList ++ rest
  · obtain ⟨rest, rfl⟩ := hfalse
    exact Or.inr (Or.inl ⟨rest, rfl, fun _ => rfl⟩)
  have hfirst : ∀ d rest, isLetterLike d = false → text ≠ d :: rest := by
    rintro d rest hd rfl
    exact ne_of_isLetterLike (hword d List.mem_cons_self) hd rfl
  have hnoMark : ∀ c ∈ text, (!isMark c) = true := by
    intro c hc
    rw [isMark_of_isLetterLike (hword c hc)]
    rfl
  have htake : text.takeWhile (fun c => !isMark c) = text := List.takeWhile_eq_self_iff.mpr hnoMark
  have hdrop : text.dropWhile (fun c => !isMark c) = [] := List.dropWhile_eq_nil_iff.mpr hnoMark
  refine Or.inr (Or.inr ⟨fun h => htrue ⟨[], by simpa using h⟩,
    fun h => hfalse ⟨[], by simpa using h⟩, fun fuel => ?_⟩)
  rw [bareValue, htake, hdrop, Text.trim,
    Text.trimBy_eq_self fun c hc => isBlank_of_isLetterLike (hword c hc), plainValue_word hword]
  -- the forms that come first begin otherwise
  · exact fun rest h => htrue ⟨rest, h⟩
  · exact fun rest h => hfalse ⟨rest, h⟩
  · exact fun rest => hfirst _ rest rfl
  · exact fun rest => hfirst _ rest rfl
  · exact fun rest => hfirst _ rest rfl
  · exact fun c rest => hfirst _ _ rfl
  · exact fun rest => hfirst _ rest rfl

end

/-- A text is taken for the value in front of it only if nothing stands behind that, and otherwise
for all of itself. -/
theorem read_of_bareValue {text : String} (hword : IsWord text) {found : Json} {rest : List Char}
    (hrest : ∀ c ∈ rest, c ∈ text.toList)
    (hbare : ∀ fuel, bareValue (fuel + 1) text.toList = some (found, rest)) :
    read text = if rest = [] then found else .str text := by
  have hvalue : value (3 * text.toList.length + 3) text.toList = some (found, rest) := by
    show (bareValue (3 * text.toList.length + 1 + 1) (skip text.toList)).bind
      (fun found => some (found.1, skip found.2)) = _
    rw [skip_word hword, hbare, Option.bind_some, skip_word fun c hc => hword c (hrest c hc)]
  rw [read, hvalue]
  cases rest with
  | nil => rfl
  | cons c rest => rfl

/-- A word stands for itself, unless it is the name of a truth value. -/
theorem read_word {text : String} (hword : IsWord text) : read text = wordValue text := by
  have hbehind : ∀ {front rest : List Char}, text.toList = front ++ rest →
      ∀ c ∈ rest, c ∈ text.toList := by
    intro front rest htext c hc
    rw [htext]
    exact List.mem_append_right front hc
  have hsame : ∀ {word : String} {rest : List Char}, text.toList = word.toList ++ rest →
      (text = word ↔ rest = []) := by
    intro word rest htext
    rw [← String.toList_inj, htext, List.append_right_eq_self]
  rw [wordValue]
  rcases bareValue_word hword with ⟨rest, htext, hbare⟩ | ⟨rest, htext, hbare⟩ |
    ⟨htrue, hfalse, hbare⟩
  · have hfalse : text ≠ "false" := by
      rintro rfl
      cases htext
    rw [read_of_bareValue hword (hbehind htext) hbare, if_neg hfalse]
    simp only [hsame htext]
  · have htrue : text ≠ "true" := by
      rintro rfl
      cases htext
    rw [read_of_bareValue hword (hbehind htext) hbare, if_neg htrue]
    simp only [hsame htext]
  · have hnothing : ∀ c ∈ [], c ∈ text.toList := fun c hc => absurd hc List.not_mem_nil
    rw [read_of_bareValue hword hnothing hbare, if_neg fun h => htrue (congrArg String.toList h),
      if_neg fun h => hfalse (congrArg String.toList h), String.ofList_toList]
    rfl

/-- A word is a text unless it is the name of a truth value. A secret that is a word is therefore
read as it was written. -/
theorem text?_read_word {text : String} (hword : IsWord text) :
    (read text).text? = if text = "true" ∨ text = "false" then none else some text := by
  rw [read_word hword, wordValue]
  split
  · rename_i htrue
    rw [if_pos (Or.inl htrue)]
    rfl
  · rename_i htrue
    split
    · rename_i hfalse
      rw [if_pos (Or.inr hfalse)]
      rfl
    · rename_i hfalse
      rw [if_neg (not_or.mpr ⟨htrue, hfalse⟩)]
      rfl

/-- A word is no group, so it hides whatever section it is laid over. -/
theorem read_word_ne_obj {text : String} (hword : IsWord text) (members : List (String × Json)) :
    read text ≠ .obj members := by
  rw [read_word hword, wordValue]
  split
  · nofun
  · split <;> nofun

end AccessGateway.Inline
