import AccessGateway.Text.Blank
import Mathlib.Data.List.TakeWhile

/-!
# `AccessGateway.Proofs.Text.Split`: what was joined is cut apart again

A cut is undone by joining its parts, since it loses nothing but the separators. In the other
direction, parts that were joined come back from a cut, as long as they do not contain the separator
themselves. Both directions are wanted: the first for what any text is read as, the second for
texts that the gateway wrote itself, such as the keys of a store and the parts of a token.

* `splitFirst?_eq_some`, `intercalate_pieces`: nothing is lost.
* `contains_iff`: a search for a part finds it wherever it stands.
* `splitFirst?_append`, `splitOnce?_append`: one cut.
* `append_cons_inj`: one cut from the other end.
* `nonemptyPieces_intercalate`: all of them.
* `dropEnd?_eq_some_iff`: a cut in front of an ending.
* `trimBy_eq_nil_iff`, `trimBy_eq_self`, `trimBy_isInfix`: what is left of a text when its ends are
  removed.
-/

set_option autoImplicit false

namespace AccessGateway.Text

/-! ### What a cut keeps -/

/-- A cut is where the separator stands first: nothing is lost, and no separator comes
before it. -/
theorem splitFirst?_eq_some {p : Char → Bool} {text before after : List Char} {sep : Char}
    (h : splitFirst? p text = some (before, sep, after)) :
    text = before ++ sep :: after ∧ p sep = true ∧ ∀ c ∈ before, p c = false := by
  induction text generalizing before with
  | nil => simp [splitFirst?] at h
  | cons c rest ih =>
    by_cases hc : p c = true
    · simp [splitFirst?, hc] at h
      obtain ⟨rfl, rfl, rfl⟩ := h
      simp [hc]
    · rw [splitFirst?, if_neg hc, Option.map_eq_some_iff] at h
      obtain ⟨⟨b, s, a⟩, hb, heq⟩ := h
      simp only [Prod.mk.injEq] at heq
      obtain ⟨rfl, rfl, rfl⟩ := heq
      obtain ⟨rfl, hsep, hbefore⟩ := ih hb
      refine ⟨by simp, hsep, fun a ha => ?_⟩
      rcases List.mem_cons.mp ha with rfl | ha
      · simpa using hc
      · exact hbefore a ha

/-- A text has at least one piece, if only the empty one. -/
theorem pieces_ne_nil (sep : Char) (text : List Char) : pieces sep text ≠ [] := by
  cases text with
  | nil => simp [pieces]
  | cons c rest =>
    simp only [pieces]
    split
    · simp
    · split <;> simp

/-- Joining the pieces with the separator gives the text back: a cut into pieces loses nothing. -/
theorem intercalate_pieces (sep : Char) (text : List Char) :
    [sep].intercalate (pieces sep text) = text := by
  induction text with
  | nil => simp [pieces, List.intercalate]
  | cons c rest ih =>
    have hne := pieces_ne_nil sep rest
    by_cases hc : c = sep
    · subst hc
      cases hp : pieces c rest with
      | nil => exact absurd hp hne
      | cons p ps => simp_all [pieces, List.intercalate]
    · cases hp : pieces sep rest with
      | nil => exact absurd hp hne
      | cons p ps =>
        cases ps with
        | nil => simp_all [pieces, List.intercalate]
        | cons q qs => simp_all [pieces, List.intercalate]

/-- `contains` decides the infix relation of lists, at which the library's lemmas apply. -/
theorem contains_iff {needle text : List Char} :
    contains needle text = true ↔ needle <:+: text := by
  induction text with
  | nil => simp [contains]
  | cons c rest ih => simp [contains, ih, List.infix_cons_iff]

/-! ### What was joined -/

/-- A cut is made at the separator that stands behind a part without one, whatever follows the
separator. -/
theorem splitFirst?_append {p : Char → Bool} {before : List Char} {sep : Char}
    (after : List Char) (hbefore : ∀ c ∈ before, p c = false) (hsep : p sep = true) :
    splitFirst? p (before ++ sep :: after) = some (before, sep, after) := by
  induction before with
  | nil => rw [List.nil_append, splitFirst?, if_pos hsep]
  | cons c rest ih =>
    have hc : p c = false := hbefore c List.mem_cons_self
    have hrest : ∀ d ∈ rest, p d = false := fun d hd => hbefore d (List.mem_cons_of_mem c hd)
    rw [List.cons_append, splitFirst?, if_neg (by simp [hc]), ih hrest]
    rfl

/-- A text is cut at the first separator; the part behind it may hold more. -/
theorem splitOnce?_append (sep : Char) (before after : List Char) (hbefore : sep ∉ before) :
    splitOnce? sep (before ++ sep :: after) = some (before, after) := by
  have hother : ∀ c ∈ before, (c == sep) = false := by
    intro c hc
    rw [beq_eq_false_iff_ne]
    rintro rfl
    exact hbefore hc
  rw [splitOnce?, splitFirst?_append after hother (beq_self_eq_true sep)]
  rfl

/-- The parts of a cut are those around the first separator, and there is one cut only. -/
theorem splitOnce?_eq_some_iff {sep : Char} {text before after : List Char} :
    splitOnce? sep text = some (before, after) ↔ text = before ++ sep :: after ∧ sep ∉ before := by
  constructor
  · intro h
    obtain ⟨⟨b, c, a⟩, hfirst, heq⟩ := Option.map_eq_some_iff.mp h
    obtain ⟨rfl, rfl⟩ := Prod.mk.inj heq
    obtain ⟨htext, hsep, hbefore⟩ := splitFirst?_eq_some hfirst
    rw [beq_iff_eq] at hsep
    exact ⟨hsep ▸ htext, fun hmem => ne_of_beq_false (hbefore sep hmem) rfl⟩
  · rintro ⟨rfl, hbefore⟩
    exact splitOnce?_append sep before after hbefore

/-- A text without a separator does not begin with one, in the form in which the cutting functions
ask. -/
theorem not_beq_of_not_mem {sep c : Char} {rest : List Char} (hsep : sep ∉ c :: rest) :
    ¬ (c == sep) = true := by
  rw [beq_iff_eq]
  rintro rfl
  exact hsep List.mem_cons_self

/-- A text without a separator is one piece. -/
theorem pieces_of_not_mem {sep : Char} {text : List Char} (hsep : sep ∉ text) :
    pieces sep text = [text] := by
  induction text with
  | nil => rfl
  | cons c rest ih =>
    have hrest : sep ∉ rest := fun hmem => hsep (List.mem_cons_of_mem c hmem)
    rw [pieces, if_neg (not_beq_of_not_mem hsep), ih hrest]

/-- The part in front of the first separator is the first piece, and the others are those of the
rest. -/
theorem pieces_append {sep : Char} {piece : List Char} (rest : List Char) (hsep : sep ∉ piece) :
    pieces sep (piece ++ sep :: rest) = piece :: pieces sep rest := by
  induction piece with
  | nil => rw [List.nil_append, pieces, if_pos (beq_self_eq_true sep)]
  | cons c piece ih =>
    rw [List.cons_append, pieces, if_neg (not_beq_of_not_mem hsep),
      ih fun hpiece => hsep (List.mem_cons_of_mem c hpiece)]

/-- One part or more without a separator are the pieces of the text in which they were joined. -/
theorem pieces_intercalate {sep : Char} {first : List Char} {others : List (List Char)}
    (hparts : ∀ part ∈ first :: others, sep ∉ part) :
    pieces sep ([sep].intercalate (first :: others)) = first :: others := by
  induction others generalizing first with
  | nil =>
    rw [List.intercalate_singleton]
    exact pieces_of_not_mem (hparts first List.mem_cons_self)
  | cons second others ih =>
    rw [List.intercalate_cons_cons, List.append_assoc, List.singleton_append,
      pieces_append _ (hparts first List.mem_cons_self),
      ih fun part hpart => hparts part (List.mem_cons_of_mem first hpart)]

/-- Parts that hold at least one character and no separator come back from the text in which they
were joined. -/
theorem nonemptyPieces_intercalate {sep : Char} {parts : List (List Char)}
    (hparts : ∀ part ∈ parts, part ≠ [] ∧ sep ∉ part) :
    nonemptyPieces sep ([sep].intercalate parts) = parts := by
  cases parts with
  | nil => rfl  -- the one piece of no text is empty
  | cons first others =>
    have hkept : ∀ part ∈ first :: others, (!part.isEmpty) = true := by
      intro part hpart
      simp [(hparts part hpart).1]
    rw [nonemptyPieces, pieces_intercalate fun part hpart => (hparts part hpart).2]
    exact List.filter_eq_self.mpr hkept

/-- Texts that are equal are cut at the same last separator: the parts behind it are equal, and so
are those before. -/
theorem append_cons_inj {sep : Char} {before before' after after' : List Char}
    (hafter : sep ∉ after) (hafter' : sep ∉ after')
    (h : before ++ sep :: after = before' ++ sep :: after') :
    before = before' ∧ after = after' := by
  -- read backwards, both are cut at the first separator
  have hcut := splitOnce?_append sep after.reverse before.reverse (by simpa using hafter)
  have hcut' := splitOnce?_append sep after'.reverse before'.reverse (by simpa using hafter')
  have hreverse : after.reverse ++ sep :: before.reverse
      = after'.reverse ++ sep :: before'.reverse := by
    simpa using congrArg List.reverse h
  rw [hreverse, hcut'] at hcut
  obtain ⟨ha, hb⟩ := Prod.mk.inj (Option.some.inj hcut)
  exact ⟨List.reverse_inj.mp hb.symm, List.reverse_inj.mp ha.symm⟩

/-- An ending is dropped when the text has it, and nothing else is. -/
theorem dropEnd?_eq_some_iff {ending text before : List Char} :
    dropEnd? ending text = some before ↔ text = before ++ ending := by
  rw [dropEnd?]
  constructor
  · intro h
    split at h
    · rename_i hending
      obtain ⟨start, rfl⟩ := List.isSuffixOf_iff_suffix.mp hending
      rw [List.length_append, Nat.add_sub_cancel, List.take_left, Option.some.injEq] at h
      rw [h]
    · cases h
  · rintro rfl
    rw [if_pos (List.isSuffixOf_iff_suffix.mpr (List.suffix_append before ending)),
      List.length_append, Nat.add_sub_cancel, List.take_left]

/-- What has only characters to remove is removed altogether, and nothing else is. -/
theorem trimBy_eq_nil_iff {p : Char → Bool} {text : List Char} :
    trimBy p text = [] ↔ ∀ c ∈ text, p c = true := by
  rw [trimBy, List.reverse_eq_nil_iff, List.dropWhile_eq_nil_iff]
  simp only [List.mem_reverse]
  constructor
  · intro h
    -- the first character that is left at the start would have to stay
    refine List.dropWhile_eq_nil_iff.mp (Classical.byContradiction fun hne => ?_)
    exact Bool.false_ne_true ((List.head_dropWhile_not p hne).symm.trans (h _ (List.head_mem hne)))
  · exact fun h c hc => h c ((List.dropWhile_sublist p).mem hc)

/-- What has no character to remove stays as it is. -/
theorem trimBy_eq_self {p : Char → Bool} {text : List Char} (h : ∀ c ∈ text, p c = false) :
    trimBy p text = text := by
  have hdrop : ∀ t : List Char, (∀ c ∈ t, p c = false) → t.dropWhile p = t := by
    intro t ht
    cases t with
    | nil => rfl
    | cons c rest => exact List.dropWhile_cons_of_neg (by simp [ht c List.mem_cons_self])
  have hreverse : ∀ c ∈ text.reverse, p c = false := by
    intro c hc
    exact h c (List.mem_reverse.mp hc)
  rw [trimBy, hdrop text h, hdrop text.reverse hreverse, List.reverse_reverse]

/-- What is left stands in the text in one piece. -/
theorem trimBy_isInfix (p : Char → Bool) (text : List Char) : trimBy p text <:+: text := by
  have hstart : text.dropWhile p <:+: text := (List.dropWhile_suffix p).isInfix
  refine List.IsInfix.trans ?_ hstart
  rw [trimBy, ← List.reverse_infix, List.reverse_reverse]
  exact (List.dropWhile_suffix p).isInfix

/-! ### Blanks -/

/-- The blanks of ASCII are white space, so a text that is blank by the smaller set is by the larger
one. -/
theorem isBlank_of_isAsciiBlank {c : Char} (h : isAsciiBlank c = true) : isBlank c = true := by
  simp only [isAsciiBlank, isBlank, Bool.or_eq_true, beq_iff_eq, Bool.and_eq_true,
    decide_eq_true_eq] at h ⊢
  omega

end AccessGateway.Text
