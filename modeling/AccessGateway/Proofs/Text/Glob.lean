import AccessGateway.Text.Glob

/-!
# `AccessGateway.Proofs.Text.Glob`: an escaped text stands for itself

`escape` puts each of `*`, `?` and `[` into a set of its own. The compiler never fails on what
comes out, and with a `*` behind it the pattern is matched by the texts that begin with the
escaped one. This is how all entries of one user are found in a store: without the escapes a name
with a star in it would reach the entries of others.

* `Glob.compile_escape_star`: what the pattern compiles to. The compiler looks ahead for two stars
  in a row and for the end of a set, so the induction is over any state it may be in.
* `Glob.accepts_prefix_iff`: what that accepts.
-/

set_option autoImplicit false

namespace AccessGateway.Text.Glob

/-- Whether a character has a meaning outside of a set. A closing bracket has none there. -/
def IsSpecial (c : Char) : Prop := c = '*' ∨ c = '?' ∨ c = '['

instance (c : Char) : Decidable (IsSpecial c) := inferInstanceAs (Decidable (_ ∨ _ ∨ _))

/-- The token that an escaped character is compiled to: a set of one where it had to be escaped. -/
def literal (c : Char) : Token := if IsSpecial c then .within [.one c] else .char c

/-- The token of an escaped character accepts that character only, whichever of the two forms it
has. -/
theorem literal_accepts (c d : Char) : (literal c).accepts d = (d == c) := by
  rw [literal]
  split
  · show (d == c || false) = (d == c)
    rw [Bool.or_false]
  · rfl

/-! ### Compiling -/

/-- A character without a meaning is compiled to itself. It begins a component behind it when it is
a slash, which later tokens may depend on. -/
theorem compileFrom_plain (position : Nat) (atStart : Bool) (done : List Token) (c : Char)
    (rest : List Char) (hc : ¬ IsSpecial c) :
    compileFrom position atStart done .outside (c :: rest)
      = compileFrom (position + 1) (c = '/') (.char c :: done) .outside rest := by
  rw [IsSpecial, not_or, not_or] at hc
  obtain ⟨hstar, hquestion, hbracket⟩ := hc
  rw [compileFrom]
  all_goals simp [hstar, hquestion, hbracket]

/-- A character in a set of its own is compiled to that set, also where the character is a
bracket. -/
theorem compileFrom_bracketed (position : Nat) (atStart : Bool) (done : List Token) (c : Char)
    (rest : List Char) (hc : IsSpecial c) :
    compileFrom position atStart done .outside ('[' :: c :: ']' :: rest)
      = compileFrom (position + 3) false (.within [.one c] :: done) .outside rest := by
  rcases hc with rfl | rfl | rfl
  · rfl
  · rfl
  · rfl

/-- An escaped text is compiled character by character, whatever follows it. Where the compiler
stands afterwards depends on the text, but a star behind it does not ask for that. -/
theorem compileFrom_escape (text rest : List Char) (position : Nat) (atStart : Bool)
    (done : List Token) :
    ∃ position' atStart', compileFrom position atStart done .outside (escape text ++ rest)
      = compileFrom position' atStart' ((text.map literal).reverse ++ done) .outside rest := by
  induction text generalizing position atStart done with
  | nil => exact ⟨position, atStart, rfl⟩
  | cons c text ih =>
    rw [List.map_cons, List.reverse_cons, List.append_assoc, List.singleton_append]
    by_cases hc : IsSpecial c
    · have hescape : escape (c :: text) = '[' :: c :: ']' :: escape text := if_pos hc
      rw [hescape, List.cons_append, List.cons_append, List.cons_append,
        compileFrom_bracketed _ _ _ _ _ hc, literal, if_pos hc]
      exact ih _ _ _
    · have hescape : escape (c :: text) = c :: escape text := if_neg hc
      rw [hescape, List.cons_append, compileFrom_plain _ _ _ _ _ hc, literal, if_neg hc]
      exact ih _ _ _

/-- An escaped text with a star behind it is compiled to its characters and one token for any
rest. -/
theorem compile_escape_star (text : List Char) :
    compile (escape text ++ ['*']) = .ok (text.map literal ++ [.anySequence]) := by
  obtain ⟨position, atStart, hcompile⟩ := compileFrom_escape text ['*'] 0 true []
  rw [compile, hcompile, List.append_nil]
  show Except.ok (.anySequence :: (text.map literal).reverse).reverse = _
  rw [List.reverse_cons, List.reverse_reverse]

/-- Escaping goes character by character, so it may be done part by part. -/
theorem escape_append (text rest : List Char) :
    escape (text ++ rest) = escape text ++ escape rest := by
  induction text with
  | nil => rfl
  | cons c text ih =>
    rw [List.cons_append, escape, escape, ih]
    split
    · rfl
    · rfl

/-! ### Matching -/

/-- A star at the end accepts any rest, the empty one included. -/
theorem run_star (text : List Char) : run [.anySequence] text = .matched := by
  show tryRemainders (run []) text = .matched
  induction text with
  | nil => rfl
  | cons c rest ih =>
    rw [tryRemainders]
    exact ih

/-- Literal tokens with a star behind them accept the texts that begin with them, and no others. -/
theorem accepts_prefix_iff (start text : List Char) :
    accepts (start.map literal ++ [.anySequence]) text = true ↔ start <+: text := by
  rw [accepts, decide_eq_true_eq]
  induction start generalizing text with
  | nil => exact ⟨fun _ => List.nil_prefix, fun _ => run_star text⟩
  | cons c start ih =>
    -- a literal token takes one character, so the run goes on with the rest of both
    have hone : literal c ≠ .anySequence ∧ literal c ≠ .anyComponents := by
      rw [literal]
      split
      · exact ⟨nofun, nofun⟩
      · exact ⟨nofun, nofun⟩
    cases text with
    | nil =>
      rw [List.map_cons, List.cons_append, run]
      · simp
      · exact hone.1
      · exact hone.2
    | cons d text =>
      rw [List.map_cons, List.cons_append, run, literal_accepts, List.cons_prefix_cons]
      · by_cases hd : d = c
        · rw [if_pos (beq_iff_eq.mpr hd), ih]
          simp [hd]
        · rw [if_neg (by simpa using hd)]
          simp [Ne.symm hd]
      · exact hone.1
      · exact hone.2

end AccessGateway.Text.Glob
