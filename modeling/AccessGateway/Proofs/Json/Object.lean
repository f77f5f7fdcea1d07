import AccessGateway.Proofs.Json.Lexeme

/-!
# `AccessGateway.Proofs.Json.Object`: a printed object is read back

The claims and the header of a token are objects whose members are texts and numbers. That is
all that is read back here: deeper values would need the same for frames within frames, and no
token has them.

* `lex_members`: the lexemes of printed members.
* `foldlM_step_members`: what these build. The open object collects members in reverse, and the
  stage before a member is `firstKey` or `key`, of which the second comes behind a comma.
* `read?_obj`: reading inverts printing for such an object.
-/

set_option autoImplicit false

namespace AccessGateway.Json

/-- A value that is printed as one lexeme: a text, or a natural number of a word. -/
inductive IsLexeme : Json → Prop where
  | str (text : String) : IsLexeme (.str text)
  | nat {n : Nat} (hn : n ≤ Text.Numeral.maxWord) : IsLexeme (.nat n)

/-- The lexeme of such a value; for any other value this has no meaning. -/
def lexeme : Json → Token
  | .str text => .text text
  | value => .atom value

/-! ### Lexemes -/

/-- Punctuation is one lexeme, by itself and at once. -/
theorem lex_punctuation {c : Char} {token : Token} (hc : entry? c = some ([token], .between))
    (rest : List Char) : lex .between (c :: rest) = (lex .between rest).map (token :: ·) := by
  rw [lex, hc]
  show (lex .between rest).bind (fun tokens => some ([token] ++ tokens)) = _
  cases lex .between rest <;> rfl

/-- A printed text or number is one lexeme, in front of punctuation. -/
theorem lex_lexeme {value : Json} (hvalue : value.IsLexeme) {c : Char} (hc : isWordChar c = false)
    (rest : List Char) :
    lex .between (value.chars ++ c :: rest)
      = (lex .between (c :: rest)).map (value.lexeme :: ·) := by
  cases hvalue with
  | str text => exact lex_quote text _
  | nat hn => exact lex_nat hn hc rest

/-- The lexemes of members with commas between them: key, colon, value. -/
def memberTokens : List (String × Json) → List Token
  | [] => []
  | [(key, value)] => [.text key, .colon, value.lexeme]
  | (key, value) :: rest => .text key :: .colon :: value.lexeme :: .comma :: memberTokens rest

/-- Printed members, in front of the end of the object, are their lexemes. -/
theorem lex_members (members : List (String × Json)) (hvalues : ∀ m ∈ members, m.2.IsLexeme)
    (rest : List Char) :
    lex .between (memberChars members ++ '\x7d' :: rest)
      = (lex .between ('\x7d' :: rest)).map (memberTokens members ++ ·) := by
  induction members using memberTokens.induct with
  | case1 => simp [memberChars, memberTokens]
  | case2 key value =>
    have hvalue := hvalues (key, value) List.mem_cons_self
    rw [memberChars, List.append_assoc, lex_quote, List.cons_append, lex_punctuation (by rfl),
      lex_lexeme hvalue (by decide), memberTokens]
    cases lex .between ('\x7d' :: rest) <;> rfl
  | case3 key value others hothers ih =>
    have hvalue := hvalues (key, value) List.mem_cons_self
    rw [memberChars, List.append_assoc, lex_quote, List.cons_append, lex_punctuation (by rfl),
      List.append_assoc, List.cons_append, lex_lexeme hvalue (by decide), lex_punctuation (by rfl),
      ih fun m hm => hvalues m (List.mem_cons_of_mem _ hm), memberTokens]
    · cases lex .between ('\x7d' :: rest) <;> rfl
    · exact hothers
    · exact hothers

/-! ### Values -/

/-- A lexeme that is a value is delivered to what is open, and opens nothing. -/
theorem takeValue_lexeme {value : Json} (hvalue : value.IsLexeme) (frames : List Frame) :
    Construction.takeValue frames value.lexeme = Construction.deliver value frames := by
  cases hvalue with
  | str text => rfl
  | nat hn => rfl

/-- The lexemes of a member add it to the open object. -/
theorem foldlM_step_member {value : Json} (hvalue : value.IsLexeme) (key : String) {stage : Stage}
    (hstage : stage = .firstKey ∨ stage = .key) (done : List (String × Json))
    (frames : List Frame) (more : List Token) :
    (.text key :: .colon :: value.lexeme :: more).foldlM Construction.step
        ⟨stage, .members done :: frames⟩
      = more.foldlM Construction.step ⟨.separator, .members ((key, value) :: done) :: frames⟩ := by
  have hkey : Construction.step ⟨stage, .members done :: frames⟩ (.text key)
      = some ⟨.colon, .member done key :: frames⟩ := by
    rcases hstage with rfl | rfl
    · rfl
    · rfl
  rw [List.foldlM_cons, hkey, Option.bind_eq_bind, Option.bind_some, List.foldlM_cons]
  show (Construction.takeValue (.member done key :: frames) value.lexeme).bind _ = _
  rw [takeValue_lexeme hvalue]
  rfl

/-- The lexemes of members add them to the open object. -/
theorem foldlM_step_members (members : List (String × Json)) (hne : members ≠ [])
    (hvalues : ∀ m ∈ members, m.2.IsLexeme) {stage : Stage}
    (hstage : stage = .firstKey ∨ stage = .key) (done : List (String × Json))
    (frames : List Frame) (more : List Token) :
    (memberTokens members ++ more).foldlM Construction.step ⟨stage, .members done :: frames⟩
      = more.foldlM Construction.step
          ⟨.separator, .members (members.reverse ++ done) :: frames⟩ := by
  -- the first member may be read in another stage than those behind a comma
  induction members using memberTokens.induct generalizing stage done with
  | case1 => exact absurd rfl hne
  | case2 key value =>
    exact foldlM_step_member (hvalues (key, value) List.mem_cons_self) key hstage done frames more
  | case3 key value others hothers ih =>
    have hvalue := hvalues (key, value) List.mem_cons_self
    have hmore : others ≠ [] := fun h => hothers h
    rw [memberTokens, List.cons_append, List.cons_append, List.cons_append, List.cons_append,
      foldlM_step_member hvalue key hstage, List.foldlM_cons]
    · show (memberTokens others ++ more).foldlM Construction.step
        ⟨.key, .members ((key, value) :: done) :: frames⟩ = _
      rw [ih hmore (fun m hm => hvalues m (List.mem_cons_of_mem _ hm)) (Or.inr rfl),
        List.reverse_cons, List.append_assoc, List.singleton_append]
    · exact hothers

/-- An object of texts and numbers is read back, its members in the order in which they were
printed. -/
theorem read?_obj (members : List (String × Json)) (hne : members ≠ [])
    (hvalues : ∀ m ∈ members, m.2.IsLexeme) :
    read? (Json.obj members).chars = some (.obj members) := by
  have hlex : lex .between (Json.obj members).chars
      = some (.objectStart :: (memberTokens members ++ [.objectEnd])) := by
    rw [chars, lex_punctuation (by rfl), lex_members members hvalues, lex_punctuation (by rfl)]
    rfl
  rw [read?, hlex, Option.bind_eq_bind, Option.bind_some, List.foldlM_cons]
  show ((memberTokens members ++ [Token.objectEnd]).foldlM Construction.step
    ⟨.firstKey, [.members []]⟩).bind Construction.result? = _
  rw [foldlM_step_members members hne hvalues (Or.inl rfl), List.append_nil]
  show some (Json.obj members.reverse.reverse) = _
  rw [List.reverse_reverse]

end AccessGateway.Json
