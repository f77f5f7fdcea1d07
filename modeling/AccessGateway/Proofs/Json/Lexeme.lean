import AccessGateway.Json.Printer
import AccessGateway.Json.Reader
import AccessGateway.Proofs.Text.Decimal

/-!
# `AccessGateway.Proofs.Json.Lexeme`: printed strings and numbers are one lexeme each

What a token says is printed when the token is issued and read when it comes back. Here is the
part of that which concerns characters; `AccessGateway.Proofs.Json.Object` has the part about
members. The lexer is followed in its modes: a printed string stays inside of the string until
its closing quote, since no escape holds a quote that ends it, and a printed number stays a word.

* `unescape_escape`: the escapes of a printed string stand for its characters.
* `lex_quote`: a printed string is read as one lexeme, whatever follows it.
* `quote_append_inj`, `ofNat_append_inj`: where it ends is read off the text.
* `lex_nat`: so is a natural number of a word, in front of punctuation. In front of a letter or a
  digit it would go on.
-/

set_option autoImplicit false

namespace AccessGateway.Json

/-! ### Strings -/

/-- A character is escaped by one letter or by its digits, or stands for itself. -/
theorem escapeChar_cases (c : Char) :
    (∃ d, escapeChar c = ['\\', d] ∧ shortEscape? d = some c ∧ 0x20 ≤ d.toNat ∧ d ≠ 'u') ∨
    (c.toNat < 0x20 ∧ escapeChar c
      = ['\\', 'u', '0', '0', Text.hexDigit (c.toNat / 16), Text.hexDigit c.toNat]) ∨
    (0x20 ≤ c.toNat ∧ c ≠ '"' ∧ c ≠ '\\' ∧ escapeChar c = [c]) := by
  unfold escapeChar
  split
  · exact Or.inl ⟨'"', rfl, rfl, by decide, by decide⟩
  · exact Or.inl ⟨'\\', rfl, rfl, by decide, by decide⟩
  · exact Or.inl ⟨'n', rfl, rfl, by decide, by decide⟩
  · exact Or.inl ⟨'r', rfl, rfl, by decide, by decide⟩
  · exact Or.inl ⟨'t', rfl, rfl, by decide, by decide⟩
  · exact Or.inl ⟨'b', rfl, rfl, by decide, by decide⟩
  · exact Or.inl ⟨'f', rfl, rfl, by decide, by decide⟩
  · rename_i hquote hbackslash _ _ _ _ _
    split
    · rename_i hcontrol
      exact Or.inr (Or.inl ⟨hcontrol, rfl⟩)
    · rename_i hplain
      exact Or.inr (Or.inr ⟨Nat.le_of_not_lt hplain, hquote, hbackslash, rfl⟩)

/-- The digits of a control character, which are two behind two zeros, have its number. -/
theorem hexUnit?_control : ∀ n < 0x20,
    hexUnit? '0' '0' (Text.hexDigit (n / 16)) (Text.hexDigit n) = some n := by decide

/-- The digits of a control character are plain characters. -/
theorem hexDigit_control : ∀ n < 0x20,
    (0x20 ≤ (Text.hexDigit (n / 16)).toNat ∧ Text.hexDigit (n / 16) ≠ '"' ∧
      Text.hexDigit (n / 16) ≠ '\\') ∧
    (0x20 ≤ (Text.hexDigit n).toNat ∧ Text.hexDigit n ≠ '"' ∧ Text.hexDigit n ≠ '\\') := by
  decide

/-- The escape of a character, in front of any text, stands for the character. -/
theorem unescape_escapeChar (c : Char) (rest : List Char) :
    unescape (escapeChar c ++ rest) = (unescape rest).map (c :: ·) := by
  rcases escapeChar_cases c with ⟨d, hescape, hshort, -, hu⟩ | ⟨hcontrol, hescape⟩ |
    ⟨-, -, hbackslash, hescape⟩
  · rw [hescape, List.cons_append, List.singleton_append, unescape, hshort]
    · cases unescape rest <;> rfl
    all_goals simp [hu]
  · rw [hescape]
    simp only [List.cons_append, List.nil_append]
    rw [unescape, hexUnit?_control _ hcontrol]
    -- a control character is no half of a pair
    have hlow : isLowHalf c.toNat = false := by
      rw [isLowHalf, Bool.and_eq_false_iff, decide_eq_false_iff_not]
      exact Or.inl (by omega)
    have hhigh : isHighHalf c.toNat = false := by
      rw [isHighHalf, Bool.and_eq_false_iff, decide_eq_false_iff_not]
      exact Or.inl (by omega)
    simp only [Option.bind_eq_bind, Option.bind_some, hlow, hhigh, Char.ofNat_toNat]
    cases unescape rest <;> rfl
  · rw [hescape, List.singleton_append, unescape]
    · cases unescape rest <;> rfl
    all_goals simp [hbackslash]

/-- The escapes of a text stand for its characters, one after the other. -/
theorem unescape_escape (text : List Char) : unescape (text.flatMap escapeChar) = some text := by
  induction text with
  | nil => rfl
  | cons c rest ih => rw [List.flatMap_cons, unescape_escapeChar, ih, Option.map_some]

/-- The escape of a character does not end a string. -/
theorem lex_escapeChar (c : Char) (read rest : List Char) :
    lex (.text read) (escapeChar c ++ rest)
      = lex (.text ((escapeChar c).reverse ++ read)) rest := by
  have hletter : ∀ (d : Char) (read rest : List Char), 0x20 ≤ d.toNat →
      lex (.text read) ('\\' :: d :: rest) = lex (.text (d :: '\\' :: read)) rest := by
    intro d read rest hd
    rw [lex, if_neg (by decide), if_pos (by rfl), lex, if_neg (Nat.not_lt.mpr hd)]
  have hplain : ∀ (d : Char) (read rest : List Char), 0x20 ≤ d.toNat → d ≠ '"' → d ≠ '\\' →
      lex (.text read) (d :: rest) = lex (.text (d :: read)) rest := by
    intro d read rest hd hquote hbackslash
    rw [lex, if_neg (by simpa using hquote), if_neg (by simpa using hbackslash),
      if_neg (Nat.not_lt.mpr hd)]
  rcases escapeChar_cases c with ⟨d, hescape, -, hd, -⟩ | ⟨hcontrol, hescape⟩ |
    ⟨hlarge, hquote, hbackslash, hescape⟩
  · rw [hescape]
    exact hletter d read rest hd
  · obtain ⟨hhigh, hlow⟩ := hexDigit_control _ hcontrol
    rw [hescape]
    simp only [List.cons_append, List.nil_append]
    rw [hletter 'u' _ _ (by decide), hplain '0' _ _ (by decide) (by decide) (by decide),
      hplain '0' _ _ (by decide) (by decide) (by decide), hplain _ _ _ hhigh.1 hhigh.2.1 hhigh.2.2,
      hplain _ _ _ hlow.1 hlow.2.1 hlow.2.2]
    rfl
  · rw [hescape]
    exact hplain c read rest hlarge hquote hbackslash

/-- The escapes of a text do not end a string. -/
theorem lex_escape (text read rest : List Char) :
    lex (.text read) (text.flatMap escapeChar ++ rest)
      = lex (.text ((text.flatMap escapeChar).reverse ++ read)) rest := by
  induction text generalizing read with
  | nil => rfl
  | cons c text ih =>
    rw [List.flatMap_cons, List.append_assoc, lex_escapeChar, ih, List.reverse_append,
      List.append_assoc]

/-- A printed string is one lexeme, whatever follows it. -/
theorem lex_quote (text : String) (rest : List Char) :
    lex .between (quote text ++ rest) = (lex .between rest).map (.text text :: ·) := by
  have hopen : lex .between (quote text ++ rest)
      = lex (.text []) (text.toList.flatMap escapeChar ++ '"' :: rest) := by
    rw [quote, List.cons_append, List.append_assoc, List.singleton_append, lex]
    show (lex (.text []) _).bind (fun tokens => some ([] ++ tokens)) = _
    simp
  rw [hopen, lex_escape, List.append_nil, lex, if_pos (by rfl), List.reverse_reverse,
    unescape_escape]
  show (lex .between rest).bind
    (fun tokens => some (.text (String.ofList text.toList) :: tokens)) = _
  rw [String.ofList_toList]
  cases lex .between rest <;> rfl

/-- A printed string ends where its text does, whatever follows it. -/
theorem quote_append_inj {text text' : String} {rest rest' : List Char}
    (h : quote text ++ rest = quote text' ++ rest') : text = text' ∧ rest = rest' := by
  -- the shorter of the two is read off the beginning of the other one
  have hread : ∀ (a b : String) (more : List Char), quote a ++ more = quote b → a = b := by
    intro a b more heq
    have hlex := lex_quote b []
    rw [← heq, List.append_assoc, lex_quote, List.append_nil] at hlex
    obtain ⟨tokens, -, htokens⟩ := Option.map_eq_some_iff.mp hlex
    cases htokens
    rfl
  have htext : text = text' := by
    rcases List.append_eq_append_iff.mp h with ⟨more, heq, -⟩ | ⟨more, heq, -⟩
    · exact hread text text' more heq.symm
    · exact (hread text' text more heq.symm).symm
  subst htext
  exact ⟨rfl, List.append_cancel_left h⟩

/-! ### Numbers -/

/-- The digits of a number are all digits, so nothing is left behind them. -/
theorem spanDigits_ofNat (n : Nat) :
    Text.spanDigits (Text.Numeral.ofNat n) = (Text.Numeral.ofNat n, []) := by
  have hall : ∀ c ∈ Text.Numeral.ofNat n, c.isDigit = true :=
    fun c hc => Text.Numeral.isDigit_of_mem_ofNat hc
  have htake : (Text.Numeral.ofNat n ++ []).takeWhile Char.isDigit = _ :=
    List.takeWhile_append_of_pos hall
  have hdrop : (Text.Numeral.ofNat n ++ []).dropWhile Char.isDigit = _ :=
    List.dropWhile_append_of_pos hall
  rw [List.append_nil] at htake hdrop
  rw [Text.spanDigits, htake, hdrop, List.takeWhile_nil, List.dropWhile_nil, List.append_nil]

/-- A printed number ends where its digits do, in front of a character that is none. -/
theorem ofNat_append_inj {n n' : Nat} {c : Char} (hc : c.isDigit = false) {rest rest' : List Char}
    (h : Text.Numeral.ofNat n ++ c :: rest = Text.Numeral.ofNat n' ++ c :: rest') : n = n' := by
  have hdigits : ∀ (m : Nat) (more : List Char),
      (Text.Numeral.ofNat m ++ c :: more).takeWhile Char.isDigit = Text.Numeral.ofNat m := by
    intro m more
    rw [List.takeWhile_append_of_pos fun d hd => Text.Numeral.isDigit_of_mem_ofNat hd,
      List.takeWhile_cons_of_neg (by simp [hc]), List.append_nil]
  rw [← Text.digitsValue_ofNat n, ← Text.digitsValue_ofNat n', ← hdigits n rest, h, hdigits]

/-- The digits of a number of a word are that number: they have no leading zero, and no fraction
follows. -/
theorem number?_ofNat {n : Nat} (hn : n ≤ Text.Numeral.maxWord) :
    number? (Text.Numeral.ofNat n) = some (nat n) := by
  obtain ⟨c, rest, hdigits, -, hminus⟩ := Text.Numeral.ofNat_eq_cons n
  have hleading : ((Text.Numeral.ofNat n).isEmpty || ((Text.Numeral.ofNat n).length > 1 &&
      (Text.Numeral.ofNat n).head? == some '0')) = false := by
    by_cases hsmall : n < 10
    · rw [Text.Numeral.ofNat, if_pos hsmall]
      rfl
    · have hhead := Text.Numeral.head?_ofNat (n := n) (by omega)
      rw [beq_eq_false_iff_ne.mpr hhead, Bool.and_false, hdigits]
      rfl
  rw [number?]
  · simp only [spanDigits_ofNat, hleading, Text.digitsValue_ofNat, Bool.false_eq_true, if_false]
    rw [wholeNumber, if_neg Bool.false_ne_true, if_pos hn]
    rfl
  · intro rest' hcons
    rw [hdigits] at hcons
    exact hminus (List.cons.inj hcons).1

/-- The digits of a number are no literal, so a word of them is read as the number. -/
theorem atom?_ofNat {n : Nat} (hn : n ≤ Text.Numeral.maxWord) :
    atom? (Text.Numeral.ofNat n) = some (nat n) := by
  have hletter : ∀ c : Char, c.isDigit = false → ∀ rest, Text.Numeral.ofNat n ≠ c :: rest := by
    intro c hc rest hword
    rw [Text.Numeral.isDigit_of_mem_ofNat (hword ▸ List.mem_cons_self)] at hc
    cases hc
  rw [atom?, if_neg (hletter 't' (by decide) _), if_neg (hletter 'f' (by decide) _),
    if_neg (hletter 'n' (by decide) _), number?_ofNat hn]

/-- Words go on as long as their characters do. -/
theorem lex_word (word read rest : List Char) (hword : ∀ c ∈ word, isWordChar c = true) :
    lex (.word read) (word ++ rest) = lex (.word (word.reverse ++ read)) rest := by
  induction word generalizing read with
  | nil => rfl
  | cons c word ih =>
    rw [List.cons_append, lex, if_pos (hword c List.mem_cons_self),
      ih _ fun d hd => hword d (List.mem_cons_of_mem _ hd), List.reverse_cons, List.append_assoc,
      List.singleton_append]

/-- A word ends in front of a character that it cannot hold. -/
theorem lex_word_end {read : List Char} {value : Json} (hatom : atom? read.reverse = some value)
    {c : Char} (hc : isWordChar c = false) (rest : List Char) :
    lex (.word read) (c :: rest) = (lex .between (c :: rest)).map (.atom value :: ·) := by
  have hbetween : lex .between (c :: rest) = ( entry? c).bind fun entry =>
      (lex entry.2 rest).bind fun others => some (entry.1 ++ others) := rfl
  have hword : lex (.word read) (c :: rest) = (atom? read.reverse).bind fun value =>
      ( entry? c).bind fun entry =>
        (lex entry.2 rest).bind fun others => some (.atom value :: (entry.1 ++ others)) :=
    if_neg (by rw [hc]; exact Bool.false_ne_true)
  rw [hword, hbetween, hatom, Option.bind_some]
  cases entry? c with
  | none => rfl
  | some entry => cases h : lex entry.2 rest <;> simp [h]

/-- A digit begins a word, and no lexeme is completed by it. -/
theorem lexEntry_digit {d : Char} (hd : d.isDigit = true) : entry? d = some ([], .word [d]) := by
  have hword : isWordChar d = true := by
    rw [isWordChar, Char.isAlphanum, hd, Bool.or_true]
    rfl
  rw [ entry?, if_pos hword]
  -- the other patterns are no digits
  all_goals
    rintro rfl
    exact absurd hd (by decide)

/-- A printed number is one lexeme, in front of a character that ends it. -/
theorem lex_nat {n : Nat} (hn : n ≤ Text.Numeral.maxWord) {c : Char} (hc : isWordChar c = false)
    (rest : List Char) :
    lex .between (Text.Numeral.ofNat n ++ c :: rest)
      = (lex .between (c :: rest)).map (.atom (nat n) :: ·) := by
  have hdigit : ∀ d ∈ Text.Numeral.ofNat n, d.isDigit = true :=
    fun d hd => Text.Numeral.isDigit_of_mem_ofNat hd
  have hatom := atom?_ofNat hn
  obtain ⟨d, digits, hdigits, -, -⟩ := Text.Numeral.ofNat_eq_cons n
  rw [hdigits] at hdigit hatom ⊢
  have hword : ∀ e ∈ digits, isWordChar e = true := by
    intro e he
    rw [isWordChar, Char.isAlphanum, hdigit e (List.mem_cons_of_mem _ he), Bool.or_true]
    rfl
  rw [List.cons_append, lex, lexEntry_digit (hdigit d List.mem_cons_self)]
  show (lex (.word [d]) (digits ++ c :: rest)).bind (fun tokens => some ([] ++ tokens)) = _
  rw [lex_word _ _ _ hword, lex_word_end _ hc]
  · cases lex .between (c :: rest) <;> rfl
  · rw [List.reverse_append, List.reverse_reverse]
    exact hatom

end AccessGateway.Json
