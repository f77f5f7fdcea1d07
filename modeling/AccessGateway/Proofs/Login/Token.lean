import AccessGateway.Login.Token
import AccessGateway.Proofs.Digest.Base64
import AccessGateway.Proofs.Json.Object
import AccessGateway.Proofs.Text.Split
import AccessGateway.Proofs.Text.Utf8

/-!
# `AccessGateway.Proofs.Login.Token`: an issuer accepts what it issued

A token is written through four layers: claims become an object, its text, the octets of the
text and their symbols. Each is read back, so the issuer gets the claims that it signed. For each
layer there is a lemma of its own elsewhere (`Proofs.Document`, `Proofs.Json.Object`,
`Proofs.Text.Utf8`, `Proofs.Digest.Base64`), and here they are put together.

* `SignedToken.read?_sign`: a signed token is taken apart into what was put together.
* `Claims.read_members`: claims are read back from their members.
* `TokenIssuer.verify_issue`: an issued token is accepted until it is over.
* `TokenIssuer.issue_injective`: the user and the second of a token are read off it.
* `TokenIssuer.colon_not_mem_of_verify`, `TokenIssuer.colon_not_mem_issue`: no token that is
  accepted or issued has a colon. Keys of records rest on that: the token is what stands behind the
  last colon.

`Claims.FitWords` is the one condition on claims. A time that no word holds would be written and not
be read back; that is why results about issued tokens have a bound on the clock.
-/

set_option autoImplicit false

namespace AccessGateway

open Digest (Alphabet)

/-! ### Dots -/

namespace SignedToken

/-- A text is cut at the last dot, so that a message may have dots of its own: the header and the
claims are joined by one. -/
theorem splitLastDot?_append (before after : List Char) (hafter : '.' ∉ after) :
    splitLastDot? (before ++ '.' :: after) = some (before, after) := by
  rw [splitLastDot?, List.reverse_append, List.reverse_cons, List.append_assoc,
    List.singleton_append, Text.splitOnce?_append _ _ _ (by simpa using hafter), Option.map_some]
  simp only [List.reverse_reverse]

/-- Nothing but a dot is lost by a cut at the last one, so the text is put together again from its
parts. -/
theorem splitLastDot?_eq_some {text before after : List Char}
    (h : splitLastDot? text = some (before, after)) : text = before ++ '.' :: after := by
  obtain ⟨⟨a, b⟩, hcut, heq⟩ := Option.map_eq_some_iff.mp h
  obtain ⟨rfl, rfl⟩ := Prod.mk.inj heq
  rw [← List.reverse_reverse text, (Text.splitOnce?_eq_some_iff.mp hcut).1]
  simp

/-! ### Layers -/

/-- Symbols of URLs contain neither dots nor colons, so neither can come from a part of a token. -/
theorem separators_not_mem_symbols :
    '.' ∉ Alphabet.url.symbols ∧ ':' ∉ Alphabet.url.symbols := by decide

/-- What is written in symbols contains neither dots nor colons, so dots separate the parts of a
token and colons those of a key. -/
theorem separators_not_mem_encode (bytes : Bytes) :
    '.' ∉ Alphabet.url.encode bytes ∧ ':' ∉ Alphabet.url.encode bytes := by
  have hsymbols := Alphabet.mem_of_mem_encode Alphabet.isDistinct_url bytes
  exact ⟨fun h => separators_not_mem_symbols.1 (hsymbols _ h),
    fun h => separators_not_mem_symbols.2 (hsymbols _ h)⟩

/-- A written object is read back from its symbols, through the octets of its text: each of the
three layers is undone by its own lemma. -/
theorem readJson?_encode (members : List (String × Json)) (hne : members ≠ [])
    (hvalues : ∀ m ∈ members, m.2.IsLexeme) :
    readJson? (Alphabet.url.encode (Text.utf8 (Json.obj members).compact))
      = some (.obj members) := by
  rw [readJson?, Alphabet.decode?_encode Alphabet.isDistinct_url]
  show (Text.ofUtf8? _).bind (fun text => Json.read? text.toList) = _
  rw [Text.ofUtf8?_utf8, Option.bind_some, Json.compact, String.toList_ofList,
    Json.read?_obj members hne hvalues]

end SignedToken

namespace Claims

/-- Times of a token that a word holds. -/
structure FitWords (claims : Claims) : Prop where
  issuedAt : claims.issuedAt ≤ Text.Numeral.maxWord
  expiresAt : ∀ stop ∈ claims.expiresAt, stop ≤ Text.Numeral.maxWord

/-- The members of claims are texts and numbers, and the numbers are of a word by hypothesis. -/
theorem FitWords.isLexeme {claims : Claims} (h : claims.FitWords) :
    ∀ m ∈ claims.members, m.2.IsLexeme := by
  intro m hm
  simp only [members, List.mem_append, List.mem_cons, List.not_mem_nil, or_false] at hm
  rcases hm with ((rfl | rfl | rfl) | hm) | rfl
  · exact .str _
  · exact .str _
  · exact .nat h.issuedAt
  · obtain ⟨stop, hstop, rfl⟩ := Option.map_eq_some_iff.mp (Option.mem_toList.mp hm)
    exact .nat (h.expiresAt stop hstop)
  · exact .str _

/-- A number of a word is read, as itself. -/
theorem word_nat {n : Nat} (hn : n ≤ Text.Numeral.maxWord) :
    Decoder.word (Json.nat n) = some n := by
  have hbounds :
      (decide ((0 : Int) ≤ n) && decide ((n : Int) ≤ Int.ofNat Text.Numeral.maxWord)) = true := by
    rw [Bool.and_eq_true, decide_eq_true_eq, decide_eq_true_eq]
    exact ⟨Int.natCast_nonneg n, Int.ofNat_le.mpr hn⟩
  show ((some (n : Int)).filter fun m =>
    decide (0 ≤ m) && decide (m ≤ Int.ofNat Text.Numeral.maxWord)).map Int.toNat = _
  rw [Option.filter_some, if_pos hbounds]
  rfl

/-- Claims are read back from their members, with or without an end: the member is left out where
there is none. -/
theorem read_members {claims : Claims} (h : claims.FitWords) :
    Claims.read (.obj claims.members) = some claims := by
  -- whether there is an end decides which members there are, so each reading is split on it
  have hrecord : Decoder.record names (.obj claims.members) = some claims.members := by
    rcases claims with ⟨subject, issuedAt, _ | stop, issuer⟩
    · rfl
    · rfl
  have hissued : Decoder.required Decoder.word "iat" claims.members = some claims.issuedAt :=
    word_nat h.issuedAt
  have hexpires : Decoder.defaulted (Decoder.optional Decoder.word) "exp" none claims.members
      = some claims.expiresAt := by
    rcases claims with ⟨subject, issuedAt, _ | stop, issuer⟩
    · rfl
    · exact congrArg (Option.map some) (word_nat (h.expiresAt stop rfl))
  have hissuer : Decoder.required Decoder.text "iss" claims.members = some claims.issuer := by
    rcases claims with ⟨subject, issuedAt, _ | stop, issuer⟩
    · rfl
    · rfl
  rw [Claims.read, hrecord, Option.bind_eq_bind, Option.bind_some]
  show (Decoder.required Decoder.word "iat" claims.members).bind (fun issuedAt =>
    (Decoder.defaulted (Decoder.optional Decoder.word) "exp" none claims.members).bind
      fun expiresAt => (Decoder.required Decoder.text "iss" claims.members).bind
        fun issuer => some (Claims.mk claims.subject issuedAt expiresAt issuer)) = _
  rw [hissued, Option.bind_some, hexpires, Option.bind_some, hissuer, Option.bind_some]

/-- The text of claims begins with their user and time, so claims with the same text have both in
common. -/
theorem subject_issuedAt_of_chars {claims claims' : Claims}
    (h : (Json.obj claims.members).chars = (Json.obj claims'.members).chars) :
    claims.subject = claims'.subject ∧ claims.issuedAt = claims'.issuedAt := by
  -- the members come in a fixed order, and a comma follows each of the first three
  have hchars : ∀ c : Claims, ∃ rest, (Json.obj c.members).chars
      = '\x7b' :: (Json.quote "sub" ++ ':' :: (Json.quote c.subject ++ ',' ::
          (Json.quote "token_type" ++ ':' :: (Json.quote tokenKind ++ ',' ::
            (Json.quote "iat" ++ ':' :: (Text.Numeral.ofNat c.issuedAt ++ ',' :: rest)))))) := by
    rintro ⟨subject, issuedAt, _ | stop, issuer⟩
    all_goals
      simp only [members, Option.map_none, Option.map_some, Option.toList_none, Option.toList_some,
        List.append_nil, List.nil_append, List.cons_append, Json.chars, Json.memberChars,
        List.append_assoc]
      exact ⟨_, rfl⟩
  obtain ⟨rest, hrest⟩ := hchars claims
  obtain ⟨rest', hrest'⟩ := hchars claims'
  rw [hrest, hrest'] at h
  obtain ⟨-, hsub⟩ := Json.quote_append_inj (List.cons.inj h).2
  obtain ⟨hsubject, hkind⟩ := Json.quote_append_inj (List.cons.inj hsub).2
  obtain ⟨-, hkind⟩ := Json.quote_append_inj (List.cons.inj hkind).2
  obtain ⟨-, hissued⟩ := Json.quote_append_inj (List.cons.inj hkind).2
  obtain ⟨-, hissued⟩ := Json.quote_append_inj (List.cons.inj hissued).2
  exact ⟨hsubject, Json.ofNat_append_inj (by decide) (List.cons.inj hissued).2⟩

end Claims

/-! ### Tokens -/

namespace SignedToken

/-- The members of the header of all tokens. -/
def headerMembers : List (String × Json) := [("typ", .str "JWT"), ("alg", .str method)]

/-- A signed token is taken apart into what was put together: the header that all tokens have, the
members of the claims, and the signature of both. -/
theorem read?_sign (i : TokenIssuer) {claims : Claims} (h : claims.FitWords) :
    ∃ message, read? (i.sign claims)
      = some ⟨message, .obj headerMembers, .obj claims.members, i.signature message⟩ := by
  have hheader : readJson? TokenIssuer.header = some (.obj headerMembers) :=
    readJson?_encode headerMembers (by simp [headerMembers]) (by
      simp only [headerMembers, List.forall_mem_cons]
      exact ⟨.str _, .str _, nofun⟩)
  have hclaims := readJson?_encode claims.members (by simp [Claims.members]) h.isLexeme
  -- the body is only looked at as symbols without dots, so that both cuts are where dots were put
  generalize hbody : Alphabet.url.encode (Text.utf8 (Json.obj claims.members).compact) = body
    at hclaims
  have hbodyDot : '.' ∉ body := hbody ▸ (separators_not_mem_encode _).1
  refine ⟨TokenIssuer.header ++ '.' :: body, ?_⟩
  rw [TokenIssuer.sign, hbody, read?, String.toList_ofList,
    splitLastDot?_append _ _ (separators_not_mem_encode _).1, Option.bind_eq_bind, Option.bind_some]
  show (splitLastDot? (TokenIssuer.header ++ '.' :: body)).bind (fun parts =>
    (readJson? parts.1).bind fun header => (readJson? parts.2).bind fun claims =>
      (Alphabet.url.decode? (Alphabet.url.encode _)).bind fun signature =>
        some (SignedToken.mk _ header claims signature)) = _
  rw [splitLastDot?_append _ _ hbodyDot, Option.bind_some]
  simp only [hheader, hclaims, Alphabet.decode?_encode Alphabet.isDistinct_url, Option.bind_some]

/-- What is read consists of symbols, whatever value it stands for. -/
theorem mem_of_readJson? {text : List Char} {value : Json} (h : readJson? text = some value) :
    ∀ c ∈ text, c ∈ Alphabet.url.symbols := by
  obtain ⟨bytes, hbytes, -⟩ := Option.bind_eq_some_iff.mp h
  exact Alphabet.mem_of_decode? hbytes

/-- A text that is taken apart as a token has no colon, since its parts are symbols and the dots
join them. -/
theorem colon_not_mem_of_read? {token : String} {signed : SignedToken}
    (h : read? token = some signed) : ':' ∉ token.toList := by
  obtain ⟨⟨message, signature⟩, houter, h⟩ := Option.bind_eq_some_iff.mp h
  obtain ⟨⟨header, body⟩, hinner, h⟩ := Option.bind_eq_some_iff.mp h
  obtain ⟨headerJson, hheader, h⟩ := Option.bind_eq_some_iff.mp h
  obtain ⟨bodyJson, hbody, h⟩ := Option.bind_eq_some_iff.mp h
  obtain ⟨bytes, hsignature, -⟩ := Option.bind_eq_some_iff.mp h
  have hsymbols := separators_not_mem_symbols.2
  rw [splitLastDot?_eq_some houter, splitLastDot?_eq_some hinner]
  simp only [List.mem_append, List.mem_cons, not_or]
  exact ⟨⟨fun hmem => hsymbols (mem_of_readJson? hheader _ hmem), by decide,
    fun hmem => hsymbols (mem_of_readJson? hbody _ hmem)⟩, by decide,
    fun hmem => hsymbols (Alphabet.mem_of_decode? hsignature _ hmem)⟩

end SignedToken

namespace TokenIssuer

variable {i : TokenIssuer}

/-- An issuer opens what it signed: the header announces its method, no claim is given twice, and
the signature is its own. -/
theorem open?_sign {claims : Claims} (h : claims.FitWords) :
    ∃ signed, i.open? (i.sign claims) = some signed ∧ signed.claims = .obj claims.members := by
  obtain ⟨message, hread⟩ := SignedToken.read?_sign i h
  let signed : SignedToken :=
    ⟨message, .obj SignedToken.headerMembers, .obj claims.members, i.signature message⟩
  have hheader : signed.hasHeader = true := by
    show SignedToken.hasHeader ⟨[], .obj SignedToken.headerMembers, .null, []⟩ = true
    decide
  have hunique : signed.hasUniqueClaims = true := by
    rcases claims with ⟨subject, issuedAt, _ | stop, issuer⟩
    · rfl
    · rfl
  refine ⟨signed, ?_, rfl⟩
  rw [open?, hread, Option.bind_eq_bind, Option.bind_some]
  exact if_pos ⟨hheader, hunique, rfl⟩

/-- The claims of an issued token fit as long as the clock does: the end of a token is the largest
of its numbers. -/
theorem fitWords_claimsFor (i : TokenIssuer) (user : String) {seconds : Nat}
    (hclock : seconds + i.maxAge.seconds ≤ Text.Numeral.maxWord) :
    (i.claimsFor user seconds).FitWords where
  issuedAt := Nat.le_trans (Nat.le_add_right _ _) hclock
  expiresAt := by
    intro stop hstop
    rw [claimsFor] at hstop
    cases hzero : i.maxAge.isZero with
    | true =>
      rw [hzero] at hstop
      cases hstop
    | false =>
      rw [hzero] at hstop
      cases hstop
      exact hclock

/-- An issued token is accepted until it is over, the time of grace included, and gives the claims
that it was issued for. The clock must be one that the claims can hold. -/
theorem verify_issue (i : TokenIssuer) (user : String) {seconds now : Nat}
    (hclock : seconds + i.maxAge.seconds ≤ Text.Numeral.maxWord)
    (hnow : now ≤ seconds + i.maxAge.seconds + leeway) :
    i.verify (i.issue user seconds) now = .ok (i.claimsFor user seconds) := by
  have hfit := fitWords_claimsFor i user hclock
  obtain ⟨signed, hopen, hclaims⟩ := open?_sign (i := i) hfit
  -- the four conditions that an issuer has for what it opens
  have hplain : signed.hasPlainEnd = true := by
    have hend : ∀ claims : Claims, (claims.members.lookup "exp" != some .null) = true := by
      rintro ⟨subject, issuedAt, _ | stop, issuer⟩
      · rfl
      · rfl
    rw [SignedToken.hasPlainEnd, hclaims]
    exact hend _
  have hend : (i.claimsFor user seconds).expiresAt.isSome = true ∨ i.maxAge.isZero = true := by
    rw [claimsFor]
    cases i.maxAge.isZero with
    | true => exact Or.inr rfl
    | false => exact Or.inl rfl
  have hover : isOver (i.claimsFor user seconds) now = false := by
    rw [isOver, claimsFor]
    cases i.maxAge.isZero with
    | true => rfl
    | false => exact decide_eq_false (Nat.not_lt.mpr hnow)
  have haccepted : i.claims? (i.issue user seconds) now = some (i.claimsFor user seconds) := by
    rw [claims?, issue, hopen, Option.bind_eq_bind, Option.bind_some, hclaims,
      Claims.read_members hfit]
    exact if_pos ⟨hplain, hend, rfl, hover⟩
  rw [verify, haccepted]

/-- No accepted token has a colon, so a key of a record is cut at its last one in one way only. -/
theorem colon_not_mem_of_verify {token : String} {seconds : Nat} {claims : Claims}
    (h : i.verify token seconds = .ok claims) : ':' ∉ token.toList := by
  rw [verify] at h
  split at h
  · rename_i accepted haccepted
    obtain ⟨signed, hopen, -⟩ := Option.bind_eq_some_iff.mp haccepted
    obtain ⟨read, hread, -⟩ := Option.bind_eq_some_iff.mp hopen
    exact SignedToken.colon_not_mem_of_read? hread
  · cases h

/-- A token is accepted or refused for one reason, whatever is wrong with it, so that a refusal
tells nothing of the key. -/
theorem verify_cases (i : TokenIssuer) (token : String) (seconds : Nat) :
    (∃ claims, i.verify token seconds = .ok claims) ∨
    i.verify token seconds = .error .incorrectCredential := by
  rw [verify]
  cases i.claims? token seconds with
  | some claims => exact Or.inl ⟨claims, rfl⟩
  | none => exact Or.inr rfl

/-- An issuer signs different tokens for different users, and for one user in different seconds.
This needs no bound on the clock, as it is about what is written and not about what is read. -/
theorem issue_injective {user user' : String} {seconds seconds' : Nat}
    (h : i.issue user seconds = i.issue user' seconds') : user = user' ∧ seconds = seconds' := by
  -- before the last dot is the message, and behind its own dot the text of the claims
  have hsplit : ∀ claims : Claims, SignedToken.splitLastDot? (i.sign claims).toList
      = some (header ++ '.' :: Alphabet.url.encode (Text.utf8 (Json.obj claims.members).compact),
          Alphabet.url.encode (i.signature (header ++ '.' ::
            Alphabet.url.encode (Text.utf8 (Json.obj claims.members).compact)))) := by
    intro claims
    rw [sign, String.toList_ofList]
    exact SignedToken.splitLastDot?_append _ _ (SignedToken.separators_not_mem_encode _).1
  have hparts := congrArg (fun token : String => SignedToken.splitLastDot? token.toList) h
  simp only [issue, hsplit] at hparts
  have hmessage := (Prod.mk.inj (Option.some.inj hparts)).1
  have hbody := (List.cons.inj (List.append_cancel_left hmessage)).2
  -- both layers under the symbols are undone by reading them back
  have hbytes := congrArg Alphabet.url.decode? hbody
  rw [Alphabet.decode?_encode Alphabet.isDistinct_url,
    Alphabet.decode?_encode Alphabet.isDistinct_url] at hbytes
  have htext := congrArg Text.ofUtf8? (Option.some.inj hbytes)
  rw [Text.ofUtf8?_utf8, Text.ofUtf8?_utf8] at htext
  exact Claims.subject_issuedAt_of_chars (String.ofList_inj.mp (Option.some.inj htext))

/-- No issued token has a colon, whatever the name that it is for. -/
theorem colon_not_mem_issue (i : TokenIssuer) (user : String) (seconds : Nat) :
    ':' ∉ (i.issue user seconds).toList := by
  rw [issue, sign, String.toList_ofList]
  simp only [List.mem_append, List.mem_cons, not_or]
  have hcolon := fun bytes => (SignedToken.separators_not_mem_encode bytes).2
  exact ⟨⟨hcolon _, by decide, hcolon _⟩, by decide, hcolon _⟩

end TokenIssuer

end AccessGateway
