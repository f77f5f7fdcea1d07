import AccessGateway.Proofs.Query.LastSays
import AccessGateway.Proofs.Query.Legacy

/-!
# `AccessGateway.Proofs.Query.Paging`: which statement of a page counts

The first generation knows three ways to state a page: terms of `paging`, the parameters `limit` and
`page`, and an `offset`. They may be mixed, and each may be given more than once. `Query.IsPaged`
resolves all of that by one rule, key by key: the last parameter with a key, or else the last term
of `paging` with it, or else a default. The offset of the page counts only when no offset is given.

The terms of a `paging` value are parameters of a list of their own, so the same relation that says
what a list of parameters settles says what the terms do, and its result is the default for the
outer list. `Query.IsTermsOf` ties the terms to the characters of the value. The limit of the page
is the one that counts in the end, also where the page is stated in one way and the limit in the
other.

* `Query.Paging.takeTerm_cases`: what taking one term does.
* `Query.Paging.lastSays_of_take`: what the terms of a `paging` value settle.
* `Query.ofLegacyParameters_congr`: only the last values of the known keys make a difference.
* `Query.ofLegacyParameters_precedence`: parameters that do not count may be left out, those that do
  may change places, and the page is the one that the rule gives.
-/

set_option autoImplicit false

namespace AccessGateway.Query

open Parameter (IsLimit IsPage IsOffset IsPageStart)

/-! ### The terms of a `paging` value -/

/-- The terms of a value: what stands between its commas, each with a key in front of the first
equals sign. Between two commas there may be nothing. -/
structure IsTermsOf (raw : String) (terms : List (String × String)) : Prop where
  pieces : Text.nonemptyPieces ',' raw.toList
    = terms.map fun term => term.1.toList ++ '=' :: term.2.toList
  key : ∀ term ∈ terms, '=' ∉ term.1.toList

namespace Paging

variable {raw : String} {paging next : Paging} {term : List Char}

/-- A term that is taken gives a limit or a page. Any other term is refused, so there is no third
kind. -/
theorem takeTerm_cases (h : takeTerm raw paging term = .ok next) :
    ∃ key value : String, term = key.toList ++ '=' :: value.toList ∧ '=' ∉ key.toList ∧
      ((key = Parameter.limit ∧ ∃ limit, IsLimit value limit ∧ next = { paging with limit }) ∨
        (key = Parameter.page ∧ ∃ page, IsPage value page ∧ next = { paging with page })) := by
  rw [takeTerm] at h
  split at h
  · cases h
  · rename_i key value hcut
    obtain ⟨rfl, hkey⟩ := Text.splitOnce?_eq_some_iff.mp hcut
    refine ⟨String.ofList key, String.ofList value, by simp, by simpa using hkey, ?_⟩
    split at h
    · rename_i hlimit
      obtain ⟨limit, hread, hnext⟩ := Outcome.bind_eq_ok_iff.mp h
      cases hnext
      exact Or.inl ⟨hlimit, limit, Parameter.readLimit_eq_ok_iff.mp hread, rfl⟩
    split at h
    · rename_i hpage
      obtain ⟨page, hread, hnext⟩ := Outcome.bind_eq_ok_iff.mp h
      cases hnext
      exact Or.inr ⟨hpage, some page, Parameter.readPage_eq_ok_iff.mp hread, rfl⟩
    · cases h

/-- The terms of a value that is taken settle the limit and the page, wherever they stand. What was
given before the first of them is the default. -/
theorem lastSays_of_take (h : paging.take raw = .ok next) : ∃ terms, IsTermsOf raw terms ∧
    LastSays terms Parameter.limit IsLimit paging.limit next.limit ∧
    LastSays terms Parameter.page IsPage paging.page next.page := by
  let holds (taken : List (List Char)) (state : Paging) : Prop :=
    ∃ terms : List (String × String),
      taken = terms.map (fun term => term.1.toList ++ '=' :: term.2.toList) ∧
      (∀ term ∈ terms, '=' ∉ term.1.toList) ∧
      LastSays terms Parameter.limit IsLimit paging.limit state.limit ∧
      LastSays terms Parameter.page IsPage paging.page state.page
  have hstep : ∀ taken term state next, holds taken state → takeTerm raw state term = .ok next →
      holds (taken ++ [term]) next := by
    rintro _ _ state next ⟨terms, rfl, hterms, hlimit, hpage⟩ htake
    obtain ⟨key, value, rfl, hkey, hcases⟩ := takeTerm_cases htake
    refine ⟨terms ++ [(key, value)], by simp, ?_, ?_⟩
    · intro term hterm
      rcases List.mem_append.mp hterm with hterm | hterm
      · exact hterms term hterm
      · rw [List.mem_singleton.mp hterm]
        exact hkey
    · rcases hcases with ⟨rfl, limit, hvalue, rfl⟩ | ⟨rfl, page, hvalue, rfl⟩
      · exact ⟨.append_given hvalue, hpage.append_other (by decide)⟩
      · exact ⟨hlimit.append_other (by decide), .append_given hvalue⟩
  have hstart : holds [] paging := ⟨[], rfl, nofun, .missing nofun, .missing nofun⟩
  obtain ⟨terms, hpieces, hkeys, hsettled⟩ := Outcome.foldlM_induction hstart hstep h
  exact ⟨terms, ⟨hpieces, hkeys⟩, hsettled⟩

end Paging

/-! ### Parameters that count -/

section
variable {parameters others : List (String × String)}

/-- The last value of a key depends on the last parameter with it, and on no other. -/
theorem lastValue_congr {key : String} (h : ∀ value, IsLastBy Prod.fst parameters (key, value)
    ↔ IsLastBy Prod.fst others (key, value)) : lastValue parameters key = lastValue others key := by
  ext value
  rw [lastValue_eq_some_iff_isLastBy, lastValue_eq_some_iff_isLastBy, h]

/-- Only the last values of the known keys make a difference, to a refusal as well. -/
theorem ofLegacyParameters_congr (h : ∀ key ∈ legacyKeys, ∀ value,
      IsLastBy Prod.fst parameters (key, value) ↔ IsLastBy Prod.fst others (key, value)) :
    ofLegacyParameters parameters = ofLegacyParameters others := by
  have hvalue : ∀ key ∈ legacyKeys, lastValue parameters key = lastValue others key :=
    fun key hkey => lastValue_congr (h key hkey)
  simp only [ofLegacyParameters, hvalue Parameter.conditions (by decide),
    hvalue Parameter.orderBy (by decide), hvalue Parameter.reverse (by decide),
    hvalue Parameter.paging (by decide), hvalue Parameter.limit (by decide),
    hvalue Parameter.page (by decide), hvalue Parameter.offset (by decide)]

/-- A parameter with an unknown key may be left out, and so may one that is given again. -/
theorem ofLegacyParameters_append_cons {before after : List (String × String)}
    {parameter : String × String}
    (h : parameter.1 ∉ legacyKeys ∨ parameter.1 ∈ after.map Prod.fst) :
    ofLegacyParameters (before ++ parameter :: after) = ofLegacyParameters (before ++ after) := by
  refine ofLegacyParameters_congr fun key hkey value => isLastBy_append_cons fun hsame => ?_
  rcases h with h | h
  · exact absurd (hsame ▸ hkey) h
  · exact List.mem_map.mp h

/-! ### The page -/

/-- How a query has its page from parameters, with the terms of `paging` and the number of the page
that they state. -/
structure IsPaged (parameters terms : List (String × String)) (number : Option Int) (q : Query) :
    Prop where
  paging : LastSays parameters Parameter.paging IsTermsOf [] terms
  limit : ∃ listed, LastSays terms Parameter.limit IsLimit 10 listed ∧
    LastSays parameters Parameter.limit IsLimit listed q.limit
  page : ∃ listed, LastSays terms Parameter.page IsPage none listed ∧
    LastSays parameters Parameter.page IsPage listed number
  offset : ∃ start, IsPageStart number q.limit start ∧
    LastSays parameters Parameter.offset IsOffset start q.offset

/-- The terms of the last `paging` value settle its limit and its page. -/
theorem exists_terms_of_paging {paging : Paging}
    (h : LastSays parameters Parameter.paging
      (fun raw paging => Paging.take ⟨10, none⟩ raw = .ok paging) ⟨10, none⟩ paging) :
    ∃ terms, LastSays parameters Parameter.paging IsTermsOf [] terms ∧
      LastSays terms Parameter.limit IsLimit 10 paging.limit ∧
      LastSays terms Parameter.page IsPage none paging.page := by
  cases h with
  | given last htake =>
    obtain ⟨terms, hterms, hsettled⟩ := Paging.lastSays_of_take htake
    exact ⟨terms, .given last hterms, hsettled⟩
  | missing none => exact ⟨[], .missing none, .missing nofun, .missing nofun⟩

/-- Parameters that are read state a page, if only by the defaults. -/
theorem exists_isPaged {q : Query} (h : ofLegacyParameters parameters = .ok q) :
    ∃ terms number, IsPaged parameters terms number q := by
  obtain ⟨-, -, -, paging, page, hpaging, hlimit, hpage, hoffset⟩ :=
    ofLegacyParameters_eq_ok_iff.mp h
  rw [readOr_eq_ok_iff fun _ _ => Iff.rfl] at hpaging
  rw [readOr_eq_ok_iff fun _ _ => Parameter.readLimit_eq_ok_iff] at hlimit
  rw [readOr_eq_ok_iff fun _ _ => Parameter.map_readPage_eq_ok_iff] at hpage
  rw [readOr_eq_ok_iff fun _ _ => Parameter.readOffset_eq_ok_iff] at hoffset
  obtain ⟨terms, hterms, hlimitTerm, hpageTerm⟩ := exists_terms_of_paging hpaging
  have hfirst : ∀ number, page = some number → 1 ≤ number :=
    hpage.of_forall IsPage.first (hpageTerm.of_forall IsPage.first nofun)
  exact ⟨terms, page, hterms, ⟨_, hlimitTerm, hlimit⟩, ⟨_, hpageTerm, hpage⟩,
    ⟨_, Parameter.isPageStart_offsetOfPage hfirst _, hoffset⟩⟩

end

/-- What is read, be it a query or a refusal, depends on the last values of the known keys: other
parameters may be left out, and those with different keys may change places. A query has the limit
of its parameter, or of the last term of `paging` that gives one, or ten. It has the offset that is
given, or else the start of the page that is stated in one of the two ways. -/
theorem ofLegacyParameters_precedence (parameters : List (String × String)) :
    (∀ others, (∀ key ∈ legacyKeys, ∀ value, IsLastBy Prod.fst others (key, value)
        ↔ IsLastBy Prod.fst parameters (key, value)) →
      ofLegacyParameters others = ofLegacyParameters parameters) ∧
    (∀ others, AgreeByKey others parameters →
      ofLegacyParameters others = ofLegacyParameters parameters) ∧
    (∀ before parameter after, parameters = before ++ parameter :: after →
      (parameter.1 ∉ legacyKeys ∨ parameter.1 ∈ after.map Prod.fst) →
      ofLegacyParameters (before ++ after) = ofLegacyParameters parameters) ∧
    ∀ q, ofLegacyParameters parameters = .ok q →
      ∃ terms number, IsPaged parameters terms number q := by
  refine ⟨fun others h => ofLegacyParameters_congr h, fun others h => ?_, ?_, fun q h =>
    exists_isPaged h⟩
  · exact ofLegacyParameters_congr fun key _ value => h.isLastBy_iff (key, value)
  · rintro before parameter after rfl h
    exact (ofLegacyParameters_append_cons h).symm

/-- The page stands in front of the limit of the same value, which is overridden by the second of
two limits. -/
theorem ofLegacyParameters_precedence_twoLimits :
    let parameters := [("limit", "9"), ("paging", "page=3,limit=5,"), ("trace", "on"),
      ("limit", "7")]
    let others := [("limit", "9"), ("limit", "7"), ("paging", "page=3,limit=5,"), ("trace", "on")]
    let q := everything.paged 7 14
    AgreeByKey others parameters ∧ ofLegacyParameters parameters = .ok q ∧
      ofLegacyParameters others = .ok q ∧ ofLegacyParameters parameters.tail = .ok q ∧
      ∃ terms number, IsPaged parameters terms number q := by
  intro parameters others q
  obtain ⟨-, hagree, hleft, hpaged⟩ := ofLegacyParameters_precedence parameters
  have hothers : AgreeByKey others parameters := agreeByKey_of_forall_mem (by decide)
  have hread : ofLegacyParameters parameters = .ok q := by rfl
  refine ⟨hothers, hread, (hagree others hothers).trans hread, ?_, hpaged q hread⟩
  exact (hleft [] ("limit", "9") parameters.tail rfl (Or.inr (by decide))).trans hread

end AccessGateway.Query
