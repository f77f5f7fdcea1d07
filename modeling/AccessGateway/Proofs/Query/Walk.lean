import AccessGateway.Gateway.Endpoint
import AccessGateway.Proofs.Query.Current
import AccessGateway.Proofs.Query.Page
import AccessGateway.Proofs.Text.Split
import Mathlib.Data.List.Permutation

/-!
# `AccessGateway.Proofs.Query.Walk`: walking the pages of a list

A client that asks for one page after the other sees each item once, in the order of the whole list.
The offset of a page is computed in machine words and stops at the largest of them; no list is that
long, so a page that begins there is as empty as the page that was meant.

A page is asked for by a limit and a page number. Both generations take these as parameters of their
own, and the first also as terms of one `paging` parameter. What else is asked for stands in the
other parameters, and both are read independently of each other. `Query.AsksForPage` says that
parameters ask for a page, in any of these ways and with the others anywhere between, and the same
walk may ask for each of its pages in another way.

There are two parts to it. The first is about reading: parameters that ask for a page are read as
the query of the others, cut to that page. Limit and page number are taken one after the other, be
it from the terms of one parameter or from two (`Query.Paging.takeOwn`), so both generations come
down to one fold over two terms. The second is about lists: what a page holds is said by the indices
of its items (`Page.between`), and neighbouring stretches of indices make one, which is the step of
the induction over the pages of a walk.

* `Page.cut_eq_between`: a page holds the items at the indices that its number stands for.
* `Generation.read_asksForPage`: parameters that ask for a page give the query of the others, cut to
  that page.
* `Generation.walk_pages`: what each page holds, and that all pages together hold the list.
-/

set_option autoImplicit false

namespace AccessGateway

open Text (natText)
open Text.Numeral (maxSigned)

/-! ### Pages by index -/

namespace Page

variable {α : Type}

/-- The items at the indices from `first` on and before `last`, in their order. -/
def between (items : List α) (first last : Nat) : List α :=
  (items.zipIdx.filter fun (_, index) => first ≤ index ∧ index < last).map Prod.fst

/-- Items are counted from any index on. The induction goes along the list, and the index of its
first item goes up with it. -/
theorem filter_zipIdx (items : List α) (start first last : Nat) :
    ((items.zipIdx start).filter fun (_, index) => first ≤ index ∧ index < last).map Prod.fst
      = (items.take (last - start)).drop (first - start) := by
  induction items generalizing start with
  | nil => simp
  | cons item rest ih =>
    rw [List.zipIdx_cons, List.filter_cons]
    by_cases hlast : start < last
    · rw [show last - start = last - (start + 1) + 1 by omega, List.take_succ_cons]
      by_cases hfirst : first ≤ start
      · rw [if_pos (by simp [hfirst, hlast]), List.map_cons, ih, Nat.sub_eq_zero_of_le hfirst,
          Nat.sub_eq_zero_of_le (Nat.le_succ_of_le hfirst)]
        rfl
      · rw [if_neg (by simp [hfirst]), ih,
          show first - start = first - (start + 1) + 1 by omega, List.drop_succ_cons]
    · -- neither this item nor one behind it is before `last`
      rw [if_neg (by simp [hlast]), ih, Nat.sub_eq_zero_of_le (by omega : last ≤ start + 1),
        Nat.sub_eq_zero_of_le (by omega : last ≤ start)]
      simp

/-- The items between two places are what is left of the first ones. -/
theorem between_eq (items : List α) (first last : Nat) :
    between items first last = (items.take last).drop first :=
  filter_zipIdx items 0 first last

/-- Neighbouring stretches make one, which is how a walk goes on from one page to the next. -/
theorem between_append (items : List α) {middle last : Nat} (hle : middle ≤ last) :
    between items 0 middle ++ between items middle last = between items 0 last := by
  simp only [between_eq, List.drop_zero]
  have hstart : items.take middle = (items.take last).take middle := by
    rw [List.take_take, Nat.min_eq_left hle]
  rw [hstart, List.take_append_drop]

/-- All items stand between the first place and any that is far enough. -/
theorem between_of_length_le {items : List α} {last : Nat} (hle : items.length ≤ last) :
    between items 0 last = items := by
  rw [between_eq, List.drop_zero, List.take_of_length_le hle]

/-- A page holds the items at the indices that its number stands for, also where its offset is cut
off at the largest signed word. No list has an item at that index. -/
theorem cut_eq_between {items : List α} {limit page : Nat} (hlimit : 1 ≤ limit) (hpage : 1 ≤ page)
    (hitems : items.length ≤ maxSigned) :
    cut items limit (Parameter.offsetOfPage (some (page : Int)) limit)
      = ⟨items.length, between items ((page - 1) * limit) (page * limit)⟩ := by
  have hsize : page * limit - (page - 1) * limit = limit := by
    rw [← Nat.sub_mul, Nat.sub_sub_self hpage, Nat.one_mul]
  have hnonneg : ¬ (limit : Int) < 0 := by omega
  rw [cut, if_neg hnonneg, Int.toNat_natCast, Parameter.offsetOfPage_eq hpage hlimit, between_eq,
    List.drop_take, hsize]
  rcases Nat.le_total ((page - 1) * limit) maxSigned with hfits | hbeyond
  · rw [Nat.min_eq_left hfits]
  · rw [Nat.min_eq_right hbeyond, List.drop_of_length_le hitems,
      List.drop_of_length_le (Nat.le_trans hitems hbeyond)]

/-- The number of pages that so many items take. The last of them may be short. -/
def count (total limit : Nat) : Nat := (total + limit - 1) / limit

/-- The pages have room for all items. -/
theorem le_count_mul (total : Nat) {limit : Nat} (hlimit : 1 ≤ limit) :
    total ≤ count total limit * limit := by
  have hdivided := Nat.div_add_mod (total + limit - 1) limit
  have hrest := Nat.mod_lt (total + limit - 1) hlimit
  rw [count, Nat.mul_comm]
  omega

/-- There are no more pages than items, so their numbers are words if the count of the items is
one. -/
theorem count_le (total : Nat) {limit : Nat} (hlimit : 1 ≤ limit) : count total limit ≤ total := by
  have hgrows : total ≤ total * limit := Nat.le_mul_of_pos_right total hlimit
  have hbelow : total + limit - 1 < (total + 1) * limit := by
    rw [Nat.add_mul, Nat.one_mul]
    omega
  exact Nat.le_of_lt_succ ((Nat.div_lt_iff_lt_mul hlimit).mpr hbelow)

end Page

/-! ### Asking for a page -/

/-- The query that parameters of a generation ask for, or why they are refused. -/
def Generation.read : Generation → List (String × String) → Except QueryFault Query
  | .legacy => Query.ofLegacyParameters
  | .current => Query.ofParameters

namespace Query

/-- The keys of the parameters that may say which page is meant. An offset is one of them, and must
not be given where a page is asked for. -/
def pageKeys : List String :=
  [Parameter.limit, Parameter.page, Parameter.paging, Parameter.offset]

/-- A term of a `paging` parameter, written like a parameter. -/
def pagingTerm (term : String × String) : List Char := term.1.toList ++ '=' :: term.2.toList

/-- The `paging` parameter with some terms, which is left out where there are none. -/
def pagingParameter : List (String × String) → List (String × String)
  | [] => []
  | terms => [(Parameter.paging, String.ofList ([','].intercalate (terms.map pagingTerm)))]

/-- Parameters that ask for a page of what the other parameters ask for: the limit and the page
number stand somewhere among these, as parameters of their own, or inside of one `paging` parameter
where the generation has it. -/
structure AsksForPage (generation : Generation) (limit page : Nat)
    (others parameters : List (String × String)) : Prop where
  others : (parameters.filter fun parameter => !pageKeys.contains parameter.1) = others
  page : ∃ apart inside,
    (inside ++ apart).Perm [(Parameter.limit, natText limit), (Parameter.page, natText page)] ∧
    (parameters.filter fun parameter => pageKeys.contains parameter.1).Perm
      (apart ++ pagingParameter inside) ∧
    (generation = .current → inside = [])

namespace Paging

/-- Takes the limit or the page number from a parameter of its own. Nothing else is taken, so a fold
of it goes over the two terms of a page only. -/
def takeOwn (paging : Paging) (parameter : String × String) : Except QueryFault Paging :=
  if parameter.1 = Parameter.limit then do
    return { paging with limit := ← Parameter.readLimit parameter.2 }
  else if parameter.1 = Parameter.page then do
    return { paging with page := some (← Parameter.readPage parameter.2) }
  else .error (.unknownField parameter.1)

variable {paging paging' : Paging} {parameter : String × String}

/-- What is taken from a parameter of its own: one of the two numbers, while the other one stays. -/
theorem takeOwn_eq_ok_iff : takeOwn paging parameter = .ok paging' ↔
    (parameter.1 = Parameter.limit ∧ Parameter.readLimit parameter.2 = .ok paging'.limit ∧
      paging'.page = paging.page) ∨
    (parameter.1 = Parameter.page ∧ ∃ page, Parameter.readPage parameter.2 = .ok page ∧
      paging'.page = some page ∧ paging'.limit = paging.limit) := by
  have hdistinct : Parameter.page ≠ Parameter.limit := by decide
  rw [takeOwn]
  split
  · rename_i hkey
    rw [Outcome.bind_eq_ok_iff]
    constructor
    · rintro ⟨limit, hread, hpaging⟩
      cases hpaging
      exact Or.inl ⟨hkey, hread, rfl⟩
    · rintro (⟨-, hread, hpage⟩ | ⟨hpage, -⟩)
      · exact ⟨_, hread, congrArg Except.ok (by rw [← hpage])⟩
      · exact absurd (hpage.symm.trans hkey) hdistinct
  · split
    · rename_i hlimit hkey
      rw [Outcome.bind_eq_ok_iff]
      constructor
      · rintro ⟨page, hread, hpaging⟩
        cases hpaging
        exact Or.inr ⟨hkey, page, hread, rfl, rfl⟩
      · rintro (⟨hkey, -⟩ | ⟨-, page, hread, hpage, hlimit⟩)
        · exact absurd hkey hlimit
        · exact ⟨page, hread, congrArg Except.ok (by rw [← hpage, ← hlimit])⟩
    · rename_i hlimit hpage
      exact ⟨nofun, fun h => (h.elim (fun h => hlimit h.1) fun h => hpage h.1).elim⟩

/-- A limit and a page number are taken in either order, and nothing is left of what was there
before. -/
theorem foldlM_takeOwn {terms : List (String × String)} {limit page : Nat}
    (hterms : terms.Perm [(Parameter.limit, natText limit), (Parameter.page, natText page)])
    (hlimit : limit ≤ maxSigned) (hpage : 1 ≤ page) (hpage' : page ≤ maxSigned) (paging : Paging) :
    terms.foldlM takeOwn paging = .ok ⟨limit, some (page : Int)⟩ := by
  have hread : Parameter.readLimit (Text.intText (limit : Int)) = .ok (limit : Int) :=
    Parameter.readLimit_intText (by rw [noLimit]; omega) (by omega)
  have htakeLimit : ∀ p : Paging, takeOwn p (Parameter.limit, natText limit)
      = .ok { p with limit := (limit : Int) } :=
    fun p => takeOwn_eq_ok_iff.mpr (Or.inl ⟨rfl, hread, rfl⟩)
  have htakePage : ∀ p : Paging, takeOwn p (Parameter.page, natText page)
      = .ok { p with page := some (page : Int) } := fun p => takeOwn_eq_ok_iff.mpr (Or.inr
    ⟨rfl, page, Parameter.readPage_natText hpage hpage', rfl, rfl⟩)
  rcases List.perm_pair.mp hterms with rfl | rfl
  · simp only [List.foldlM_cons, List.foldlM_nil, htakeLimit, Outcome.bind_eq_ok_iff]
    exact ⟨_, rfl, _, htakePage _, rfl⟩
  · simp only [List.foldlM_cons, List.foldlM_nil, htakePage, Outcome.bind_eq_ok_iff]
    exact ⟨_, rfl, _, htakeLimit _, rfl⟩

/-! ### One `paging` parameter -/

/-- A term is taken like a parameter of its own, since it is cut at the sign behind its key. -/
theorem takeTerm_pagingTerm (raw : String) (htake : takeOwn paging parameter = .ok paging') :
    takeTerm raw paging (pagingTerm parameter) = .ok paging' := by
  have hkey : '=' ∉ parameter.1.toList := by
    rcases takeOwn_eq_ok_iff.mp htake with ⟨hkey, -⟩ | ⟨hkey, -⟩
    · rw [hkey]
      decide
    · rw [hkey]
      decide
  have hcut := Text.splitOnce?_append '=' parameter.1.toList parameter.2.toList hkey
  simp only [takeTerm, pagingTerm, hcut, String.ofList_toList]
  rw [takeOwn] at htake
  split
  · rename_i hlimit
    rwa [if_pos hlimit] at htake
  · rename_i hlimit
    rw [if_neg hlimit] at htake
    split
    · rename_i hpage
      rwa [if_pos hpage] at htake
    · rename_i hpage
      rw [if_neg hpage] at htake
      cases htake

/-- Terms of the one parameter for paging are taken like parameters of their own. -/
theorem foldlM_takeTerm (raw : String) {terms : List (String × String)}
    (htake : terms.foldlM takeOwn paging = .ok paging') :
    (terms.map pagingTerm).foldlM (takeTerm raw) paging = .ok paging' := by
  induction terms generalizing paging with
  | nil => exact htake
  | cons term rest ih =>
    rw [List.foldlM_cons, Outcome.bind_eq_ok_iff] at htake
    obtain ⟨next, hterm, hrest⟩ := htake
    rw [List.map_cons, List.foldlM_cons, takeTerm_pagingTerm raw hterm]
    exact ih hrest

/-- A `paging` parameter is taken like parameters of their own. Without terms there is none, and
nothing is taken. -/
theorem take_pagingParameter {terms : List (String × String)}
    (hterms : ∀ term ∈ terms, ',' ∉ pagingTerm term)
    (htake : terms.foldlM takeOwn paging = .ok paging') :
    readOr paging (take paging) (lastValue (pagingParameter terms) Parameter.paging)
      = .ok paging' := by
  cases terms with
  | nil => exact htake
  | cons term rest =>
    have hparts : ∀ part ∈ (term :: rest).map pagingTerm, part ≠ [] ∧ ',' ∉ part := by
      intro part hpart
      obtain ⟨term, hterm, rfl⟩ := List.mem_map.mp hpart
      exact ⟨List.append_ne_nil_of_right_ne_nil _ (List.cons_ne_nil _ _), hterms term hterm⟩
    show take paging (String.ofList ([','].intercalate ((term :: rest).map pagingTerm))) = _
    rw [take, String.toList_ofList, Text.nonemptyPieces_intercalate hparts]
    exact foldlM_takeTerm _ htake

end Paging

/-! ### Reading parameters that ask for a page -/

/-- A value that is given counts unless a later one is. This is what one more parameter does to the
reading of a last value. -/
theorem readOr_or_some {α : Type} {absent earlier final : α}
    {read : String → Except QueryFault α} {raw : String} {later : Option String}
    (hread : read raw = .ok earlier) (hlater : readOr earlier read later = .ok final) :
    readOr absent read (later.or (some raw)) = .ok final := by
  cases later with
  | none => exact hread.trans hlater
  | some value => exact hlater

/-- Taking parameters one after the other comes to the last value of each key, by induction on the
parameters. -/
theorem readOr_lastValue_of_foldlM {parameters : List (String × String)} {paging final : Paging}
    (htake : parameters.foldlM Paging.takeOwn paging = .ok final) :
    readOr paging.limit Parameter.readLimit (lastValue parameters Parameter.limit)
      = .ok final.limit ∧
    readOr paging.page (fun raw => (Parameter.readPage raw).map some)
      (lastValue parameters Parameter.page) = .ok final.page := by
  have hdistinct : Parameter.page ≠ Parameter.limit := by decide
  induction parameters generalizing paging with
  | nil =>
    cases htake
    exact ⟨rfl, rfl⟩
  | cons parameter rest ih =>
    rw [List.foldlM_cons, Outcome.bind_eq_ok_iff] at htake
    obtain ⟨next, hnext, hrest⟩ := htake
    obtain ⟨hlimit, hpage⟩ := ih hrest
    rw [lastValue_cons, lastValue_cons]
    rcases Paging.takeOwn_eq_ok_iff.mp hnext with ⟨hkey, hread, hkept⟩ | ⟨hkey, page, hread, htaken,
      hkept⟩
    · rw [if_pos hkey.symm, if_neg (by rw [hkey]; exact hdistinct), Option.or_none, ← hkept]
      exact ⟨readOr_or_some hread hlimit, hpage⟩
    · rw [if_pos hkey.symm, if_neg (by rw [hkey]; exact hdistinct.symm), Option.or_none, ← hkept]
      have hread' : (Parameter.readPage parameter.2).map some = .ok next.page := by
        rw [hread, htaken]
        rfl
      exact ⟨hlimit, readOr_or_some hread' hpage⟩

section
variable {q : Query} {limit page : Nat} {others parameters : List (String × String)}

/-- The terms that ask for a page contain no comma. -/
theorem comma_not_mem_pagingTerm {term : String × String}
    (hterm : term ∈ [(Parameter.limit, natText limit), (Parameter.page, natText page)]) :
    ',' ∉ pagingTerm term := by
  have hkeys : ',' ∉ Parameter.limit.toList ∧ ',' ∉ Parameter.page.toList := by decide
  have hnumber : ∀ n : Nat, ',' ∉ '=' :: (natText n).toList := by
    intro n hmem
    rw [natText, String.toList_ofList] at hmem
    rcases List.mem_cons.mp hmem with hsep | hdigit
    · exact absurd hsep (by decide)
    · exact absurd (Text.Numeral.isDigit_of_mem_ofNat hdigit) (by decide)
  rw [List.mem_cons, List.mem_singleton] at hterm
  rw [pagingTerm, List.mem_append, not_or]
  rcases hterm with rfl | rfl
  · exact ⟨hkeys.1, hnumber limit⟩
  · exact ⟨hkeys.2, hnumber page⟩

/-- A `paging` parameter has no key but its own. -/
theorem eq_paging_of_mem_pagingParameter {terms : List (String × String)} {key : String}
    (hkey : key ∈ (pagingParameter terms).map Prod.fst) : key = Parameter.paging := by
  cases terms with
  | nil => cases hkey
  | cons term rest => exact List.mem_singleton.mp hkey

/-- No key comes twice among the parameters that ask for a page, wherever its two numbers stand. So
their order does not matter. -/
theorem nodup_append_pagingParameter {apart inside : List (String × String)}
    (hkeys : ((inside ++ apart).map Prod.fst).Perm [Parameter.limit, Parameter.page]) :
    ((apart ++ pagingParameter inside).map Prod.fst).Nodup := by
  have hnodup : ((inside ++ apart).map Prod.fst).Nodup := hkeys.nodup_iff.mpr (by decide)
  rw [List.map_append, List.nodup_append] at hnodup
  rw [List.map_append, List.nodup_append]
  refine ⟨hnodup.2.1, ?_, ?_⟩
  · cases inside with
    | nil => exact List.nodup_nil
    | cons term rest => exact List.nodup_singleton _
  · intro key hapart other hinside hequal
    have hmem : key ∈ [Parameter.limit, Parameter.page] :=
      hkeys.mem_iff.mp (by rw [List.map_append]; exact List.mem_append_right _ hapart)
    rw [hequal, eq_paging_of_mem_pagingParameter hinside] at hmem
    exact absurd hmem (by decide)

/-- In the first generation, parameters that ask for a page give the query of the others, cut to
that page. -/
theorem ofLegacyParameters_asksForPage (hlimit : limit ≤ maxSigned) (hpage : 1 ≤ page)
    (hpage' : page ≤ maxSigned) (hothers : ofLegacyParameters others = .ok q)
    (hasks : AsksForPage .legacy limit page others parameters) :
    ofLegacyParameters parameters
      = .ok (q.paged limit (Parameter.offsetOfPage (some (page : Int)) limit)) := by
  obtain ⟨hrest, apart, inside, hterms, hpages, -⟩ := hasks
  have hkeys : ((inside ++ apart).map Prod.fst).Perm [Parameter.limit, Parameter.page] :=
    hterms.map Prod.fst
  have hnodup := nodup_append_pagingParameter hkeys
  have hother : ∀ key, (!pageKeys.contains key) = true →
      lastValue parameters key = lastValue others key := by
    intro key hkey
    rw [← hrest]
    exact (lastValue_filter (fun key => !pageKeys.contains key) hkey).symm
  have hown : ∀ key, pageKeys.contains key = true → lastValue parameters key
      = (lastValue (pagingParameter inside) key).or (lastValue apart key) := by
    intro key hkey
    rw [← lastValue_append, ← lastValue_perm hpages hnodup]
    exact (lastValue_filter pageKeys.contains hkey).symm
  have hcommas : ∀ term ∈ inside, ',' ∉ pagingTerm term := fun term hterm =>
    comma_not_mem_pagingTerm (hterms.mem_iff.mp (List.mem_append_left _ hterm))
  -- the terms of the `paging` parameter are taken first, and then the parameters of their own
  have htake := Paging.foldlM_takeOwn hterms hlimit hpage hpage' ⟨legacyLimit, none⟩
  rw [List.foldlM_append, Outcome.bind_eq_ok_iff] at htake
  obtain ⟨paging, hinside, hapart⟩ := htake
  obtain ⟨hreadLimit, hreadPage⟩ := readOr_lastValue_of_foldlM hapart
  have hnone : ∀ key, key ≠ Parameter.paging →
      lastValue (pagingParameter inside) key = none := fun key hkey =>
    lastValue_eq_none fun hmem => hkey (eq_paging_of_mem_pagingParameter hmem)
  have habsent : ∀ key, key ∉ [Parameter.limit, Parameter.page] → lastValue apart key = none := by
    intro key hkey
    refine lastValue_eq_none fun hmem => hkey (hkeys.mem_iff.mp ?_)
    rw [List.map_append]
    exact List.mem_append_right _ hmem
  -- three parts are read from the others as before, and the page from its own parameters
  rw [ofLegacyParameters_eq_ok_iff] at hothers ⊢
  obtain ⟨hconditions, horderBy, hreverse, -⟩ := hothers
  rw [hother Parameter.conditions (by decide), hother Parameter.orderBy (by decide),
    hother Parameter.reverse (by decide), hown Parameter.paging (by decide),
    hown Parameter.limit (by decide), hown Parameter.page (by decide),
    hown Parameter.offset (by decide), hnone Parameter.limit (by decide),
    hnone Parameter.page (by decide), hnone Parameter.offset (by decide),
    habsent Parameter.paging (by decide), habsent Parameter.offset (by decide), Option.or_none,
    Option.none_or, Option.none_or, Option.none_or]
  exact ⟨hconditions, horderBy, hreverse, paging, some (page : Int),
    Paging.take_pagingParameter hcommas hinside, hreadLimit, hreadPage, rfl⟩

end

/-! ### The current generation -/

namespace Draft

/-- A query under construction with another limit and another page number. -/
def paged (draft : Draft) (paging : Paging) : Draft :=
  ⟨{ draft.query with limit := paging.limit }, paging.page⟩

variable {draft next : Draft} {paging paging' : Paging} {parameter : String × String}

/-- A parameter that says which page is meant changes nothing else of the draft. -/
theorem take_paged_of_takeOwn (htake : Paging.takeOwn paging parameter = .ok paging') :
    (draft.paged paging).take parameter = .ok (draft.paged paging') := by
  obtain ⟨key, value⟩ := parameter
  rw [take_eq_ok_iff]
  rcases Paging.takeOwn_eq_ok_iff.mp htake with ⟨hkey, hread, hkept⟩ | ⟨hkey, page, hread, htaken,
    hkept⟩
  · obtain rfl : key = Parameter.limit := hkey
    refine ⟨_, .limit (Parameter.readLimit_eq_ok_iff.mp hread), ?_⟩
    rw [paged, paged, hkept]
    rfl
  · obtain rfl : key = Parameter.page := hkey
    refine ⟨_, .page (Parameter.readPage_eq_ok_iff.mp hread), ?_⟩
    rw [paged, paged, hkept, htaken]
    rfl

/-- Any other parameter does not look at limit and page number, and leaves them as they are. -/
theorem take_paged (hkey : pageKeys.contains parameter.1 = false)
    (htake : draft.take parameter = .ok next) :
    (draft.paged paging).take parameter = .ok (next.paged paging) := by
  obtain ⟨wish, hasks, rfl⟩ := take_eq_ok_iff.mp htake
  refine take_eq_ok_iff.mpr ⟨wish, hasks, ?_⟩
  cases hasks with
  | limit =>
    have hnot : pageKeys.contains Parameter.limit = false := hkey
    exact absurd hnot (by decide)
  | page =>
    have hnot : pageKeys.contains Parameter.page = false := hkey
    exact absurd hnot (by decide)
  | sortBy | ascending | filter => rfl

/-- Parameters of both kinds are taken independently of each other: those for the page as if they
stood alone, and the others as if no page were asked for. -/
theorem foldlM_take_paged {parameters : List (String × String)}
    (hothers : (parameters.filter fun parameter => !pageKeys.contains parameter.1).foldlM take draft
      = .ok next)
    (hpages : (parameters.filter fun parameter => pageKeys.contains parameter.1).foldlM
      Paging.takeOwn paging = .ok paging') :
    parameters.foldlM take (draft.paged paging) = .ok (next.paged paging') := by
  induction parameters generalizing draft paging with
  | nil =>
    cases hothers
    cases hpages
    rfl
  | cons parameter rest ih =>
    rw [List.filter_cons] at hothers hpages
    rw [List.foldlM_cons, Outcome.bind_eq_ok_iff]
    cases hkey : pageKeys.contains parameter.1 with
    | true =>
      rw [hkey, if_neg (by decide)] at hothers
      rw [hkey, if_pos rfl, List.foldlM_cons, Outcome.bind_eq_ok_iff] at hpages
      obtain ⟨between, htake, hpages⟩ := hpages
      exact ⟨_, take_paged_of_takeOwn htake, ih hothers hpages⟩
    | false =>
      rw [hkey, if_pos (by decide), List.foldlM_cons, Outcome.bind_eq_ok_iff] at hothers
      rw [hkey, if_neg (by decide)] at hpages
      obtain ⟨between, htake, hothers⟩ := hothers
      exact ⟨_, take_paged hkey htake, ih hothers hpages⟩

end Draft

variable {q : Query} {limit page : Nat} {others parameters : List (String × String)}

/-- In the current generation, parameters that ask for a page give the query of the others, cut to
that page. -/
theorem ofParameters_asksForPage (hlimit : limit ≤ maxSigned) (hpage : 1 ≤ page)
    (hpage' : page ≤ maxSigned) (hothers : ofParameters others = .ok q)
    (hasks : AsksForPage .current limit page others parameters) :
    ofParameters parameters
      = .ok (q.paged limit (Parameter.offsetOfPage (some (page : Int)) limit)) := by
  obtain ⟨hrest, apart, inside, hterms, hpages, hinside⟩ := hasks
  rw [hinside rfl] at hterms hpages
  rw [pagingParameter, List.append_nil] at hpages
  have htake := Paging.foldlM_takeOwn (hpages.trans hterms) hlimit hpage hpage' ⟨noLimit, none⟩
  rw [ofParameters, ← hrest] at hothers
  cases hdraft : (parameters.filter fun parameter => !pageKeys.contains parameter.1).foldlM
      Draft.take Draft.start with
  | error fault =>
    rw [hdraft] at hothers
    cases hothers
  | ok draft =>
    rw [hdraft] at hothers
    cases hothers
    have hstart : Draft.start.paged ⟨noLimit, none⟩ = Draft.start := rfl
    have hall := Draft.foldlM_take_paged hdraft htake
    rw [hstart] at hall
    rw [ofParameters, hall]
    rfl

end Query

/-! ### Walking the pages -/

namespace Generation

open Query (AsksForPage)

variable {generation : Generation} {q : Query} {limit page : Nat}
  {others parameters : List (String × String)}

/-- Parameters that ask for a page give the query of the others, cut to that page. -/
theorem read_asksForPage (hlimit : limit ≤ maxSigned) (hpage : 1 ≤ page) (hpage' : page ≤ maxSigned)
    (hothers : generation.read others = .ok q)
    (hasks : AsksForPage generation limit page others parameters) :
    generation.read parameters
      = .ok (q.paged limit (Parameter.offsetOfPage (some (page : Int)) limit)) := by
  cases generation with
  | legacy => exact Query.ofLegacyParameters_asksForPage hlimit hpage hpage' hothers hasks
  | current => exact Query.ofParameters_asksForPage hlimit hpage hpage' hothers hasks

variable {α : Type} [Queryable α]

/-- The items of the pages from the first up to a number, as a client gets them that asks for one
page after the other. A request that is refused ends the walk. -/
def walk (generation : Generation) (items : List α) (request : Nat → List (String × String)) :
    Nat → Except QueryFault (List α)
  | 0 => .ok []
  | page + 1 => do
    let before ← generation.walk items request page
    let query ← generation.read (request (page + 1))
    return before ++ (query.run items).items

/-- A page of a query is a page of what it selects, and is counted like it. -/
theorem run_asksForPage {items : List α} (hitems : items.length ≤ maxSigned) (hlimit : 1 ≤ limit)
    (hpage : 1 ≤ page) :
    (q.paged limit (Parameter.offsetOfPage (some (page : Int)) limit)).run items
      = ⟨(items.filter q.admits).length,
          Page.between (q.select items) ((page - 1) * limit) (page * limit)⟩ := by
  have hselected : (q.select items).length = (items.filter q.admits).length :=
    List.length_mergeSort _
  have hlength : (q.select items).length ≤ maxSigned := by
    rw [hselected]
    exact Nat.le_trans (List.length_filter_le _ _) hitems
  have hrun : (q.paged limit (Parameter.offsetOfPage (some (page : Int)) limit)).run items
      = Page.cut (q.select items) limit (Parameter.offsetOfPage (some (page : Int)) limit) := rfl
  rw [hrun, Page.cut_eq_between hlimit hpage hlength, hselected]

/-- A walk up to a page gives all items up to its end. The induction is on the number of pages, and
the step puts the next stretch behind the last one. -/
theorem walk_eq {items : List α} {request : Nat → List (String × String)} {count : Nat}
    (hitems : items.length ≤ maxSigned) (hlimit : 1 ≤ limit) (hlimit' : limit ≤ maxSigned)
    (hcount : count ≤ maxSigned) (hothers : generation.read others = .ok q)
    (hrequest : ∀ page, 1 ≤ page → page ≤ count →
      AsksForPage generation limit page others (request page)) :
    generation.walk items request count
      = .ok (Page.between (q.select items) 0 (count * limit)) := by
  induction count with
  | zero => rw [walk, Page.between_eq, Nat.zero_mul, List.take_zero, List.drop_zero]
  | succ page ih =>
    have hbefore := ih (Nat.le_of_succ_le hcount) fun earlier hearlier hle =>
      hrequest earlier hearlier (Nat.le_succ_of_le hle)
    have hasks := hrequest (page + 1) (Nat.le_add_left 1 page) (Nat.le_refl _)
    have hread := read_asksForPage hlimit' (Nat.le_add_left 1 page) hcount hothers hasks
    have hrun := run_asksForPage (q := q) hitems hlimit (Nat.le_add_left 1 page)
    have hjoined := Page.between_append (q.select items)
      (Nat.mul_le_mul_right limit (Nat.le_succ page))
    rw [walk, hbefore, hread]
    show Except.ok (_ ++ (Query.run _ items).items) = _
    rw [hrun, ← hjoined]
    rfl

/-- Walking the pages of a list loses and repeats nothing. Each page holds the items at the indices
that its number stands for, with the count of all that match beside them, and as many pages as it
takes hold the whole list. -/
theorem walk_pages (items : List α) (hitems : items.length ≤ maxSigned) (hlimit : 1 ≤ limit)
    (hlimit' : limit ≤ maxSigned) (hothers : generation.read others = .ok q) :
    (∀ page parameters, 1 ≤ page → page ≤ maxSigned →
      AsksForPage generation limit page others parameters →
      ∃ paged, generation.read parameters = .ok paged ∧
        paged.run items = ⟨(items.filter q.admits).length,
          Page.between (q.select items) ((page - 1) * limit) (page * limit)⟩) ∧
    ∀ request : Nat → List (String × String),
      (∀ page, 1 ≤ page → page ≤ Page.count (items.filter q.admits).length limit →
        AsksForPage generation limit page others (request page)) →
      generation.walk items request (Page.count (items.filter q.admits).length limit)
        = .ok (q.select items) := by
  constructor
  · intro page parameters hpage hpage' hasks
    exact ⟨_, read_asksForPage hlimit' hpage hpage' hothers hasks,
      run_asksForPage hitems hlimit hpage⟩
  · intro request hrequest
    have hselected : (q.select items).length = (items.filter q.admits).length :=
      List.length_mergeSort _
    have hcount : Page.count (items.filter q.admits).length limit ≤ maxSigned :=
      Nat.le_trans (Page.count_le _ hlimit) (Nat.le_trans (List.length_filter_le _ _) hitems)
    have hroom : (q.select items).length
        ≤ Page.count (items.filter q.admits).length limit * limit :=
      hselected ▸ Page.le_count_mul _ hlimit
    rw [walk_eq hitems hlimit hlimit' hcount hothers hrequest, Page.between_of_length_le hroom]

/-- Two pages of two hold all three accounts with an `a`, whether a page is asked for by one
`paging` parameter or by two parameters, and a page at the limits of the words is empty. -/
theorem walk_pages_users :
    let users := [User.active "carol" "", .active "alice" "", .active "bob" "", .active "dave" ""]
    let q := ((Query.everything.withCondition FieldName.name (.fuzzy "a")).orderedBy FieldName.name
      false).paged Query.legacyLimit 0
    let request := fun page : Nat => if page = 1 then
        [("conditions", "name~a"), ("paging", "page=1,limit=2"), ("orderBy", "name")]
      else [("page", "2"), ("conditions", "name~a"), ("limit", "2"), ("orderBy", "name")]
    legacy.walk users request 2 = .ok (q.select users) ∧
    ∃ paged, legacy.read [("limit", "9223372036854775807"), ("conditions", "name~a"),
        ("page", "9223372036854775807"), ("orderBy", "name")] = .ok paged ∧
      paged.run users = ⟨3, []⟩ := by
  intro users q request
  have hothers : legacy.read [("conditions", "name~a"), ("orderBy", "name")] = .ok q := rfl
  have hmatches : (users.filter q.admits).length = 3 := by decide
  have hone : natText 1 = "1" := Text.natText_digit (by decide)
  have htwo : natText 2 = "2" := Text.natText_digit (by decide)
  have hrequest : ∀ page, 1 ≤ page → page ≤ Page.count (users.filter q.admits).length 2 →
      AsksForPage legacy 2 page [("conditions", "name~a"), ("orderBy", "name")] (request page) := by
    intro page hpage hcount
    rw [hmatches] at hcount
    have hpages : page = 1 ∨ page = 2 := by
      have : Page.count 3 2 = 2 := rfl
      omega
    rcases hpages with rfl | rfl
    · refine ⟨rfl, [], [("page", "1"), ("limit", "2")], ?_, by decide, by decide⟩
      rw [hone, htwo]
      decide
    · refine ⟨rfl, [("limit", "2"), ("page", "2")], [], ?_, by decide, fun _ => rfl⟩
      rw [htwo]
      decide
  have hasks : AsksForPage legacy maxSigned maxSigned
      [("conditions", "name~a"), ("orderBy", "name")]
      [("limit", "9223372036854775807"), ("conditions", "name~a"),
        ("page", "9223372036854775807"), ("orderBy", "name")] := by
    refine ⟨rfl, [("limit", "9223372036854775807"), ("page", "9223372036854775807")], [], ?_,
      by decide, fun _ => rfl⟩
    rw [Text.natText_maxSigned]
    decide
  have hwalk := (walk_pages users (by decide) (by decide) (by decide) hothers).2 request hrequest
  obtain ⟨paged, hread, hpage⟩ :=
    (walk_pages users (by decide) (by decide) (by decide) hothers).1 maxSigned _ (by decide)
      (by decide) hasks
  have hempty : Page.between (q.select users) ((maxSigned - 1) * maxSigned) (maxSigned * maxSigned)
      = [] := by
    have hselected : (q.select users).length = 3 := (List.length_mergeSort _).trans hmatches
    rw [Page.between_eq, List.drop_eq_nil_iff, List.length_take, hselected]
    decide
  rw [hmatches] at hwalk
  exact ⟨hwalk, paged, hread, by rw [hpage, hmatches, hempty]⟩

end Generation

end AccessGateway
