import AccessGateway.Proofs.Lists
import AccessGateway.Proofs.Query.Parameter
import AccessGateway.Proofs.Text.Decimal
import Mathlib.Algebra.Ring.Int.Defs

/-!
# `AccessGateway.Proofs.Query.LastSays`: the last parameter under a key decides

Parameters may be given more than once, in any order. `Query.LastSays` says what a list of them
settles about one key: what the last parameter with the key says, or a default where there is none.
What a single value says is a relation of its own (`Parameter.IsLimit` and the others), stated on
the characters of the value and not by the reader.

Both generations of parameters are described by these relations, though they read in different
ways. The current one takes one parameter after the other, so what matters there is what one more
parameter settles. The first one looks each key up from the end, so what matters there is that the
last value of a key is the value of the last parameter with it. In both, a result depends on the
last parameters alone, and the rest, that the order of parameters with different keys does not
matter, is the same for the two.

* `Query.LastSays.append_given`, `Query.LastSays.append_other`: what one more parameter settles.
* `Query.LastSays.unique`: a list settles one result.
* `Query.lastSays_congr`: the result depends on the last parameter with the key.
* `Query.AgreeByKey.isLastBy_iff`: parameters with different keys may change places.
* `Query.readOr_eq_ok_iff`: reading the last value of a key.
-/

set_option autoImplicit false

namespace AccessGateway

open Text.Numeral (IsSigned)

namespace Parameter

/-! ### What a value says -/

/-- A limit is at least -1, which stands for no limit. A limit of zero is one too. -/
def IsLimit (value : String) (limit : Int) : Prop := IsSigned value.toList limit ∧ -1 ≤ limit

/-- Pages are counted from one. A value that says which page is meant always says one. -/
inductive IsPage (value : String) : Option Int → Prop where
  | number {page : Int} (numeral : IsSigned value.toList page) (first : 1 ≤ page) :
      IsPage value (some page)

/-- An offset is a numeral of a signed word, and not negative. -/
def IsOffset (value : String) (offset : Nat) : Prop := IsSigned value.toList offset

/-- A flag is a word or a digit, each in one spelling. -/
inductive IsFlag : String → Bool → Prop where
  | word (flag : Bool) : IsFlag (if flag then "true" else "false") flag
  | digit (flag : Bool) : IsFlag (if flag then "1" else "0") flag

/-- The offset at which a page begins: the number of items on the pages before it, up to the largest
signed word. Without a page, or with no limit, it is zero. -/
inductive IsPageStart : Option Int → Int → Nat → Prop where
  | unpaged (limit : Int) : IsPageStart none limit 0
  | unlimited (page : Int) {limit : Int} (hlimit : limit ≤ 0) : IsPageStart (some page) limit 0
  | behind {page limit : Int} {offset : Nat} (hlimit : 0 < limit)
      (value : (offset : Int) = min ((page - 1) * limit) (2 ^ 63 - 1)) :
      IsPageStart (some page) limit offset

/-- A number is read when the text is a numeral of a signed word that satisfies the condition of its
parameter. The name of the parameter matters only for the refusal. -/
theorem readInt_eq_ok_iff {parameter raw : String} {p : Int → Bool} {n : Int} :
    readInt parameter p raw = .ok n ↔ IsSigned raw.toList n ∧ p n = true := by
  rw [readInt, ← Text.Numeral.readInt_eq_ok_iff]
  cases Text.Numeral.readInt raw.toList with
  | error fault =>
    refine iff_of_false ?_ fun h => ?_
    · rintro ⟨⟩
    · cases h.1
  | ok value =>
    show (if p value = true then _ else _) = _ ↔ _
    rw [Except.ok.injEq]
    split
    · rename_i hp
      rw [Except.ok.injEq]
      exact ⟨fun h => ⟨h, h ▸ hp⟩, And.left⟩
    · rename_i hp
      refine iff_of_false ?_ ?_
      · rintro ⟨⟩
      · rintro ⟨rfl, hn⟩
        exact hp hn

/-- The limit is a number from minus one on, where minus one stands for none. -/
theorem readLimit_eq_ok_iff {raw : String} {limit : Int} :
    readLimit raw = .ok limit ↔ IsLimit raw limit := by
  rw [readLimit, readInt_eq_ok_iff, decide_eq_true_eq]
  exact Iff.rfl

/-- The page is a number from one on, in the numerals of a signed word. -/
theorem readPage_eq_ok_iff {raw : String} {page : Int} :
    readPage raw = .ok page ↔ IsPage raw (some page) := by
  rw [readPage, readInt_eq_ok_iff, decide_eq_true_eq]
  constructor
  · exact fun ⟨numeral, first⟩ => .number numeral first
  · rintro ⟨numeral, first⟩
    exact ⟨numeral, first⟩

/-- A page that is read is always given, so nothing is read as no page. -/
theorem map_readPage_eq_ok_iff {raw : String} {page : Option Int} :
    (readPage raw).map some = .ok page ↔ IsPage raw page := by
  constructor
  · intro h
    cases hnumber : readPage raw with
    | error fault =>
      rw [hnumber] at h
      cases h
    | ok number =>
      rw [hnumber] at h
      cases h
      exact readPage_eq_ok_iff.mp hnumber
  · rintro ⟨numeral, first⟩
    rw [readPage_eq_ok_iff.mpr (.number numeral first)]
    rfl

/-- An offset is a numeral of a signed word that is not below zero. -/
theorem readOffset_eq_ok_iff {raw : String} {offset : Nat} :
    readOffset raw = .ok offset ↔ IsOffset raw offset := by
  rw [readOffset, Outcome.bind_eq_ok_iff]
  constructor
  · rintro ⟨n, hn, hoffset⟩
    split at hoffset
    · cases hoffset
    · rename_i hpos
      cases hoffset
      rw [IsOffset, Int.toNat_of_nonneg (Int.not_lt.mp hpos)]
      exact (readInt_eq_ok_iff.mp hn).1
  · intro h
    refine ⟨offset, readInt_eq_ok_iff.mpr ⟨h, rfl⟩, ?_⟩
    rw [if_neg (by omega), Int.toNat_natCast]

/-- A flag is one of the words for yes and no, and any other word is refused. -/
theorem readFlag_eq_ok_iff {parameter raw : String} {flag : Bool} :
    readFlag parameter raw = .ok flag ↔ IsFlag raw flag := by
  rw [readFlag]
  constructor
  · intro h
    split at h
    · rename_i hraw
      cases h
      rcases hraw with rfl | rfl
      · exact .word true
      · exact .digit true
    · split at h
      · rename_i hraw
        cases h
        rcases hraw with rfl | rfl
        · exact .word false
        · exact .digit false
      · cases h
  · intro h
    cases h with
    | word => cases flag <;> rfl
    | digit => cases flag <;> rfl

/-- A field is read when it is known, and as itself. -/
theorem readField_eq_ok_iff {raw field : String} :
    readField raw = .ok field ↔ field ∈ FieldName.known ∧ field = raw := by
  rw [readField]
  split
  · rename_i hknown
    rw [Except.ok.injEq]
    exact ⟨fun h => ⟨h ▸ hknown, h.symm⟩, fun h => h.2.symm⟩
  · rename_i hknown
    exact ⟨nofun, fun h => absurd (h.2 ▸ h.1) hknown⟩

/-- Pages are counted from one, so the page before the first is never asked for. -/
theorem IsPage.first (value : String) (page : Option Int) (h : IsPage value page) :
    ∀ number, page = some number → 1 ≤ number := by
  rintro number rfl
  cases h with
  | number numeral first => exact first

/-! ### What a value cannot say twice -/

/-- A value is one limit at most, so the limit of a query is a function of its last parameter. -/
theorem IsLimit.unique (value : String) (limit other : Int) (h : IsLimit value limit)
    (hother : IsLimit value other) : limit = other := by
  rw [← readLimit_eq_ok_iff] at h hother
  exact Except.ok.inj (h.symm.trans hother)

/-- A value is one page at most, so which page is meant depends on the text alone. -/
theorem IsPage.unique (value : String) (page other : Option Int) (h : IsPage value page)
    (hother : IsPage value other) : page = other := by
  rw [← map_readPage_eq_ok_iff] at h hother
  exact Except.ok.inj (h.symm.trans hother)

/-- No word is both yes and no. -/
theorem IsFlag.unique (value : String) (flag other : Bool) (h : IsFlag value flag)
    (hother : IsFlag value other) : flag = other := by
  have hflag : readFlag ascending value = .ok flag := readFlag_eq_ok_iff.mpr h
  have hother : readFlag ascending value = .ok other := readFlag_eq_ok_iff.mpr hother
  exact Except.ok.inj (hflag.symm.trans hother)

/-- A page begins in one place, which limit and page settle between them. -/
theorem IsPageStart.unique {page : Option Int} {limit : Int} {offset other : Nat}
    (h : IsPageStart page limit offset) (hother : IsPageStart page limit other) :
    offset = other := by
  cases h <;> cases hother <;> omega

/-- The offset of a page is where it starts. The reader computes it in words, and the relation says
it by a minimum. -/
theorem isPageStart_offsetOfPage {page : Option Int}
    (hpage : ∀ number, page = some number → 1 ≤ number) (limit : Int) :
    IsPageStart page limit (offsetOfPage page limit) := by
  cases page with
  | none => exact .unpaged limit
  | some number =>
    rw [offsetOfPage]
    split
    · rename_i hlimit
      refine .behind hlimit ?_
      have hbefore : 0 ≤ (number - 1) * limit :=
        Int.mul_nonneg (by have := hpage number rfl; omega) (by omega)
      have hbound : (Text.Numeral.maxSigned : Int) = 2 ^ 63 - 1 := by decide
      omega
    · exact .unlimited number (by omega)

end Parameter

namespace Query

/-! ### What parameters settle -/

/-- What the last parameter with a key says, or the default where no parameter has it. A last
parameter that says nothing settles nothing. -/
inductive LastSays {α : Type} (parameters : List (String × String)) (key : String)
    (means : String → α → Prop) (otherwise : α) : α → Prop where
  | given {value : String} {result : α} (last : IsLastBy Prod.fst parameters (key, value))
      (meaning : means value result) : LastSays parameters key means otherwise result
  | missing (none : ∀ parameter ∈ parameters, parameter.1 ≠ key) :
      LastSays parameters key means otherwise otherwise

section
variable {α : Type} {parameters others : List (String × String)} {key : String}
  {means : String → α → Prop} {otherwise result : α}

/-- One more parameter with the key settles what it says, whatever was settled before. -/
theorem LastSays.append_given {value : String} (h : means value result) :
    LastSays (parameters ++ [(key, value)]) key means otherwise result :=
  .given ⟨parameters, [], rfl, nofun⟩ h

/-- One more parameter with another key settles nothing, and leaves settled what was. -/
theorem LastSays.append_other {name value : String} (hkey : name ≠ key)
    (h : LastSays parameters key means otherwise result) :
    LastSays (parameters ++ [(name, value)]) key means otherwise result := by
  have hother : ∀ other ∈ [(name, value)], other.1 ≠ key := by
    intro other hmem
    rwa [List.mem_singleton.mp hmem]
  cases h with
  | given last meaning => exact .given (isLastBy_append.mpr (Or.inr ⟨last, hother⟩)) meaning
  | missing none =>
    refine .missing fun other hmem => ?_
    rcases List.mem_append.mp hmem with hmem | hmem
    · exact none other hmem
    · exact hother other hmem

/-- What every value says, and the default, is what parameters settle. So a bound on values is a
bound on the result. -/
theorem LastSays.of_forall {p : α → Prop} (h : LastSays parameters key means otherwise result)
    (hmeans : ∀ value result, means value result → p result) (hotherwise : p otherwise) :
    p result := by
  cases h with
  | given last meaning => exact hmeans _ _ meaning
  | missing => exact hotherwise

/-- No parameter has a key exactly when none is the last with it. -/
theorem forall_ne_iff_not_isLastBy : (∀ parameter ∈ parameters, parameter.1 ≠ key)
    ↔ ∀ value, ¬ IsLastBy Prod.fst parameters (key, value) := by
  constructor
  · exact fun h value hlast => h _ hlast.mem rfl
  · rintro h parameter hmem rfl
    obtain ⟨⟨name, value⟩, hlast, hkey⟩ := exists_isLastBy_of_mem Prod.fst hmem
    obtain rfl : name = parameter.1 := hkey
    exact h value hlast

/-- When each value says one thing at most, parameters settle one result. -/
theorem LastSays.unique {other : α} (hmeans : ∀ value a b, means value a → means value b → a = b)
    (h : LastSays parameters key means otherwise result)
    (hother : LastSays parameters key means otherwise other) : result = other := by
  cases h with
  | given last meaning =>
    cases hother with
    | given last' meaning' =>
      obtain ⟨-, rfl⟩ := Prod.mk.inj (last.unique last' rfl)
      exact hmeans _ _ _ meaning meaning'
    | missing none => exact absurd rfl (none _ last.mem)
  | missing none =>
    cases hother with
    | given last => exact absurd rfl (none _ last.mem)
    | missing => rfl

/-- What is settled depends on the last parameter with the key, so lists that have the same one
settle the same. -/
theorem lastSays_congr (h : ∀ value, IsLastBy Prod.fst parameters (key, value)
      ↔ IsLastBy Prod.fst others (key, value)) :
    LastSays parameters key means otherwise result
      ↔ LastSays others key means otherwise result := by
  have himp : ∀ {list list' : List (String × String)}, (∀ value,
      IsLastBy Prod.fst list (key, value) ↔ IsLastBy Prod.fst list' (key, value)) →
      LastSays list key means otherwise result → LastSays list' key means otherwise result := by
    intro list list' hlast hmeans
    cases hmeans with
    | given last meaning => exact .given ((hlast _).mp last) meaning
    | missing none =>
      rw [forall_ne_iff_not_isLastBy] at none
      refine .missing (forall_ne_iff_not_isLastBy.mpr fun value last => ?_)
      exact none value ((hlast value).mpr last)
  exact ⟨himp h, himp fun value => (h value).symm⟩

end

/-! ### Parameters in another order -/

/-- The parameters with each key are the same ones in the same order. Where they stand among those
with other keys is not said. -/
def AgreeByKey (parameters others : List (String × String)) : Prop :=
  ∀ key, parameters.filter (fun parameter => decide (parameter.1 = key))
    = others.filter fun parameter => decide (parameter.1 = key)

namespace AgreeByKey

variable {parameters others : List (String × String)} (h : AgreeByKey parameters others)
include h

/-- Lists that agree key by key have the same parameters, perhaps in another order. -/
theorem mem_iff {parameter : String × String} : parameter ∈ parameters ↔ parameter ∈ others := by
  have hfilter : ∀ list : List (String × String), parameter ∈ list
      ↔ parameter ∈ list.filter fun other => decide (other.1 = parameter.1) := by
    intro list
    rw [List.mem_filter, decide_eq_true rfl, and_iff_left rfl]
  rw [hfilter, h, ← hfilter]

/-- They have the same last ones, as only the order of different keys may differ. -/
theorem isLastBy_iff (parameter : String × String) :
    IsLastBy Prod.fst parameters parameter ↔ IsLastBy Prod.fst others parameter := by
  rw [← isLastBy_filter, h, isLastBy_filter]

end AgreeByKey

/-- Only the keys that occur need to be looked at, which makes two given lists easy to compare. -/
theorem agreeByKey_of_forall_mem {parameters others : List (String × String)}
    (h : ∀ key ∈ (parameters ++ others).map Prod.fst,
      parameters.filter (fun parameter => decide (parameter.1 = key))
        = others.filter fun parameter => decide (parameter.1 = key)) :
    AgreeByKey parameters others := by
  intro key
  by_cases hkey : key ∈ (parameters ++ others).map Prod.fst
  · exact h key hkey
  · have hnone : ∀ list : List (String × String), list ⊆ parameters ++ others →
        list.filter (fun parameter => decide (parameter.1 = key)) = [] := by
      intro list hlist
      refine List.filter_eq_nil_iff.mpr fun parameter hmem hsame => hkey ?_
      exact List.mem_map.mpr ⟨parameter, hlist hmem, of_decide_eq_true hsame⟩
    rw [hnone parameters (List.subset_append_left _ _), hnone others (List.subset_append_right _ _)]

/-! ### Reading the last value -/

section
variable {parameters others : List (String × String)} {key : String}

/-- The last value of a key as a search from the end of the list. -/
theorem lastValue_eq_find? : lastValue parameters key
    = (parameters.reverse.find? fun parameter => decide (parameter.1 = key)).map Prod.snd := by
  rw [lastValue]
  induction parameters.reverse with
  | nil => rfl
  | cons parameter rest ih =>
    obtain ⟨name, value⟩ := parameter
    rw [List.lookup_cons, List.find?_cons]
    by_cases hkey : key = name
    · subst hkey
      simp
    · have hname : ¬ name = key := fun h => hkey h.symm
      simpa [beq_false_of_ne hkey, hname] using ih

/-- The last value of a key is the value of the last parameter with it, as both generations mean
it. -/
theorem lastValue_eq_some_iff_isLastBy {value : String} :
    lastValue parameters key = some value ↔ IsLastBy Prod.fst parameters (key, value) := by
  rw [lastValue_eq_find?, isLastBy_iff_find?_self, Option.map_eq_some_iff]
  constructor
  · rintro ⟨⟨name, value⟩, hfind, rfl⟩
    have hkey : name = key := by simpa using List.find?_some hfind
    subst hkey
    exact hfind
  · exact fun hfind => ⟨_, hfind, rfl⟩

/-- Reading the last value of a key, or taking the default, comes to what the parameters settle
about the key, if the reader reads what values say. -/
theorem readOr_eq_ok_iff {α : Type} {read : String → Except QueryFault α}
    {means : String → α → Prop}
    (hread : ∀ value result, read value = .ok result ↔ means value result)
    {otherwise result : α} : readOr otherwise read (lastValue parameters key) = .ok result
      ↔ LastSays parameters key means otherwise result := by
  cases hlast : lastValue parameters key with
  | some value =>
    have last := lastValue_eq_some_iff_isLastBy.mp hlast
    refine (hread value result).trans ⟨.given last, fun h => ?_⟩
    cases h with
    | given last' meaning =>
      obtain ⟨-, rfl⟩ := Prod.mk.inj (last.unique last' rfl)
      exact meaning
    | missing none => exact absurd rfl (none _ last.mem)
  | none =>
    have none : ∀ value, ¬ IsLastBy Prod.fst parameters (key, value) := by
      intro value last
      rw [lastValue_eq_some_iff_isLastBy.mpr last] at hlast
      cases hlast
    rw [readOr, Except.ok.injEq]
    constructor
    · rintro rfl
      exact .missing (forall_ne_iff_not_isLastBy.mpr none)
    · intro h
      cases h with
      | given last => exact absurd last (none _)
      | missing => rfl

end

end Query

end AccessGateway
