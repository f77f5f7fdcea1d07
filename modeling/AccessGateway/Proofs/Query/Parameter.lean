import AccessGateway.Proofs.Fault
import AccessGateway.Proofs.Text.Numeral
import AccessGateway.Query.Legacy

/-!
# `AccessGateway.Proofs.Query.Parameter`: what list parameters are read as

A value that was written is read back. In the first generation every parameter counts with its last
value, so of the parameters of a list only those under the key that is asked for matter, and among
parameters with different keys their order does not.

`Query.ofLegacyParameters_eq_ok_iff` takes the reading of a whole list apart, once, into one
equation for each part of the query. What is shown of the first generation elsewhere starts from
these equations, together with the rules for last values, and does not look into the reading again.

* `Parameter.readLimit_intText`, `readPage_natText`, `readOffset_natText`: values that were written.
* `Query.lastValue_filter`, `Query.lastValue_perm`: other parameters and the order do not matter.
* `Query.ofLegacyParameters_eq_ok_iff`: the parts of a query of the first generation.
-/

set_option autoImplicit false

namespace AccessGateway

open Text (natText intText)
open Text.Numeral (maxSigned)

namespace Parameter

/-! ### Values that were written -/

/-- A signed number that was written is read back, if it satisfies the condition. It has to be a
signed word. -/
theorem readInt_intText {n : Int} {p : Int → Bool} (parameter : String)
    (hlower : -(maxSigned + 1 : Nat) ≤ n) (hupper : n ≤ maxSigned) (hp : p n = true) :
    readInt parameter p (intText n) = .ok n := by
  have hread : Text.Numeral.readInt (intText n).toList = .ok n := by
    rw [intText, String.toList_ofList]
    exact Text.Numeral.readInt_ofInt hlower hupper
  simp only [readInt, hread, hp, if_true]

/-- A limit that was written is read back, and so is the one that stands for no limit. -/
theorem readLimit_intText {limit : Int} (hlower : Query.noLimit ≤ limit)
    (hupper : limit ≤ maxSigned) : readLimit (intText limit) = .ok limit := by
  have hword : -(maxSigned + 1 : Nat) ≤ limit := Int.le_trans (by decide) hlower
  exact readInt_intText _ hword hupper (decide_eq_true hlower)

/-- So is the number of a page. -/
theorem readPage_natText {page : Nat} (hpage : 1 ≤ page) (hupper : page ≤ maxSigned) :
    readPage (natText page) = .ok (page : Int) :=
  readInt_intText (n := (page : Int)) _ (by omega) (by omega) (decide_eq_true (by omega))

/-- So is an offset. -/
theorem readOffset_natText {offset : Nat} (hupper : offset ≤ maxSigned) :
    readOffset (natText offset) = .ok offset := by
  have hread : readInt Parameter.offset (fun _ => true) (natText offset) = .ok (offset : Int) :=
    readInt_intText (n := (offset : Int)) _ (by omega) (by omega) rfl
  rw [readOffset, Outcome.bind_eq_ok_iff]
  refine ⟨(offset : Int), hread, ?_⟩
  rw [if_neg (by omega), Int.toNat_natCast]

/-- The offset of a page is exact up to the largest signed word, and stays there from then on. -/
theorem offsetOfPage_eq {page limit : Nat} (hpage : 1 ≤ page) (hlimit : 1 ≤ limit) :
    offsetOfPage (some (page : Int)) limit = min ((page - 1) * limit) maxSigned := by
  have hbefore : ((page : Int) - 1) * limit = ((page - 1) * limit : Nat) := by
    rw [Int.natCast_mul, Int.natCast_sub hpage]
    rfl
  rw [offsetOfPage, if_pos (by omega), hbefore, Int.toNat_natCast]

end Parameter

namespace Query

variable {parameters others : List (String × String)} {key : String}

/-! ### Last values -/

/-- A parameter counts unless a later one has its key. It is the last one that is found by a search
from the end. -/
theorem lastValue_cons (parameter : String × String) (parameters : List (String × String))
    (key : String) : lastValue (parameter :: parameters) key
      = (lastValue parameters key).or (if key = parameter.1 then some parameter.2 else none) := by
  obtain ⟨name, value⟩ := parameter
  rw [lastValue, List.reverse_cons, List.lookup_append, lastValue, List.lookup_cons,
    List.lookup_nil]
  by_cases hkey : key = name
  · simp [hkey]
  · have hdiffers : (key == name) = false := beq_eq_false_iff_ne.mpr hkey
    simp [hkey, hdiffers]

/-- A parameter counts unless a later list has its key. -/
theorem lastValue_append (earlier later : List (String × String)) (key : String) :
    lastValue (earlier ++ later) key = (lastValue later key).or (lastValue earlier key) := by
  rw [lastValue, List.reverse_append, List.lookup_append]
  rfl

/-- Parameters under other keys do not matter: they may be taken out, all or some of them. -/
theorem lastValue_filter (keep : String → Bool) (hkeep : keep key = true) :
    lastValue (parameters.filter fun parameter => keep parameter.1) key
      = lastValue parameters key := by
  induction parameters with
  | nil => rfl
  | cons parameter rest ih =>
    rw [List.filter_cons, lastValue_cons]
    split
    · rw [lastValue_cons, ih]
    · rename_i hdropped
      have hkey : key ≠ parameter.1 := fun h => hdropped (h ▸ hkeep)
      rw [if_neg hkey, Option.or_none, ih]

/-- A key that no parameter has is without a value. -/
theorem lastValue_eq_none (hkey : key ∉ parameters.map Prod.fst) :
    lastValue parameters key = none := by
  induction parameters with
  | nil => rfl
  | cons parameter rest ih =>
    rw [List.map_cons, List.mem_cons, not_or] at hkey
    rw [lastValue_cons, ih hkey.2, if_neg hkey.1, Option.none_or]

/-- Where no key comes twice, each parameter counts, wherever it stands. -/
theorem lastValue_eq_some_iff {value : String} (hnodup : (parameters.map Prod.fst).Nodup) :
    lastValue parameters key = some value ↔ (key, value) ∈ parameters := by
  induction parameters with
  | nil => exact ⟨nofun, nofun⟩
  | cons parameter rest ih =>
    obtain ⟨name, text⟩ := parameter
    rw [List.map_cons, List.nodup_cons] at hnodup
    rw [lastValue_cons, List.mem_cons, Prod.mk.injEq, ← ih hnodup.2]
    by_cases hkey : key = name
    · subst hkey
      simp [lastValue_eq_none hnodup.1, eq_comm]
    · simp [hkey]

/-- Where no key comes twice, the order does not matter. With a key that comes twice it does. -/
theorem lastValue_perm (hperm : parameters.Perm others)
    (hnodup : (others.map Prod.fst).Nodup) (key : String) :
    lastValue parameters key = lastValue others key := by
  have hnodup' : (parameters.map Prod.fst).Nodup := (hperm.map Prod.fst).nodup_iff.mpr hnodup
  ext value
  rw [lastValue_eq_some_iff hnodup', lastValue_eq_some_iff hnodup]
  exact hperm.mem_iff

/-! ### The parts of a query -/

/-- What parameters of the first generation ask for, part by part. Limit and page of the one
`paging` parameter are the defaults for those that are given by themselves, and the offset of their
page is the default for the one that is given. -/
theorem ofLegacyParameters_eq_ok_iff {q : Query} : ofLegacyParameters parameters = .ok q ↔
    readOr ∅ readConditions (lastValue parameters Parameter.conditions) = .ok q.conditions ∧
    readOr FieldName.createTime Parameter.readField (lastValue parameters Parameter.orderBy)
      = .ok q.orderBy ∧
    readOr false (Parameter.readFlag Parameter.reverse) (lastValue parameters Parameter.reverse)
      = .ok q.reverse ∧
    ∃ paging page,
      readOr ⟨legacyLimit, none⟩ (Paging.take ⟨legacyLimit, none⟩)
        (lastValue parameters Parameter.paging) = .ok paging ∧
      readOr paging.limit Parameter.readLimit (lastValue parameters Parameter.limit)
        = .ok q.limit ∧
      readOr paging.page (fun raw => (Parameter.readPage raw).map some)
        (lastValue parameters Parameter.page) = .ok page ∧
      readOr (Parameter.offsetOfPage page q.limit) Parameter.readOffset
        (lastValue parameters Parameter.offset) = .ok q.offset := by
  simp only [ofLegacyParameters, Outcome.bind_eq_ok_iff]
  constructor
  · rintro ⟨conditions, hconditions, orderBy, horderBy, reverse, hreverse, paging, hpaging, limit,
      hlimit, page, hpage, offset, hoffset, hquery⟩
    cases hquery
    exact ⟨hconditions, horderBy, hreverse, paging, page, hpaging, hlimit, hpage, hoffset⟩
  · rintro ⟨hconditions, horderBy, hreverse, paging, page, hpaging, hlimit, hpage, hoffset⟩
    exact ⟨_, hconditions, _, horderBy, _, hreverse, paging, hpaging, _, hlimit, page, hpage, _,
      hoffset, rfl⟩

end Query

end AccessGateway
