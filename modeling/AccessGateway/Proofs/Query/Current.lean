import AccessGateway.Proofs.Query.LastSays
import AccessGateway.Query.Current

/-!
# `AccessGateway.Proofs.Query.Current`: parameters of the current generation in any order

Parameters are taken from left to right. The first one that is no good ends the reading, and a later
one overwrites what an earlier one with its key has set. Neither can be noticed from the query:
parameters are read exactly when each of them is acceptable by itself, and `Query.AsksFor` says what
they ask for key by key, the offset included, which is worked out when all of them have been taken.

One parameter by itself asks for something or for nothing (`Query.Asks`), and to take it is to put
that into the draft (`Query.Draft.grant`), whatever the draft is. That is the one place where the
branches of the reader are looked at. The invariant of the reading is `Query.Draft.Follows`: after
some parameters the draft holds what the last of them ask for. It holds at the start, every
parameter that is taken keeps it, and so it holds at the end.

* `Query.Draft.take_eq_ok_iff`: what taking one parameter does.
* `Query.Draft.follows_foldlM`: what a draft holds after some parameters.
* `Query.ofParameters_eq_ok_iff`: which parameters are read, and as which query.
* `Query.ofParameters_lastValues`: the same claim by claim, and that parameters with different keys
  may change places.
-/

set_option autoImplicit false

namespace AccessGateway.Query

open Parameter (IsLimit IsPage IsFlag IsPageStart)

/-! ### What parameters ask for -/

/-- What one parameter can ask for: at most so many items, a page of them, a field to sort by, a
direction, or a value that a field has to have. -/
inductive Wish where
  | limit (limit : Int)
  | page (page : Option Int)
  | sortBy (field : String)
  | ascending (flag : Bool)
  | filter (field value : String)

/-- A parameter asks for something by itself, whatever stands in front of it or behind. Keys other
than the first four are names of fields, which have to be known ones. -/
inductive Asks : String × String → Wish → Prop where
  | limit {value : String} {limit : Int} (number : IsLimit value limit) :
      Asks (Parameter.limit, value) (.limit limit)
  | page {value : String} {page : Option Int} (number : IsPage value page) :
      Asks (Parameter.page, value) (.page page)
  | sortBy {field : String} (known : field ∈ FieldName.known) :
      Asks (Parameter.sortBy, field) (.sortBy field)
  | ascending {value : String} {flag : Bool} (word : IsFlag value flag) :
      Asks (Parameter.ascending, value) (.ascending flag)
  | filter {field : String} (known : field ∈ FieldName.known) (value : String) :
      Asks (field, value) (.filter field value)

/-- A parameter that is acceptable by itself: a limit, a page number, a field to sort by, a
direction, or a filter on a field. -/
def IsAcceptable (parameter : String × String) : Prop := ∃ wish, Asks parameter wish

/-- A filter on the name asks for a part of it, and any other for the whole value. -/
inductive IsFilter (field value : String) : Option Condition → Prop where
  | name (hname : field = FieldName.name) : IsFilter field value (some (.fuzzy value))
  | other (hname : field ≠ FieldName.name) : IsFilter field value (some (.exact value))

/-- The parts of a query apart from its offset are what the last parameters with their keys say.
Without any parameter everything is asked for, the newest first. -/
structure HasParts (parameters : List (String × String)) (q : Query) : Prop where
  filter : ∀ field ∈ FieldName.known,
    LastSays parameters field (IsFilter field) none q.conditions[field]?
  unknown : ∀ field, field ∉ FieldName.known → q.conditions[field]? = none
  orderBy : LastSays parameters Parameter.sortBy Eq FieldName.creationTimestamp q.orderBy
  reverse : LastSays parameters Parameter.ascending (fun value reverse => IsFlag value (!reverse))
    true q.reverse
  limit : LastSays parameters Parameter.limit IsLimit (-1) q.limit

/-- What parameters ask for. The offset is where the last page begins under the last limit. -/
structure AsksFor (parameters : List (String × String)) (q : Query) : Prop
    extends HasParts parameters q where
  offset : ∃ page, LastSays parameters Parameter.page IsPage none page ∧
    IsPageStart page q.limit q.offset

/-! ### One parameter -/

namespace Draft

/-- The draft with what one parameter asks for. -/
def grant (draft : Draft) : Wish → Draft
  | .limit limit => { draft with query := { draft.query with limit } }
  | .page page => { draft with page }
  | .sortBy field => { draft with query := { draft.query with orderBy := field } }
  | .ascending flag => { draft with query := { draft.query with reverse := !flag } }
  | .filter field value =>
    { draft with query := draft.query.withCondition field (filterCondition field value) }

variable {draft next : Draft} {parameter : String × String}

/-- No key of the other parameters is a field name, so a filter is never taken for one of them. -/
theorem ne_of_mem_known {field : String} (known : field ∈ FieldName.known) :
    field ≠ Parameter.limit ∧ field ≠ Parameter.page ∧ field ≠ Parameter.sortBy ∧
      field ≠ Parameter.ascending := by
  have hall : ∀ field ∈ FieldName.known, field ≠ Parameter.limit ∧ field ≠ Parameter.page ∧
      field ≠ Parameter.sortBy ∧ field ≠ Parameter.ascending := by decide
  exact hall field known

/-- A parameter is taken when it asks for something, and that is put into the draft. The cases are
those of the reader in one direction and those of what is asked for in the other. -/
theorem take_eq_ok_iff :
    draft.take parameter = .ok next ↔ ∃ wish, Asks parameter wish ∧ next = draft.grant wish := by
  obtain ⟨key, value⟩ := parameter
  constructor
  · -- one branch of the reader for each key that is no field, and the last one for the fields
    intro h
    rw [take] at h
    split at h
    · rename_i hkey
      obtain ⟨limit, hlimit, hnext⟩ := Outcome.bind_eq_ok_iff.mp h
      cases hkey
      cases hnext
      exact ⟨_, .limit (Parameter.readLimit_eq_ok_iff.mp hlimit), rfl⟩
    split at h
    · rename_i hkey
      obtain ⟨page, hpage, hnext⟩ := Outcome.bind_eq_ok_iff.mp h
      cases hkey
      cases hnext
      exact ⟨_, .page (Parameter.readPage_eq_ok_iff.mp hpage), rfl⟩
    split at h
    · rename_i hkey
      obtain ⟨field, hfield, hnext⟩ := Outcome.bind_eq_ok_iff.mp h
      obtain ⟨known, rfl⟩ := Parameter.readField_eq_ok_iff.mp hfield
      cases hkey
      cases hnext
      exact ⟨_, .sortBy known, rfl⟩
    split at h
    · rename_i hkey
      obtain ⟨flag, hflag, hnext⟩ := Outcome.bind_eq_ok_iff.mp h
      cases hkey
      cases hnext
      exact ⟨_, .ascending (Parameter.readFlag_eq_ok_iff.mp hflag), rfl⟩
    · obtain ⟨field, hfield, hnext⟩ := Outcome.bind_eq_ok_iff.mp h
      obtain ⟨known, rfl⟩ := Parameter.readField_eq_ok_iff.mp hfield
      cases hnext
      exact ⟨_, .filter known value, rfl⟩
  · rintro ⟨wish, hasks, rfl⟩
    cases hasks with
    | limit number =>
      rw [take, if_pos rfl, Parameter.readLimit_eq_ok_iff.mpr number]
      rfl
    | page number =>
      obtain ⟨numeral, first⟩ := number
      rw [take, if_neg (by decide), if_pos rfl,
        Parameter.readPage_eq_ok_iff.mpr (.number numeral first)]
      rfl
    | sortBy known =>
      rw [take, if_neg (by decide), if_neg (by decide), if_pos rfl,
        Parameter.readField_eq_ok_iff.mpr ⟨known, rfl⟩]
      rfl
    | ascending word =>
      rw [take, if_neg (by decide), if_neg (by decide), if_neg (by decide), if_pos rfl,
        Parameter.readFlag_eq_ok_iff.mpr word]
      rfl
    | filter known =>
      obtain ⟨hlimit, hpage, hsortBy, hascending⟩ := ne_of_mem_known known
      rw [take, if_neg hlimit, if_neg hpage, if_neg hsortBy, if_neg hascending,
        Parameter.readField_eq_ok_iff.mpr ⟨known, rfl⟩]
      rfl

/-- Which parameters can be taken does not depend on the draft, and so not on the parameters
before. -/
theorem exists_take_eq_ok (h : IsAcceptable parameter) (draft : Draft) :
    ∃ next, draft.take parameter = .ok next := by
  obtain ⟨wish, hasks⟩ := h
  exact ⟨draft.grant wish, take_eq_ok_iff.mpr ⟨wish, hasks, rfl⟩⟩

/-! ### All parameters -/

/-- The draft holds what the parameters that were taken ask for. -/
structure Follows (taken : List (String × String)) (draft : Draft) : Prop where
  acceptable : ∀ parameter ∈ taken, IsAcceptable parameter
  parts : HasParts taken draft.query
  page : LastSays taken Parameter.page IsPage none draft.page

/-- Before any parameter the draft holds what is asked for without one. -/
theorem follows_start : Follows [] start where
  acceptable := nofun
  parts := {
    filter := fun _ _ => .missing nofun
    unknown := fun _ _ => Std.ExtTreeMap.getElem?_empty
    orderBy := .missing nofun
    reverse := .missing nofun
    limit := .missing nofun }
  page := .missing nofun

/-- A filter is put into the draft as what it asks for. -/
theorem isFilter_filterCondition (field value : String) :
    IsFilter field value (some (filterCondition field value)) := by
  rw [filterCondition]
  split
  · rename_i hname
    exact .name hname
  · rename_i hname
    exact .other hname

/-- A parameter settles its own part, and leaves the others as they were, since it has its own key
and none of theirs. -/
theorem Follows.grant {taken : List (String × String)} {wish : Wish} (h : Follows taken draft)
    (hasks : Asks parameter wish) : Follows (taken ++ [parameter]) (draft.grant wish) := by
  have hacceptable : ∀ other ∈ taken ++ [parameter], IsAcceptable other := by
    intro other hother
    rcases List.mem_append.mp hother with hother | hother
    · exact h.acceptable other hother
    · rw [List.mem_singleton.mp hother]
      exact ⟨wish, hasks⟩
  obtain ⟨-, ⟨hfilter, hunknown, horderBy, hreverse, hlimit⟩, hpage⟩ := h
  -- a parameter that is no filter leaves all filters as they were
  have hfilters : ∀ {key value : String}, key ∉ FieldName.known → ∀ field ∈ FieldName.known,
      LastSays (taken ++ [(key, value)]) field (IsFilter field) none
        draft.query.conditions[field]? :=
    fun hkey field known => (hfilter field known).append_other fun h => hkey (h ▸ known)
  cases hasks with
  | limit number =>
    exact ⟨hacceptable, ⟨hfilters (by decide), hunknown, horderBy.append_other (by decide),
      hreverse.append_other (by decide), .append_given number⟩, hpage.append_other (by decide)⟩
  | page number =>
    exact ⟨hacceptable, ⟨hfilters (by decide), hunknown, horderBy.append_other (by decide),
      hreverse.append_other (by decide), hlimit.append_other (by decide)⟩, .append_given number⟩
  | sortBy known =>
    exact ⟨hacceptable, ⟨hfilters (by decide), hunknown, .append_given rfl,
      hreverse.append_other (by decide), hlimit.append_other (by decide)⟩,
      hpage.append_other (by decide)⟩
  | @ascending value flag word =>
    have hflag : IsFlag value (!(!flag)) := by rwa [Bool.not_not]
    exact ⟨hacceptable, ⟨hfilters (by decide), hunknown, horderBy.append_other (by decide),
      .append_given hflag, hlimit.append_other (by decide)⟩, hpage.append_other (by decide)⟩
  | @filter name known value =>
    obtain ⟨hneLimit, hnePage, hneSortBy, hneAscending⟩ := ne_of_mem_known known
    have hown : (draft.grant (.filter name value)).query.conditions[name]?
        = some (filterCondition name value) := Std.ExtTreeMap.getElem?_insert_self
    have hothers : ∀ other, other ≠ name →
        (draft.grant (.filter name value)).query.conditions[other]?
          = draft.query.conditions[other]? := by
      intro other hother
      rw [grant, withCondition, Std.ExtTreeMap.getElem?_insert, if_neg]
      exact fun hequal => hother (Std.compare_eq_iff_eq.mp hequal).symm
    refine ⟨hacceptable, ⟨fun field hfield => ?_, fun field hfield => ?_,
      horderBy.append_other hneSortBy, hreverse.append_other hneAscending,
      hlimit.append_other hneLimit⟩, hpage.append_other hnePage⟩
    · by_cases hequal : field = name
      · subst hequal
        rw [hown]
        exact .append_given (isFilter_filterCondition field value)
      · rw [hothers field hequal]
        exact (hfilter field hfield).append_other (Ne.symm hequal)
    · -- a field that is not known is not the one that is filtered by
      rw [hothers field fun hequal => hfield (hequal ▸ known)]
      exact hunknown field hfield

/-- After all parameters, the draft holds what they ask for, by induction on how many were taken. -/
theorem follows_foldlM {parameters : List (String × String)}
    (h : parameters.foldlM take start = .ok draft) : Follows parameters draft := by
  refine Outcome.foldlM_induction follows_start (fun _ _ _ _ hfollows hstep => ?_) h
  obtain ⟨wish, hasks, rfl⟩ := take_eq_ok_iff.mp hstep
  exact hfollows.grant hasks

end Draft

/-! ### The query -/

variable {parameters others : List (String × String)} {q other : Query}

/-- Parameters ask for one query: each of its parts is settled, the conditions field by field. -/
theorem AsksFor.unique (h : AsksFor parameters q) (hother : AsksFor parameters other) :
    q = other := by
  have hconditions : q.conditions = other.conditions := by
    refine Std.ExtTreeMap.ext_getElem? fun field => ?_
    by_cases hfield : field ∈ FieldName.known
    · refine (h.filter field hfield).unique (fun value a b ha hb => ?_) (hother.filter field hfield)
      cases ha <;> cases hb <;> first | rfl | contradiction
    · rw [h.unknown field hfield, hother.unknown field hfield]
  have horderBy : q.orderBy = other.orderBy :=
    h.orderBy.unique (fun _ _ _ ha hb => ha.symm.trans hb) hother.orderBy
  have hreverse : q.reverse = other.reverse := by
    refine h.reverse.unique (fun value a b ha hb => ?_) hother.reverse
    exact Bool.not_inj (IsFlag.unique value _ _ ha hb)
  have hlimit : q.limit = other.limit := h.limit.unique IsLimit.unique hother.limit
  have hoffset : q.offset = other.offset := by
    obtain ⟨page, hpage, hstart⟩ := h.offset
    obtain ⟨page', hpage', hstart'⟩ := hother.offset
    obtain rfl := hpage.unique IsPage.unique hpage'
    rw [hlimit] at hstart
    exact hstart.unique hstart'
  cases q
  cases other
  rw [Query.mk.injEq]
  exact ⟨hconditions, horderBy, hreverse, hlimit, hoffset⟩

/-- Parameters that are read are acceptable, and are read as the query that they ask for. -/
theorem asksFor_of_ofParameters (h : ofParameters parameters = .ok q) :
    (∀ parameter ∈ parameters, IsAcceptable parameter) ∧ AsksFor parameters q := by
  cases hdraft : parameters.foldlM Draft.take Draft.start with
  | error fault =>
    rw [ofParameters, hdraft] at h
    cases h
  | ok draft =>
    rw [ofParameters, hdraft] at h
    cases h
    obtain ⟨hacceptable, hparts, hpage⟩ := Draft.follows_foldlM hdraft
    have hfirst : ∀ number, draft.page = some number → 1 ≤ number :=
      hpage.of_forall IsPage.first nofun
    exact ⟨hacceptable, { hparts with
      offset := ⟨draft.page, hpage, Parameter.isPageStart_offsetOfPage hfirst _⟩ }⟩

/-- Acceptable parameters are read, in whatever order they stand, since none of them can be refused
for what stands in front of it. -/
theorem exists_ofParameters_eq_ok
    (hacceptable : ∀ parameter ∈ parameters, IsAcceptable parameter) :
    ∃ q, ofParameters parameters = .ok q := by
  obtain ⟨draft, hdraft⟩ := Outcome.exists_foldlM_eq_ok
    (fun parameter hmem => Draft.exists_take_eq_ok (hacceptable parameter hmem)) Draft.start
  refine ⟨draft.finish, ?_⟩
  rw [ofParameters, hdraft]
  rfl

/-- Which parameters are read, and as which query. -/
theorem ofParameters_eq_ok_iff : ofParameters parameters = .ok q
    ↔ (∀ parameter ∈ parameters, IsAcceptable parameter) ∧ AsksFor parameters q := by
  refine ⟨asksFor_of_ofParameters, fun ⟨hacceptable, hasks⟩ => ?_⟩
  obtain ⟨read, hread⟩ := exists_ofParameters_eq_ok hacceptable
  rw [hread, (asksFor_of_ofParameters hread).2.unique hasks]

/-- What is asked for depends on the last parameters with each key, and on nothing else of the
list. -/
theorem AsksFor.congr (h : ∀ parameter : String × String,
      IsLastBy Prod.fst parameters parameter ↔ IsLastBy Prod.fst others parameter)
    (hasks : AsksFor parameters q) : AsksFor others q where
  filter field known := (lastSays_congr fun _ => h _).mp (hasks.filter field known)
  unknown := hasks.unknown
  orderBy := (lastSays_congr fun _ => h _).mp hasks.orderBy
  reverse := (lastSays_congr fun _ => h _).mp hasks.reverse
  limit := (lastSays_congr fun _ => h _).mp hasks.limit
  offset := by
    obtain ⟨page, hpage, hstart⟩ := hasks.offset
    exact ⟨page, (lastSays_congr fun _ => h _).mp hpage, hstart⟩

/-- Parameters are read exactly when each of them is acceptable by itself. They are read as the
query that the last ones with each key ask for, and the same query is read when parameters with
different keys change places. -/
theorem ofParameters_lastValues (parameters : List (String × String)) :
    ((∃ q, ofParameters parameters = .ok q)
      ↔ ∀ parameter ∈ parameters, IsAcceptable parameter) ∧
    (∀ q, ofParameters parameters = .ok q → AsksFor parameters q) ∧
    ∀ others, AgreeByKey parameters others → ∀ q,
      ofParameters others = .ok q ↔ ofParameters parameters = .ok q := by
  have hagree : ∀ {list others : List (String × String)} {q : Query}, AgreeByKey list others →
      ofParameters list = .ok q → ofParameters others = .ok q := by
    intro list others q h hread
    obtain ⟨hacceptable, hasks⟩ := asksFor_of_ofParameters hread
    exact ofParameters_eq_ok_iff.mpr
      ⟨fun parameter hmem => hacceptable parameter (h.mem_iff.mpr hmem), hasks.congr h.isLastBy_iff⟩
  refine ⟨⟨?_, exists_ofParameters_eq_ok⟩, fun q hread => (asksFor_of_ofParameters hread).2,
    fun others h q => ⟨hagree fun key => (h key).symm, hagree h⟩⟩
  rintro ⟨q, hread⟩
  exact (asksFor_of_ofParameters hread).1

/-- The page is given in front of the limit or behind it, and the second of two filters on the name
counts. -/
theorem ofParameters_lastValues_pageFirst :
    let parameters := [("limit", "5"), ("name", "a"), ("page", "+3"), ("name", "b"),
      ("ascending", "1")]
    let others := [("page", "+3"), ("ascending", "1"), ("name", "a"), ("limit", "5"), ("name", "b")]
    let q := ((everything.withCondition FieldName.name (.fuzzy "b")).orderedBy
      FieldName.creationTimestamp false).paged 5 10
    AgreeByKey parameters others ∧ ofParameters parameters = .ok q ∧
      ofParameters others = .ok q := by
  intro parameters others q
  have hagree : AgreeByKey parameters others := agreeByKey_of_forall_mem (by decide)
  have hread : ofParameters parameters = .ok q := by rfl
  exact ⟨hagree, hread, ((ofParameters_lastValues parameters).2.2 others hagree q).mpr hread⟩

end AccessGateway.Query
