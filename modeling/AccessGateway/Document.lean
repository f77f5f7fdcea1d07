import AccessGateway.Json.Value
import AccessGateway.Text.Numeral
import Std.Data.ExtTreeMap

/-!
# `AccessGateway.Document`: typed readings of values

A `Document` is a value of a data format, which can be taken for a text, a number, a list and
so on as the format allows. A `Decoder` reads something of a given type from such a value, and
is the same for every format: an object of the cluster is read from its wire form in JSON and from
a file in YAML, and what its record is must not be said twice. The formats differ in what a scalar
may be taken for, and that is the instance.

Readings are strict: null stands only for an optional part, a record is read from an object,
whose other members are ignored, or from an array of its parts in order. Decoders are functions
to `Option` and compose by `bind`, so the reading of a type follows its fields. The way back is
`Json.objectOf`, which leaves out what is absent; that the two undo each other is proved type by
type from the lemmas of `AccessGateway.Proofs.Document`.
-/

set_option autoImplicit false

namespace AccessGateway

/-- What a value of a data format can be taken for. Each reading may fail by itself, and one value
can have several: a plain scalar of YAML can be a number and a text. -/
class Document (V : Type) where
  text? : V → Option String
  flag? : V → Option Bool
  whole? : V → Option Int
  /-- Whether the value stands for nothing. -/
  isNull : V → Bool
  items? : V → Option (List V)
  members? : V → Option (List (String × V))
  /-- The name of one of several alternatives. -/
  alternative? : V → Option String
  json? : V → Option Json

/-- A JSON value is only what its form says. Alternatives are named by a string, or by the key
of a single member that is null. -/
instance : Document Json where
  text? := Json.text?
  flag?
    | .bool value => some value
    | _ => none
  whole?
    | .num value => some value
    | _ => none
  isNull value := value == .null
  items?
    | .arr items => some items
    | _ => none
  members?
    | .obj members => some members
    | _ => none
  alternative?
    | .str name => some name
    | .obj [(name, .null)] => some name
    | _ => none
  json? := some

/-- The reading of a value as something of type `α`, if it has that form. Which part failed is not
kept: a snapshot with an unreadable part is refused as a whole. -/
abbrev Decoder (V α : Type) := V → Option α

/-- A reading of JSON values. -/
abbrev Json.Decoder (α : Type) := AccessGateway.Decoder Json α

namespace Decoder

variable {V α : Type} [Document V]

/-- A string. What else may be taken for one is up to the format. -/
def text : Decoder V String := Document.text?

/-- A truth value, by itself and not as a text. -/
def flag : Decoder V Bool := Document.flag?

/-- A whole number within bounds, both of which belong to the range. A number with a fraction is
none, even where the fraction is zero. -/
def whole (low high : Int) : Decoder V Int := fun value =>
  (Document.whole? value).filter fun n => decide (low ≤ n) && decide (n ≤ high)

/-- A natural number of at most `high`; a negative one is refused rather than cut to zero. -/
def natural (high : Nat) : Decoder V Nat := fun value =>
  (whole 0 (Int.ofNat high) value).map Int.toNat

/-- A signed 64-bit number. The bounds are not of one size: there is one more negative number than
there are positive ones. -/
def signed : Decoder V Int :=
  whole (-(Text.Numeral.maxSigned + 1 : Nat)) Text.Numeral.maxSigned

/-- An unsigned 64-bit number, such as a count of seconds. -/
def word : Decoder V Nat := natural Text.Numeral.maxWord

/-- A list whose items are all of one form; one item that is not spoils the list. -/
def list (item : Decoder V α) : Decoder V (List α) := fun value =>
  (Document.items? value).bind fun items => items.mapM' item

/-- An object whose values are all of one form. Of two members with one key the last counts, as it
is inserted over the first. -/
def map (item : Decoder V α) : Decoder V (Std.ExtTreeMap String α) := fun value => do
  let members ← Document.members? value
  let entries ← members.mapM' fun (key, value) => (item value).map ((key, ·))
  return entries.foldl (fun read (key, value) => read.insert key value) ∅

/-- Nothing or a value. Only what the format takes for null is nothing; a part that is left out is
the matter of `defaulted`. -/
def optional (item : Decoder V α) : Decoder V (Option α) := fun value =>
  if Document.isNull value then some none else (item value).map some

/-- Any value, kept as it is. Only a format that can hold something which is no value of JSON can
refuse here. -/
def any : Decoder V Json := Document.json?

/-- One of several alternatives by name. Names are compared exactly, so another spelling of one is
refused. -/
def oneOf (alternatives : List (String × α)) : Decoder V α := fun value =>
  (Document.alternative? value).bind fun name => alternatives.lookup name

/-- The members of a record with these fields: an object that gives no field twice, or an array of
the parts in order. A member that is no field is ignored, and may stand twice; an array may be
shorter than the fields, whose rest is then absent, but not longer. -/
def record (fields : List String) : Decoder V (List (String × V)) := fun value =>
  match Document.members? value with
  | some members =>
    let given := members.filter fun (key, _) => fields.contains key
    if given.map Prod.fst |>.Nodup then some given else none
  | none =>
    match Document.items? value with
    | some items => if items.length ≤ fields.length then some (fields.zip items) else none
    | none => none

/-- A part that a record must have: it is refused where the part is absent. -/
def required (part : Decoder V α) (key : String) (members : List (String × V)) : Option α :=
  (members.lookup key).bind part

/-- A part that a record may omit. The default stands in for an absent part only; one that is there
and unreadable is refused. -/
def defaulted (part : Decoder V α) (key : String) (absent : α) (members : List (String × V)) :
    Option α :=
  match members.lookup key with
  | some value => part value
  | none => some absent

end Decoder

namespace Json

/-- The object of the members that are present, in key order. A record is written by listing its
fields with what each has to say. -/
def objectOf (members : List (String × Option Json)) : Json :=
  object (members.filterMap fun (key, value) => value.map ((key, ·)))

/-- A value that is written only under a condition, such as a list that is left out when it is
empty. -/
def keepUnless (omitted : Bool) (value : Json) : Option Json := if omitted then none else some value

/-- A map of strings as an object. The map lists its entries by key, so the object is already in key
order. -/
def ofTextMap (map : Std.ExtTreeMap String String) : Json :=
  .obj (map.toList.map fun (key, value) => (key, .str value))

end Json

end AccessGateway
