/-!
# `AccessGateway.Json.Value`: JSON values

The value type behind every wire format of the gateway, with decidable equality. Objects,
bodies of answers, the payload of a token and the tree of settings are all read from it or
written into it, so the answers of two runs can be compared as values and not as texts.

An object is a list of members and not a map: a text may give a key twice, and whether that is
refused or the last one wins is up to the one who reads it. `Json.object` gives the form in
which objects are stored and printed: members in key order, the last of two equal keys kept.
`Json.ordered` brings a value that was read into that form at every depth. The type is nested,
so each function that walks it comes with a companion on items and one on members, and all
three are structural.
-/

set_option autoImplicit false

namespace AccessGateway

/-- A JSON value. `num` holds the whole numbers of a 64-bit word, signed or unsigned; `decimal m e`
is any other number, `m` times ten to the power `e`. The two are kept apart because a field that
wants a whole number refuses `1.0` and a number too large for a word, whatever its value. -/
inductive Json where
  | null
  | bool (value : Bool)
  | num (value : Int)
  | decimal (mantissa : Int) (exponent : Int)
  | str (text : String)
  | arr (items : List Json)
  | obj (members : List (String × Json))
  deriving Inhabited, Repr

namespace Json

mutual

/-- Equality of values is decidable; the members of objects are compared in order. The mixed pairs
are written out, since a wildcard would hide from the kernel that the constructors differ. -/
def decEq : (a b : Json) → Decidable (a = b)
  | .null, .null => isTrue rfl
  | .bool a, .bool b => decidable_of_iff (a = b) (by simp)
  | .num a, .num b => decidable_of_iff (a = b) (by simp)
  | .decimal a c, .decimal b d => decidable_of_iff (a = b ∧ c = d) (by simp)
  | .str a, .str b => decidable_of_iff (a = b) (by simp)
  | .arr a, .arr b => @decidable_of_iff _ (a = b) (by simp) (decEqItems a b)
  | .obj a, .obj b => @decidable_of_iff _ (a = b) (by simp) (decEqMembers a b)
  | .null, .bool _ | .null, .num _ | .null, .decimal .. | .null, .str _ | .null, .arr _
  | .null, .obj _ | .bool _, .null | .bool _, .num _ | .bool _, .decimal .. | .bool _, .str _
  | .bool _, .arr _ | .bool _, .obj _ | .num _, .null | .num _, .bool _ | .num _, .decimal ..
  | .num _, .str _ | .num _, .arr _ | .num _, .obj _ | .decimal .., .null | .decimal .., .bool _
  | .decimal .., .num _ | .decimal .., .str _ | .decimal .., .arr _ | .decimal .., .obj _
  | .str _, .null | .str _, .bool _ | .str _, .num _ | .str _, .decimal .. | .str _, .arr _
  | .str _, .obj _ | .arr _, .null | .arr _, .bool _ | .arr _, .num _ | .arr _, .decimal ..
  | .arr _, .str _ | .arr _, .obj _ | .obj _, .null | .obj _, .bool _ | .obj _, .num _
  | .obj _, .decimal .. | .obj _, .str _ | .obj _, .arr _ => isFalse (by simp)

/-- Item lists are compared position by position. -/
def decEqItems : (a b : List Json) → Decidable (a = b)
  | [], [] => isTrue rfl
  | a :: as, b :: bs => @decidable_of_iff _ (a = b ∧ as = bs) (by simp)
      (@instDecidableAnd _ _ (decEq a b) (decEqItems as bs))
  | [], _ :: _ | _ :: _, [] => isFalse (by simp)

/-- Member lists are compared position by position, key and value. -/
def decEqMembers : (a b : List (String × Json)) → Decidable (a = b)
  | [], [] => isTrue rfl
  | (k, a) :: as, (l, b) :: bs =>
    @decidable_of_iff _ (k = l ∧ a = b ∧ as = bs) (by simp [and_assoc])
      (@instDecidableAnd _ _ _ (@instDecidableAnd _ _ (decEq a b) (decEqMembers as bs)))
  | [], _ :: _ | _ :: _, [] => isFalse (by simp)

end

instance : DecidableEq Json := decEq

/-- Puts a member at its place in key order; a member of the same key is replaced. Keys are compared
as texts, by the numbers of their characters. -/
def insertMember (key : String) (value : Json) : List (String × Json) → List (String × Json)
  | [] => [(key, value)]
  | (k, v) :: rest =>
    if key < k then (key, value) :: (k, v) :: rest
    else if key = k then (key, value) :: rest
    else (k, v) :: insertMember key value rest

/-- The members in key order, the last of two equal keys kept. Inserting one member after another
keeps the list in order, and a later member meets the earlier one of its key there. -/
def orderMembers (members : List (String × Json)) : List (String × Json) :=
  members.foldl (fun ordered (key, value) => insertMember key value ordered) []

/-- The object of these members in key order, the last of two equal keys kept. -/
def object (members : List (String × Json)) : Json := .obj (orderMembers members)

mutual

/-- The same value with the members of every object in key order, duplicates resolved, so that a
value that was read compares with one that `object` built. -/
def ordered : Json → Json
  | .arr items => .arr (orderedItems items)
  | .obj members => .obj (orderMembers (orderedMembers members))
  | value => value

/-- `ordered` on the items of an array. -/
def orderedItems : List Json → List Json
  | [] => []
  | item :: rest => item.ordered :: orderedItems rest

/-- `ordered` on the values of an object. -/
def orderedMembers : List (String × Json) → List (String × Json)
  | [] => []
  | (key, value) :: rest => (key, value.ordered) :: orderedMembers rest

end

/-- The value of the first member with this key; no other value has members. After `object` no key
stands twice, so first and last are the same. -/
def field? (key : String) : Json → Option Json
  | .obj members => members.lookup key
  | _ => none

/-- The text of a string value, and nothing for a value of any other form: a number is not taken for
its digits. -/
def text? : Json → Option String
  | .str text => some text
  | _ => none

/-- A list of strings as an array, in the order of the list. -/
def strings (items : List String) : Json := .arr (items.map .str)

/-- A natural number as a value. What is written this way is a length or a counter, far below the
largest word. -/
def nat (n : Nat) : Json := .num n

/-- A string, or null when it is absent: the member stands in the answer either way. -/
def ofText? : Option String → Json
  | some text => .str text
  | none => .null

end Json

end AccessGateway
