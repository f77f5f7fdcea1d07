import AccessGateway.Text.Blank

/-!
# `AccessGateway.Http.Headers`: header fields

The header fields of a request in their order. Names do not distinguish case, and a name may
come several times. Values may hold octets beyond ASCII; whoever wants a text of a value has to ask
whether it is one (`Headers.isPlainChar`).
-/

set_option autoImplicit false

namespace AccessGateway

/-- Header fields, their names in lower case. What a name is looked up by is written in lower case
too. -/
structure Headers where
  fields : List (String × String)
  deriving DecidableEq, Repr

namespace Headers

/-- No fields. -/
def empty : Headers := ⟨[]⟩

/-- Whether a character may stand in the name of a field. These are the characters of tokens, and no
blank is among them. -/
def isNameChar (c : Char) : Bool :=
  c.isAlphanum ||
    c ∈ ['!', '#', '$', '%', '&', '\'', '*', '+', '-', '.', '^', '_', '\x60', '|', '~']

/-- Whether a text is the name of a field. -/
def isName (name : String) : Bool := name ≠ "" && name.toList.all isNameChar

/-- Whether a character may stand in the value of a field: no control but the tab. -/
def isValueChar (c : Char) : Bool := c == '\t' || (0x20 ≤ c.toNat && c.toNat ≠ 0x7F)

/-- Whether a character is printable ASCII or a tab. Only values of such characters are read as
text. -/
def isPlainChar (c : Char) : Bool := c == '\t' || (0x20 ≤ c.toNat && c.toNat < 0x7F)

/-- Adds a field behind the others, if name and value are well formed. Fields of the same name stay
where they are. -/
def add? (h : Headers) (name value : String) : Option Headers :=
  if isName name && value.toList.all isValueChar then some ⟨h.fields ++ [(name.toLower, value)]⟩
  else none

/-- The fields of pairs of name and value, if all of them are well formed. -/
def ofPairs? (pairs : List (String × String)) : Option Headers :=
  pairs.foldlM (fun h (name, value) => h.add? name value) empty

/-- The value of the first field of a name. Later ones of the same name are not looked at. -/
def first? (h : Headers) (name : String) : Option String := h.fields.lookup name

end Headers

end AccessGateway
