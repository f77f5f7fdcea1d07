import AccessGateway.Document
import AccessGateway.Yaml.Token

/-!
# `AccessGateway.Yaml.Node`: values from lexemes

`Yaml.read?` assembles the value of a text that holds at most one document. A `Node` keeps
scalars as they were written, so a value can be read as what is expected of it: a number serves
as a text, and an empty place as an empty list or record. That is what the `Document` instance
says; as a value of JSON a node has one form only, and two equal keys are resolved there.

The lexer has made layout explicit, so assembly is a descent over lexemes. Its functions call
each other in ways no structure of the list follows, and count calls instead: four calls for a
lexeme and four more are enough for any text, so the bound is never what refuses one.
-/

set_option autoImplicit false

namespace AccessGateway.Yaml

/-- A YAML value. Members keep the order and the repetitions of the text, and a key can be any
value. -/
inductive Node where
  | scalar (content : Scalar)
  | sequence (items : List Node)
  | mapping (members : List (Node × Node))
  deriving Inhabited

namespace Node

/-- The value of a place where nothing is written, which is null, an empty text, or an empty
collection as is wanted. -/
def absent : Node := .scalar .absent

/-! ### Assembly -/

/-- A value that was read, and the lexemes after it. -/
abbrev Read := Node × List Token

/-- Whether no value stands where it could begin with this lexeme: the text has ended, or something
else begins. -/
def isLeftOut (enders : List Token) : List Token → Bool
  | [] => true
  | token :: _ => enders.contains token

mutual

/-- Reads one value. Block collections are only read where `inBlock` says so, and a sequence
without indentation of its own only where `mayHang` does. -/
def assemble : Nat → (inBlock mayHang : Bool) → List Token → Option Read
  | 0, _, _, _ => none
  | fuel + 1, inBlock, mayHang, tokens =>
    match tokens with
    | .scalar content :: rest => some (.scalar content, rest)
    | .flowSequence :: rest => flowItems fuel true [] rest
    | .flowMapping :: rest => flowMembers fuel true [] rest
    | .blockSequence :: rest => if inBlock then blockItems fuel [] rest else none
    | .blockMapping :: rest => if inBlock then blockMembers fuel [] rest else none
    | .entry :: _ => if mayHang then hangingItems fuel [] tokens else none
    | _ => none

/-- Reads a value, or nothing before one of the given lexemes, which is left for the caller. -/
def assembleUnless (enders : List Token) :
    Nat → (inBlock mayHang : Bool) → List Token → Option Read
  | 0, _, _, _ => none
  | fuel + 1, inBlock, mayHang, tokens =>
    if isLeftOut enders tokens then some (absent, tokens) else assemble fuel inBlock mayHang tokens

/-- Reads the entries of a block sequence up to its end. A dash with nothing behind it is an entry
that is absent. -/
def blockItems : Nat → List Node → List Token → Option Read
  | fuel + 1, done, .entry :: rest => do
    let (item, rest) ← assembleUnless [.entry, .blockEnd] fuel true false rest
    blockItems fuel (item :: done) rest
  | _, done, .blockEnd :: rest => some (.sequence done.reverse, rest)
  | _, _, _ => none

/-- Reads the entries of a sequence that stands at the indentation of its key. It has no end of its
own and stops before what is no entry. -/
def hangingItems : Nat → List Node → List Token → Option Read
  | fuel + 1, done, .entry :: rest => do
    let (item, rest) ← assembleUnless [.entry, .key, .value, .blockEnd] fuel true false rest
    hangingItems fuel (item :: done) rest
  | 0, _, _ => none
  | _, done, rest => some (.sequence done.reverse, rest)

/-- Reads the members of a block mapping up to its end. A key without a colon has an absent
value. -/
def blockMembers : Nat → List (Node × Node) → List Token → Option Read
  | fuel + 1, done, .key :: rest => do
    let (key, rest) ← assembleUnless [.key, .value, .blockEnd] fuel true true rest
    match rest with
    | .value :: rest =>
      let (value, rest) ← assembleUnless [.key, .value, .blockEnd] fuel true true rest
      blockMembers fuel ((key, value) :: done) rest
    | rest => blockMembers fuel ((key, absent) :: done) rest
  | _, done, .blockEnd :: rest => some (.mapping done.reverse, rest)
  | _, _, _ => none

/-- Reads the items of a flow sequence up to its end. An item with a colon is a mapping of one
member. The truth value says whether an item may come next, so a comma at the end is allowed and two
in a row are not. -/
def flowItems : Nat → Bool → List Node → List Token → Option Read
  | _, _, done, .flowSequenceEnd :: rest => some (.sequence done.reverse, rest)
  | 0, _, _, _ => none
  | fuel + 1, false, done, .comma :: rest =>
    match rest with
    | .flowSequenceEnd :: rest => some (.sequence done.reverse, rest)
    | rest => flowItems fuel true done rest
  | fuel + 1, true, done, .key :: rest => do
    let (key, rest) ← assembleUnless [.value, .comma, .flowSequenceEnd] fuel false false rest
    match rest with
    | .value :: rest =>
      let (value, rest) ← assembleUnless [.comma, .flowSequenceEnd] fuel false false rest
      flowItems fuel false (.mapping [(key, value)] :: done) rest
    | rest => flowItems fuel false (.mapping [(key, absent)] :: done) rest
  | fuel + 1, true, done, rest => do
    let (item, rest) ← assemble fuel false false rest
    flowItems fuel false (item :: done) rest
  | _, _, _, _ => none

/-- Reads the members of a flow mapping up to its end. A value without a colon is a key whose value
is absent. -/
def flowMembers : Nat → Bool → List (Node × Node) → List Token → Option Read
  | _, _, done, .flowMappingEnd :: rest => some (.mapping done.reverse, rest)
  | 0, _, _, _ => none
  | fuel + 1, false, done, .comma :: rest =>
    match rest with
    | .flowMappingEnd :: rest => some (.mapping done.reverse, rest)
    | rest => flowMembers fuel true done rest
  | fuel + 1, true, done, .key :: rest => do
    let (key, rest) ← assembleUnless [.value, .comma, .flowMappingEnd] fuel false false rest
    match rest with
    | .value :: rest =>
      let (value, rest) ← assembleUnless [.comma, .flowMappingEnd] fuel false false rest
      flowMembers fuel false ((key, value) :: done) rest
    | rest => flowMembers fuel false ((key, absent) :: done) rest
  | fuel + 1, true, done, rest => do
    let (key, rest) ← assemble fuel false false rest
    flowMembers fuel false ((key, absent) :: done) rest
  | _, _, _, _ => none

end

mutual

/-- How deep collections are nested in a value, keys included. -/
def depth : Node → Nat
  | .scalar _ => 0
  | .sequence items => depthOfItems items + 1
  | .mapping members => depthOfMembers members + 1

/-- The greatest depth of items. -/
def depthOfItems : List Node → Nat
  | [] => 0
  | item :: rest => max item.depth (depthOfItems rest)

/-- The greatest depth of keys and values. -/
def depthOfMembers : List (Node × Node) → Nat
  | [] => 0
  | (key, value) :: rest => max (max key.depth value.depth) (depthOfMembers rest)

end

/-- How deep collections may be nested. A deeper value is refused as a whole. -/
def maxDepth : Nat := 128

/-- The value of the only document, behind the mark of its start if there is one. A second document
is refused, and marks of an end are passed over. -/
def ofTokens? (tokens : List Token) : Option Node := do
  let (node, rest) ← match tokens with
    | [] => some (absent, [])
    | .documentStart :: rest =>
      assembleUnless [.documentStart, .documentEnd] (4 * rest.length + 4) true false rest
    | tokens => assemble (4 * tokens.length + 4) true false tokens
  guard (rest.all (· == .documentEnd) && node.depth ≤ maxDepth)
  return node

/-! ### What a value can be taken for -/

/-- The text of a scalar, as it was written and whatever it stands for. -/
def text? : Node → Option String
  | .scalar content => some content.text
  | _ => none

/-- The items of a sequence; nothing written is a sequence without any. -/
def items? : Node → Option (List Node)
  | .sequence items => some items
  | .scalar content => if content.isAbsent then some [] else none
  | .mapping _ => none

/-- The members of a mapping whose keys are scalars; nothing written is a mapping without any. -/
def members? : Node → Option (List (String × Node))
  | .mapping members => members.mapM' fun (key, value) => key.text?.map ((·, value))
  | .scalar content => if content.isAbsent then some [] else none
  | .sequence _ => none

mutual

/-- The JSON value of a node; of two equal keys the last counts. A scalar may have no value, and
then the whole has none. -/
def json? : Node → Option Json
  | .scalar content => content.json?
  | .sequence items => (jsonItems? items).map .arr
  | .mapping members => (jsonMembers? members).map Json.object

/-- The JSON values of items. -/
def jsonItems? : List Node → Option (List Json)
  | [] => some []
  | item :: rest => do return (← item.json?) :: (← jsonItems? rest)

/-- The JSON values of members. -/
def jsonMembers? : List (Node × Node) → Option (List (String × Json))
  | [] => some []
  | (key, value) :: rest => do
    return (← key.text?, ← value.json?) :: (← jsonMembers? rest)

end

instance : Document Node where
  text? := text?
  flag?
    | .scalar content => content.flag?
    | _ => none
  whole?
    | .scalar content => content.whole?
    | _ => none
  isNull
    | .scalar content => content.isNull
    | _ => false
  items? := items?
  members? := members?
  alternative? := text?
  json? := json?

end Node

/-- The value of a text that holds at most one document; a text without any holds an absent
value. -/
def read? (text : String) : Option Node := (lex text.toList).bind Node.ofTokens?

end AccessGateway.Yaml
