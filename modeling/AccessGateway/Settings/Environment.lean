import AccessGateway.Settings.Inline
import AccessGateway.Text.Split

/-!
# `AccessGateway.Settings.Environment`: settings in variables

Variables with the gateway's name in front are settings: two underscores in a name lead into a
section, and letters count as lower case. `Json.overlay` puts one tree of settings over another,
section by section.

Every variable makes a tree with one value in it, at the end of the path that its name stands for,
and these trees are put over each other in the order of the variables. Since names count as lower
case, a setting whose key has a capital letter is given under another key by a variable than by the
settings file. It is only when the settings are read that two such keys may be one setting.
-/

set_option autoImplicit false

namespace AccessGateway

namespace Json

mutual

/-- A tree put over another. Objects are joined key by key, and anything else replaces what is
under it. -/
def overlay (under : Json) : Json → Json
  | .obj members =>
    match under with
    | .obj below => .obj (overlayMembers below members)
    | _ => .obj (overlayMembers [] members)
  | value => value

/-- Members put over others, one after the other. A key that was not there is put in its place in
the order of the keys. -/
def overlayMembers (under : List (String × Json)) : List (String × Json) → List (String × Json)
  | [] => under
  | (key, value) :: rest =>
    overlayMembers (insertMember key (overlay ((under.lookup key).getD .null) value) under) rest

end

end Json

/-- The variables of a process in their order. A name may come twice, and then the first counts
where one asks for its value, and the last where settings are made. -/
abbrev Environment := List (String × String)

namespace Environment

/-- The value of a variable. -/
def value? (env : Environment) (name : String) : Option String := env.lookup name

/-- Sets a variable that is not set yet, behind the others. -/
def setAbsent (env : Environment) (name value : String) : Environment :=
  if (env.value? name).isSome then env else env ++ [(name, value)]

/-- What the names of settings begin with. It is compared in lower case. -/
def marker : List Char := "devops_apiserver_".toList

/-- Two underscores in a row stand for a point. Of three the first two do. -/
def pointed : List Char → List Char
  | '_' :: '_' :: rest => '.' :: pointed rest
  | c :: rest => c :: pointed rest
  | [] => []

/-- The keys, from the outermost section inwards, that a variable sets. A name with an empty key in
it sets nothing. -/
def path? (name : String) : Option (List String) := do
  let lower := (Text.trim name.toList).map Char.toLower
  let rest ← Text.dropStart? marker lower
  let keys := Text.pieces '.' (Text.trim (pointed rest))
  if keys.any List.isEmpty then none else some (keys.map String.ofList)

/-- The tree of one value under its keys. -/
def nest (value : Json) : List String → Json
  | [] => value
  | key :: keys => .obj [(key, nest value keys)]

/-- The tree of settings that the variables give, later ones over earlier ones. Variables of other
names say nothing. -/
def settings (env : Environment) : Json :=
  env.foldl
    (fun tree (name, value) =>
      match path? name with
      | some keys => tree.overlay (nest (Inline.read value) keys)
      | none => tree)
    (.obj [])

end Environment

end AccessGateway
