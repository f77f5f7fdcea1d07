import AccessGateway.Proofs.Document
import AccessGateway.Proofs.Settings.Layers
import AccessGateway.Settings.Basic
import Mathlib.Data.List.Nodup

/-!
# `AccessGateway.Proofs.Settings.Reading`: settings with and without the secret

Settings are read from the parts of a tree, a part from what stands under its key. Two trees that
agree in everything but the secret are read alike in everything else, with two exceptions. The
secret goes by two names, and a section that has both of them is refused. And a section may be a
row of values without names, which is gone as soon as the secret stands in its place.

The reading goes through two levels, the settings and the section of the secret in them, and each
level has the same two lemmas. One says that parts which agree but under one key are read as the
same record but for one field (`ofParts?_setSecret`, `ofParts?_of_same`). The other brings a tree
into parts, for which its keys have to be distinct. That is where the two names come in: they are
made one before the parts are taken, and keys that were distinct are distinct no more if both were
there.

What is said of the section without the secret has to hold for every form it may have. If it is
missing, or null, it is read as the section without members. A row of values is too when the secret
is put in its place, though it could be read as more by itself, and this is the difference that
`Settings.keptOptions` makes.

* `AuthenticationOptions.read_setSecret`: the section with the secret in it.
* `Settings.read_section`: what the section without it comes to, whatever its form.
* `Settings.read_setSecret`: all settings with the secret.
-/

set_option autoImplicit false

namespace AccessGateway

open Time (Duration)
open Decoder
open Settings (secretKey)
open Json (HasKeysInOrder field?_eq_lookup_members)

namespace AuthenticationOptions

/-- The other name of the secret, which a settings file gives it. -/
def secretField : String := "jwtSecret"

/-- Parts that differ in the secret only make options that do. The secret has to be a text, like the
one whose place it takes. -/
theorem ofParts?_setSecret {parts others : List (String × Json)} {options : AuthenticationOptions}
    {value : Json} (hread : ofParts? parts = some options)
    (hsame : ∀ key ∈ fields, key ≠ secretField → others.lookup key = parts.lookup key)
    (hsecret : others.lookup secretField = some value) :
    ofParts? others = value.text?.map fun secret => { options with jwtSecret := secret } := by
  have hpart : ∀ {α : Type} {part : Json.Decoder α} {key : String} {absent : α}, key ∈ fields →
      key ≠ secretField → defaulted part key absent others = defaulted part key absent parts :=
    fun hkey hne => defaulted_congr (hsame _ hkey hne)
  have hnew : defaulted Decoder.text "jwtSecret" "" others = value.text? := by
    rw [defaulted, show others.lookup "jwtSecret" = some value from hsecret]
    rfl
  simp only [ofParts?, Option.bind_eq_bind, Option.bind_eq_some_iff] at hread ⊢
  obtain ⟨_, -, _, hissuer, _, hage, _, hmultiple, _, htries, _, hwindow, _, htimeout, heq⟩ := hread
  cases heq
  rw [hnew, (hpart (by decide) (by decide)).trans hissuer,
    (hpart (by decide) (by decide)).trans hage, (hpart (by decide) (by decide)).trans hmultiple,
    (hpart (by decide) (by decide)).trans htries, (hpart (by decide) (by decide)).trans hwindow,
    (hpart (by decide) (by decide)).trans htimeout]
  cases value.text? <;> rfl

/-! ### The two names of the secret -/

/-- A member under the one name that the secret has in the end. All other members keep theirs. -/
def plain (member : String × Json) : String × Json :=
  (if member.1 = secretKey then secretField else member.1, member.2)

/-- Both names of the secret become one. -/
theorem unaliased_obj (members : List (String × Json)) :
    unaliased (.obj members) = .obj (members.map plain) := rfl

/-- The secret of a variable goes by the name that a file has for it. -/
theorem plain_secretKey (value : Json) : plain (secretKey, value) = (secretField, value) := rfl

/-- No other member changes its name. -/
theorem plain_of_ne {key : String} (hkey : key ≠ secretKey) (value : Json) :
    plain (key, value) = (key, value) := by
  rw [plain, if_neg hkey]

/-- A field with one name is found under it, by induction on the members. -/
theorem lookup_map_plain {field : String} (hsecret : field ≠ secretField)
    (hname : field ≠ secretKey) (members : List (String × Json)) :
    (members.map plain).lookup field = members.lookup field := by
  induction members with
  | nil => rfl
  | cons member rest ih =>
    obtain ⟨key, value⟩ := member
    rw [List.map_cons]
    by_cases hkey : key = secretKey
    · subst hkey
      rw [plain_secretKey, lookup_cons_eq_ite, lookup_cons_eq_ite, if_neg hsecret, if_neg hname, ih]
    · rw [plain_of_ne hkey, lookup_cons_eq_ite, lookup_cons_eq_ite, ih]

section
variable {members : List (String × Json)}

/-- The secret is found under the one name when it does not go by both. -/
theorem lookup_map_plain_secretField (hfield : members.lookup secretField = none) :
    (members.map plain).lookup secretField = members.lookup secretKey := by
  induction members with
  | nil => rfl
  | cons member rest ih =>
    obtain ⟨key, value⟩ := member
    rw [lookup_cons_eq_ite] at hfield
    split at hfield
    · cases hfield
    · rename_i hother
      rw [List.map_cons]
      by_cases hkey : key = secretKey
      · subst hkey
        rw [plain_secretKey, lookup_cons_eq_ite, lookup_cons_eq_ite, if_pos rfl, if_pos rfl]
      · rw [plain_of_ne hkey, lookup_cons_eq_ite, lookup_cons_eq_ite, if_neg hother,
          if_neg (Ne.symm hkey), ih hfield]

/-- Distinct keys stay so when the secret does not go by both names, since making two names one is
injective on the rest. -/
theorem nodup_map_plain (hdistinct : (members.map Prod.fst).Nodup)
    (hfield : members.lookup secretField = none) : ((members.map plain).map Prod.fst).Nodup := by
  have hnoField : secretField ∉ members.map Prod.fst := lookup_eq_none_iff_not_mem.mp hfield
  have hkeys : (members.map plain).map Prod.fst
      = (members.map Prod.fst).map fun key => if key = secretKey then secretField else key := by
    rw [List.map_map, List.map_map]
    rfl
  rw [hkeys]
  refine List.Nodup.map_on (fun key hkey other hother heq => ?_) hdistinct
  split at heq <;> split at heq
  · rename_i hkey hother
    exact hkey.trans hother.symm
  · exact absurd (heq ▸ hother) hnoField
  · exact absurd (heq ▸ hkey) hnoField
  · exact heq

/-- A section is refused that gives the secret under both names, whatever the two values are. Made
one, the name comes twice. -/
theorem read_of_both_names {value named : Json} (hdistinct : (members.map Prod.fst).Nodup)
    (hfield : members.lookup secretField = some named)
    (hkey : members.lookup secretKey = some value) : read (.obj members) = none := by
  have hmem : ∀ {key : String} {value : Json}, members.lookup key = some value →
      fields.contains (plain (key, value)).1 = true →
      (key, value) ∈ members.filter fun member => fields.contains (plain member).1 :=
    fun hlookup hfield =>
      List.mem_filter.mpr ⟨(lookup_eq_some_iff_mem hdistinct).mp hlookup, hfield⟩
  have hrecord : record fields (Json.obj (members.map plain)) = none := by
    refine if_neg fun hnodup => ?_
    rw [List.filter_map, List.map_map] at hnodup
    -- under one name, two members with different keys would be the same
    have hsame : (secretField, named) = (secretKey, value) :=
      List.inj_on_of_nodup_map hnodup (hmem hfield rfl) (hmem hkey rfl) rfl
    have hnames : secretField ≠ secretKey := by decide
    exact hnames (congrArg Prod.fst hsame)
  rw [read, unaliased_obj, hrecord, Option.bind_none]

end

/-! ### The section with the secret -/

/-- Options that were read, and the secret put to them. If the file has given it under its own name,
there are two names now, and nothing is read. -/
theorem read_setSecret {under upper : List (String × Json)} {options : AuthenticationOptions}
    {value : Json} (hunder : (under.map Prod.fst).Nodup) (hupper : (upper.map Prod.fst).Nodup)
    (hsame : ∀ key, key ≠ secretKey → upper.lookup key = under.lookup key)
    (hsecret : upper.lookup secretKey = some value) (hread : read (.obj under) = some options) :
    read (.obj upper) = if (under.lookup secretField).isSome then none
      else value.text?.map fun secret => { options with jwtSecret := secret } := by
  rw [← hsame secretField (by decide)]
  cases hfield : upper.lookup secretField with
  | some named => exact read_of_both_names hupper hfield hsecret
  | none =>
    have hunderField : under.lookup secretField = none := (hsame _ (by decide)).symm.trans hfield
    rw [read, unaliased_obj, record_obj_of_nodup fields (nodup_map_plain hunder hunderField),
      Option.bind_some] at hread
    rw [read, unaliased_obj, record_obj_of_nodup fields (nodup_map_plain hupper hfield),
      Option.bind_some]
    refine ofParts?_setSecret hread (fun key hkey hne => ?_) ?_
    · have hname : key ≠ secretKey := by
        rintro rfl
        exact absurd hkey (by decide)
      rw [lookup_parts hkey, lookup_parts hkey, lookup_map_plain hne hname,
        lookup_map_plain hne hname, hsame key hname]
    · rw [lookup_parts (by decide), lookup_map_plain_secretField hfield, hsecret]

end AuthenticationOptions

namespace Settings

open AuthenticationOptions (secretField read_setSecret)

section
variable {parts others : List (String × Json)} {settings : Settings}

/-- The options of settings are read from the section of the secret. -/
theorem authentication_of_ofParts? (hread : ofParts? parts = some settings) :
    defaulted (optional AuthenticationOptions.read) secretSection (some {}) parts
      = some settings.authentication := by
  simp only [ofParts?, Option.bind_eq_bind, Option.bind_eq_some_iff] at hread
  obtain ⟨_, -, _, -, _, -, _, hauthentication, _, -, _, -, heq⟩ := hread
  cases heq
  exact hauthentication

/-- Parts that differ in the section of the secret only make settings that do. What the section is
read as is left open. -/
theorem ofParts?_of_same (hread : ofParts? parts = some settings)
    (hsame : ∀ key ∈ fields, key ≠ secretSection → others.lookup key = parts.lookup key) :
    ofParts? others
      = (defaulted (optional AuthenticationOptions.read) secretSection (some {}) others).map
          fun authentication => { settings with authentication } := by
  have hpart : ∀ {α : Type} {part : Json.Decoder α} {key : String} {absent : α}, key ∈ fields →
      key ≠ secretSection → defaulted part key absent others = defaulted part key absent parts :=
    fun hkey hne => defaulted_congr (hsame _ hkey hne)
  simp only [ofParts?, Option.bind_eq_bind, Option.bind_eq_some_iff] at hread ⊢
  obtain ⟨_, hfiles, _, hserver, _, hmode, _, -, _, hredis, _, hcluster, heq⟩ := hread
  cases heq
  rw [(hpart (by decide) (by decide)).trans hfiles, (hpart (by decide) (by decide)).trans hserver,
    (hpart (by decide) (by decide)).trans hmode, (hpart (by decide) (by decide)).trans hredis,
    (hpart (by decide) (by decide)).trans hcluster]
  rw [secretSection]
  cases defaulted (optional AuthenticationOptions.read) "authentication" (some {}) others <;> rfl

end

/-! ### The section in a tree -/

/-- The tree gives the secret under the name that a settings file has for it, whatever value it
gives. -/
def SpellsSecret (tree : Json) : Prop := ((sectionOf tree).field? secretField).isSome

instance (tree : Json) : Decidable (SpellsSecret tree) :=
  inferInstanceAs (Decidable (Option.isSome _ = true))

/-- The section of the secret is a row of values without names, in the order of the fields. -/
def IsRow (tree : Json) : Prop := ∃ items, sectionOf tree = .arr items

instance (tree : Json) : Decidable (IsRow tree) :=
  match h : sectionOf tree with
  | .arr items => isTrue ⟨items, h⟩
  | .null | .bool _ | .num _ | .decimal .. | .str _ | .obj _ =>
    isFalse fun ⟨_, hrow⟩ => by cases h.symm.trans hrow

/-- What settings say of logins and tokens when the secret is put among it. A row of values does not
outlast that, and then the defaults are said. -/
def keptOptions (settings : Settings) (tree : Json) : AuthenticationOptions :=
  if IsRow tree then {} else settings.authenticationOptions

/-- Settings with the secret in place of theirs. -/
def setSecret (settings : Settings) (options : AuthenticationOptions) (secret : String) :
    Settings :=
  { settings with authentication := some { options with jwtSecret := secret } }

/-- Nothing is said of logins and tokens, so every field has its default. -/
theorem read_noMembers : AuthenticationOptions.read (.obj []) = some {} := by decide

/-- What is kept of a section, whatever its form, is what its members say. There is one case for
each form that a section may have, and most of them are not read at all. -/
theorem read_section {tree : Json} {parts : List (String × Json)} {settings : Settings}
    (hpart : parts.lookup secretSection = tree.field? secretSection)
    (hread : defaulted (optional AuthenticationOptions.read) secretSection (some {}) parts
      = some settings.authentication) :
    AuthenticationOptions.read (.obj (sectionOf tree).members)
      = some (settings.keptOptions tree) := by
  rw [defaulted, hpart] at hread
  have hnoRow : ∀ {part : Json}, sectionOf tree = part → (∀ items, part ≠ .arr items) →
      settings.keptOptions tree = settings.authenticationOptions := by
    rintro _ rfl hitems
    refine if_neg ?_
    rintro ⟨items, hrow⟩
    exact hitems items hrow
  -- missing and null are the same, an object is read as it is, and a row loses what it says
  cases hsection : tree.field? secretSection with
  | none =>
    rw [hsection] at hread
    have hnull : sectionOf tree = .null := by rw [sectionOf, hsection, Option.getD_none]
    have hoptions : settings.authenticationOptions = {} := by
      rw [authenticationOptions, ← Option.some.inj hread, Option.getD_some]
    rw [hnoRow hnull fun _ => Json.noConfusion, hnull, hoptions]
    exact read_noMembers
  | some part =>
    rw [hsection] at hread
    have hsame : sectionOf tree = part := by rw [sectionOf, hsection, Option.getD_some]
    cases part with
    | null =>
      have hoptions : settings.authenticationOptions = {} := by
        rw [authenticationOptions, ← Option.some.inj hread]
        rfl
      rw [hnoRow hsame fun _ => Json.noConfusion, hsame, hoptions]
      exact read_noMembers
    | obj members =>
      obtain ⟨options, hoptions, hsome⟩ := Option.map_eq_some_iff.mp hread
      rw [hnoRow hsame fun _ => Json.noConfusion, hsame, authenticationOptions, ← hsome,
        Option.getD_some]
      exact hoptions
    | arr items =>
      rw [keptOptions, if_pos ⟨items, hsame⟩, hsame]
      exact read_noMembers
    | _ => cases hread

/-- The section with the secret, and what is kept of the one without it. -/
theorem read_section_setSecret {tree other value : Json} {options : AuthenticationOptions}
    (htree : HasKeysInOrder tree) (hother : HasKeysInOrder other)
    (hagree : AgreeButSecret other tree) (hgives : GivesSecret value other)
    (hread : AuthenticationOptions.read (.obj (sectionOf tree).members) = some options) :
    (other.field? secretSection).map (optional AuthenticationOptions.read)
      = some (if SpellsSecret tree then none
        else value.text?.map fun secret => some { options with jwtSecret := secret }) := by
  obtain ⟨inner, hsection, hsecret⟩ := hgives
  have hinner : sectionOf other = .obj inner := by rw [sectionOf, hsection, Option.getD_some]
  have hsame : ∀ key, key ≠ secretKey →
      inner.lookup key = (sectionOf tree).members.lookup key := by
    intro key hkey
    rw [← field?_eq_lookup_members, ← hagree.inside key hkey, hinner]
    rfl
  have hupper : (inner.map Prod.fst).Nodup := (hother.inside secretSection _ hsection).nodup
  have hunder : ((sectionOf tree).members.map Prod.fst).Nodup :=
    (htree.members_part secretSection).nodup
  have hresult := AuthenticationOptions.read_setSecret hunder hupper hsame hsecret hread
  rw [← field?_eq_lookup_members] at hresult
  rw [hsection, Option.map_some]
  show some ((AuthenticationOptions.read (.obj inner)).map some) = _
  rw [hresult]
  by_cases hspelled : ((sectionOf tree).field? secretField).isSome = true
  · have hspells : SpellsSecret tree := hspelled
    rw [if_pos hspelled, if_pos hspells, Option.map_none]
  · have hspells : ¬ SpellsSecret tree := hspelled
    rw [if_neg hspelled, if_neg hspells, Option.map_map]
    rfl

/-- Settings that were read, and the secret put to them. The trees agree outside of the section, and
the section is dealt with by itself. -/
theorem read_setSecret {under upper : List (String × Json)} {value : Json} {settings : Settings}
    (hunder : HasKeysInOrder (.obj under)) (hupper : HasKeysInOrder (.obj upper))
    (hagree : AgreeButSecret (.obj upper) (.obj under)) (hgives : GivesSecret value (.obj upper))
    (hread : read (.obj under) = some settings) :
    read (.obj upper) = if SpellsSecret (.obj under) then none
      else value.text?.map (settings.setSecret (settings.keptOptions (.obj under))) := by
  have hunderKeys : (under.map Prod.fst).Nodup := hunder.outside.nodup
  have hupperKeys : (upper.map Prod.fst).Nodup := hupper.outside.nodup
  have hfield : secretSection ∈ fields := by decide
  rw [read, record_obj_of_nodup fields hunderKeys, Option.bind_some] at hread
  have hsame : ∀ key ∈ fields, key ≠ secretSection →
      (upper.filter fun member => fields.contains member.1).lookup key
        = (under.filter fun member => fields.contains member.1).lookup key := by
    intro key hkey hne
    rw [lookup_parts hkey, lookup_parts hkey]
    exact hagree.outside key hne
  have hsection := read_section_setSecret hunder hupper hagree hgives
    (read_section (lookup_parts hfield under) (authentication_of_ofParts? hread))
  obtain ⟨part, hpart, hread'⟩ := Option.map_eq_some_iff.mp hsection
  have hlookup := (lookup_parts hfield upper).trans hpart
  rw [read, record_obj_of_nodup fields hupperKeys, Option.bind_some,
    ofParts?_of_same hread hsame, defaulted, hlookup]
  show (optional AuthenticationOptions.read part).map _ = _
  rw [hread']
  split
  · rfl
  · rw [Option.map_map]
    rfl

end Settings

end AccessGateway
