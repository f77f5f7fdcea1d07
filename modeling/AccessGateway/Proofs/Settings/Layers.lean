import AccessGateway.Proofs.Json.Overlay
import AccessGateway.Proofs.Text.Split
import AccessGateway.Settings.Environment
import Mathlib.Data.List.Induction

/-!
# `AccessGateway.Proofs.Settings.Layers`: the signing secret among other variables

The variables of a process are laid over each other one after the other, and all of them over the
settings file. One of them sets the signing secret. A variable that spares the secret leads neither
to it nor on from it; such variables, and the file, do to the rest of the settings what they would
do without the secret, and leave the secret alone.

So two environments with the same other variables give trees that agree in everything but the
secret (`AgreeButSecret`), and the one in which the secret was set last has it (`GivesSecret`). Both
are invariants of a row of variables. A step lays one more variable over the tree, and it is enough
to look at the first two keys of its path: whether it leads into the section of the secret, and if
so, whether it leads to the secret in it. Neither key of the secret is ever compared with a value,
so nothing is assumed of what the other variables say.

The file comes last and from below. That is no step of the row but the other way round, and it needs
that what the variables gave is an object, with an object in the section (`IsLayer`). Anything else
would hide the whole of the file there.

* `AgreeButSecret.overlay_nest`, `GivesSecret.overlay_nest`: what one more variable does.
* `agreeButSecret_others`, `givesSecret_settings`: what all variables do.
* `AgreeButSecret.overlay`, `GivesSecret.overlay`: what the file below them does.
-/

set_option autoImplicit false

namespace AccessGateway

open Json (HasKeysInOrder laidOver field?_overlay field?_overlay_member overlay_obj
  overlay_of_not_obj lookup_insertMember)

namespace Settings

/-! ### The secret in a tree of settings -/

/-- The section of the settings that holds the signing secret. -/
def secretSection : String := "authentication"

/-- The key under which a variable gives the secret, which is not the one that a settings file has
for it. -/
def secretKey : String := "jwtsecret"

/-- The variable that sets the secret. -/
def secretVariable : String := "DEVOPS_APISERVER_AUTHENTICATION__JWTSECRET"

/-- The variable of the secret leads to the section and to the key in it. -/
theorem path?_secretVariable :
    Environment.path? secretVariable = some [secretSection, secretKey] := by decide

/-- The section of a tree that holds the secret, or null. So a section that is missing and one that
is null have the same fields, which is none. -/
def sectionOf (tree : Json) : Json := (tree.field? secretSection).getD .null

/-- Two trees of settings agree in everything but the secret: in all that is outside of its section,
and in all other fields of that. -/
structure AgreeButSecret (tree other : Json) : Prop where
  outside : ∀ key, key ≠ secretSection → tree.field? key = other.field? key
  inside : ∀ key, key ≠ secretKey → (sectionOf tree).field? key = (sectionOf other).field? key

/-- A tree of settings gives the secret, under the key that a variable has for it. -/
def GivesSecret (value tree : Json) : Prop :=
  ∃ inner, tree.field? secretSection = some (.obj inner) ∧ inner.lookup secretKey = some value

/-- Keys that lead neither to the secret, or to what it is part of, nor on from it. A variable for
the whole section does not spare it. -/
def KeysSpareSecret : List String → Prop
  | [] => False
  | [first] => first ≠ secretSection
  | first :: second :: _ => first ≠ secretSection ∨ second ≠ secretKey

/-- A variable sets nothing, or spares the secret. -/
def SparesSecret (name : String) : Prop := ∀ keys ∈ Environment.path? name, KeysSpareSecret keys

instance : (keys : List String) → Decidable (KeysSpareSecret keys)
  | [] => inferInstanceAs (Decidable False)
  | [first] => inferInstanceAs (Decidable (first ≠ secretSection))
  | first :: second :: _ =>
    inferInstanceAs (Decidable (first ≠ secretSection ∨ second ≠ secretKey))

instance (name : String) : Decidable (SparesSecret name) :=
  inferInstanceAs (Decidable (∀ keys ∈ Environment.path? name, KeysSpareSecret keys))

namespace AgreeButSecret

variable {tree other third : Json}

/-- A tree agrees with itself, in the secret and in all else. -/
theorem refl (tree : Json) : AgreeButSecret tree tree := ⟨fun _ _ => rfl, fun _ _ => rfl⟩

/-- Agreement does not depend on which of two trees is named first. -/
theorem symm (h : AgreeButSecret tree other) : AgreeButSecret other tree :=
  ⟨fun key hkey => (h.outside key hkey).symm, fun key hkey => (h.inside key hkey).symm⟩

/-- What agrees with a tree agrees with all that agree with that one. -/
theorem trans (h : AgreeButSecret tree other) (h' : AgreeButSecret other third) :
    AgreeButSecret tree third :=
  ⟨fun key hkey => (h.outside key hkey).trans (h'.outside key hkey),
    fun key hkey => (h.inside key hkey).trans (h'.inside key hkey)⟩

end AgreeButSecret

/-! ### One variable more -/

section
variable (tree value : Json)

/-- The section after a variable that does not lead into it is the one before. -/
theorem sectionOf_overlay_other {first : String} (hfirst : first ≠ secretSection) :
    sectionOf (tree.overlay (.obj [(first, value)])) = sectionOf tree := by
  rw [sectionOf, field?_overlay_member, if_neg (Ne.symm hfirst), sectionOf]

/-- The section after a variable that leads into it: the rest of the variable laid over the
section. -/
theorem field?_overlay_section :
    (tree.overlay (.obj [(secretSection, value)])).field? secretSection
      = some ((sectionOf tree).overlay value) := by
  rw [field?_overlay_member, if_pos rfl, sectionOf]

/-- Laying one section over a tree lays it over the section of the tree. -/
theorem sectionOf_overlay_section :
    sectionOf (tree.overlay (.obj [(secretSection, value)])) = (sectionOf tree).overlay value := by
  rw [sectionOf, field?_overlay_section, Option.getD_some]

/-- Another variable of the secret makes no difference but in the secret. What it has replaced, if
there was something, was the secret too. -/
theorem agreeButSecret_overlay_secret :
    AgreeButSecret (tree.overlay (Environment.nest value [secretSection, secretKey])) tree where
  outside key hkey := by
    rw [Environment.nest, field?_overlay_member, if_neg hkey]
  inside key hkey := by
    rw [Environment.nest, sectionOf_overlay_section, Environment.nest, field?_overlay_member,
      if_neg hkey]

end

/-- Keys that spare the secret lead past its section, or into that with another key. -/
theorem KeysSpareSecret.cases {keys : List String} (h : KeysSpareSecret keys) :
    (∃ first rest, keys = first :: rest ∧ first ≠ secretSection) ∨
      ∃ second rest, keys = secretSection :: second :: rest ∧ second ≠ secretKey := by
  obtain _ | ⟨first, _ | ⟨second, rest⟩⟩ := keys
  · exact h.elim
  · exact Or.inl ⟨first, [], rfl, h⟩
  · by_cases hfirst : first = secretSection
    · subst hfirst
      exact Or.inr ⟨second, rest, rfl, h.resolve_left (absurd rfl)⟩
    · exact Or.inl ⟨first, second :: rest, rfl, hfirst⟩

/-- A variable that spares the secret does the same to trees that agree but in the secret. It may
lead past the section, or into it beside the secret. -/
theorem AgreeButSecret.overlay_nest {tree other : Json} (h : AgreeButSecret tree other)
    {keys : List String} (hkeys : KeysSpareSecret keys) (value : Json) :
    AgreeButSecret (tree.overlay (Environment.nest value keys))
      (other.overlay (Environment.nest value keys)) := by
  rcases hkeys.cases with ⟨first, rest, rfl, hfirst⟩ | ⟨second, rest, rfl, hsecond⟩
  · rw [Environment.nest]
    refine ⟨fun key hkey => ?_, fun key hkey => ?_⟩
    · rw [field?_overlay_member, field?_overlay_member, h.outside key hkey,
        h.outside first hfirst]
    · rw [sectionOf_overlay_other _ _ hfirst, sectionOf_overlay_other _ _ hfirst]
      exact h.inside key hkey
  · rw [Environment.nest]
    refine ⟨fun key hkey => ?_, fun key hkey => ?_⟩
    · rw [field?_overlay_member, field?_overlay_member, if_neg hkey, if_neg hkey]
      exact h.outside key hkey
    · rw [sectionOf_overlay_section, sectionOf_overlay_section, Environment.nest,
        field?_overlay_member, field?_overlay_member, h.inside key hkey, h.inside second hsecond]

/-- The variable of the secret gives it, whatever the tree below has there. -/
theorem givesSecret_overlay_secret (tree : Json) {value : Json}
    (hvalue : ∀ members, value ≠ .obj members) :
    GivesSecret value (tree.overlay (Environment.nest value [secretSection, secretKey])) := by
  refine ⟨Json.overlayMembers (sectionOf tree).members [(secretKey, value)], ?_, ?_⟩
  · rw [Environment.nest, field?_overlay_section]
    exact congrArg some (overlay_obj _ _)
  · rw [Json.overlayMembers, Json.overlayMembers, lookup_insertMember, if_pos rfl]
    exact congrArg some (overlay_of_not_obj hvalue _)

/-- A variable that spares the secret leaves it as it is: it is laid over another key, or over
another section. -/
theorem GivesSecret.overlay_nest {tree secret : Json} (h : GivesSecret secret tree)
    {keys : List String} (hkeys : KeysSpareSecret keys) (value : Json) :
    GivesSecret secret (tree.overlay (Environment.nest value keys)) := by
  obtain ⟨inner, hsection, hsecret⟩ := h
  rcases hkeys.cases with ⟨first, rest, rfl, hfirst⟩ | ⟨second, rest, rfl, hsecond⟩
  · rw [Environment.nest]
    exact ⟨inner, by rw [field?_overlay_member, if_neg (Ne.symm hfirst), hsection], hsecret⟩
  · rw [Environment.nest]
    have hinner : sectionOf tree = .obj inner := by rw [sectionOf, hsection, Option.getD_some]
    refine ⟨Json.overlayMembers inner [(second, Environment.nest value rest)], ?_, ?_⟩
    · rw [field?_overlay_section, hinner, Environment.nest]
      exact congrArg some (overlay_obj _ _)
    · rw [Json.overlayMembers, Json.overlayMembers, lookup_insertMember, if_neg hsecond.symm]
      exact hsecret

/-! ### A row of variables -/

/-- What variables give: an object, in which the secret is in an object again if it is there. -/
structure IsLayer (tree : Json) : Prop extends HasKeysInOrder tree where
  isObj : ∃ members, tree = .obj members
  isSection : ∀ part, tree.field? secretSection = some part → ∃ inner, part = .obj inner

/-- A variable that leads into a section, whether of the secret or not, adds to a layer. Only one
for the whole section of the secret could put something else in its place. -/
theorem IsLayer.overlay_nest {tree : Json} (h : IsLayer tree) {first : String} {rest : List String}
    (hrest : first = secretSection → rest ≠ []) (value : Json) :
    IsLayer (tree.overlay (Environment.nest value (first :: rest))) where
  toHasKeysInOrder := h.overlay _
  isObj := ⟨_, overlay_obj _ _⟩
  isSection part hpart := by
    rw [Environment.nest, field?_overlay_member] at hpart
    split at hpart
    · rename_i heq
      obtain ⟨second, rest, rfl⟩ := List.exists_cons_of_ne_nil (hrest heq.symm)
      cases hpart
      exact ⟨_, overlay_obj _ _⟩
    · exact h.isSection part hpart

/-- A path that does not lead to the secret either leads elsewhere or goes into its section. -/
theorem KeysSpareSecret.rest_ne_nil {keys : List String} (h : KeysSpareSecret keys) :
    ∃ first rest, keys = first :: rest ∧ (first = secretSection → rest ≠ []) := by
  rcases h.cases with ⟨first, rest, hkeys, hfirst⟩ | ⟨second, rest, hkeys, -⟩
  · exact ⟨first, rest, hkeys, fun heq => absurd heq hfirst⟩
  · exact ⟨secretSection, second :: rest, hkeys, fun _ => List.cons_ne_nil _ _⟩

end Settings

namespace Environment

open Settings

/-- A variable is laid over those in front of it, at the path of its name. A name that is no path
says nothing. -/
theorem settings_append_singleton (env : Environment) (name value : String) :
    settings (env ++ [(name, value)]) = match path? name with
      | some keys => (settings env).overlay (nest (Inline.read value) keys)
      | none => settings env := by
  rw [settings, List.foldl_append]
  rfl

/-- The secret is laid over whatever its section was, as it comes last. -/
theorem settings_append_secret (env : Environment) (secret : String) :
    settings (env ++ [(secretVariable, secret)])
      = (settings env).overlay (nest (Inline.read secret) [secretSection, secretKey]) := by
  rw [settings_append_singleton, path?_secretVariable]

/-- One more variable, which spares the secret, leads on from where it does not matter, whatever the
variables before it were. -/
theorem settings_append_spared {v : String × String} (hv : Settings.SparesSecret v.1) :
    (∀ env, settings (env ++ [v]) = settings env) ∨
      ∃ keys, KeysSpareSecret keys ∧
        ∀ env, settings (env ++ [v]) = (settings env).overlay (nest (Inline.read v.2) keys) := by
  obtain ⟨name, value⟩ := v
  cases hpath : path? name with
  | none => exact Or.inl fun env => by rw [settings_append_singleton, hpath]
  | some keys =>
    exact Or.inr ⟨keys, hv keys hpath, fun env => by rw [settings_append_singleton, hpath]⟩

/-- The variables but that of the secret. -/
def others (env : Environment) : Environment := env.filter fun v => decide (v.1 ≠ secretVariable)

/-- No other variable has to do with the secret. -/
def SparesSecret (env : Environment) : Prop := ∀ v ∈ others env, Settings.SparesSecret v.1

instance (env : Environment) : Decidable (SparesSecret env) :=
  inferInstanceAs (Decidable (∀ v ∈ others env, Settings.SparesSecret v.1))

/-- The variables beside the secret are counted variable by variable. -/
theorem others_append (env more : Environment) : others (env ++ more) = others env ++ others more :=
  List.filter_append ..

/-- If a row of variables spares the secret, so do its parts, which is what an induction over it
needs. -/
theorem SparesSecret.of_append {env more : Environment} (h : SparesSecret (env ++ more)) :
    SparesSecret env ∧ SparesSecret more := by
  rw [SparesSecret, others_append] at h
  exact List.forall_mem_append.mp h

/-- A variable that may be set beside the secret is either the secret itself or leads elsewhere. -/
theorem SparesSecret.of_singleton {v : String × String} (h : SparesSecret [v]) :
    (v.1 = secretVariable ∧ others [v] = []) ∨ (Settings.SparesSecret v.1 ∧ others [v] = [v]) := by
  by_cases hname : v.1 = secretVariable
  · exact Or.inl ⟨hname, by simp [others, hname]⟩
  · have hothers : others [v] = [v] := by simp [others, hname]
    rw [SparesSecret, hothers] at h
    exact Or.inr ⟨h v (List.mem_singleton_self v), hothers⟩

/-- But in the secret, the variables give what the others give. The induction takes the last
variable off, which is the secret's or spares it. -/
theorem agreeButSecret_others {env : Environment} (h : SparesSecret env) :
    AgreeButSecret (settings env) (settings (others env)) := by
  -- from the end, as the last variable is laid over what all before it give
  induction env using List.reverseRecOn with
  | nil => exact AgreeButSecret.refl _
  | append_singleton env v ih =>
    obtain ⟨hbefore, hlast⟩ := h.of_append
    rw [others_append]
    rcases hlast.of_singleton with ⟨hname, hothers⟩ | ⟨hspares, hothers⟩
    · obtain ⟨name, secret⟩ := v
      rw [show name = secretVariable from hname] at hothers ⊢
      rw [hothers, List.append_nil, settings_append_secret]
      exact (agreeButSecret_overlay_secret _ _).trans (ih hbefore)
    · rw [hothers]
      rcases settings_append_spared hspares with hsame | ⟨keys, hkeys, hoverlay⟩
      · rw [hsame, hsame]
        exact ih hbefore
      · rw [hoverlay, hoverlay]
        exact (ih hbefore).overlay_nest hkeys _

/-- Whatever came before, the secret is the last one given. The induction goes over the variables
behind it, each of which spares it. -/
theorem givesSecret_settings {secret : String}
    (hvalue : ∀ members, Inline.read secret ≠ .obj members) (before : Environment)
    {after : Environment} (hafter : ∀ v ∈ after, Settings.SparesSecret v.1) :
    GivesSecret (Inline.read secret) (settings (before ++ (secretVariable, secret) :: after)) := by
  induction after using List.reverseRecOn with
  | nil =>
    rw [settings_append_secret]
    exact givesSecret_overlay_secret _ hvalue
  | append_singleton after v ih =>
    obtain ⟨hbefore, hlast⟩ := List.forall_mem_append.mp hafter
    rw [← List.cons_append, ← List.append_assoc]
    rcases settings_append_spared (hlast v (List.mem_singleton_self v)) with
      hsame | ⟨keys, hkeys, hoverlay⟩
    · rw [hsame]
      exact ih hbefore
    · rw [hoverlay]
      exact (ih hbefore).overlay_nest hkeys _

/-- Variables give a layer, by induction on their row. -/
theorem isLayer_settings {env : Environment} (h : SparesSecret env) : IsLayer (settings env) := by
  induction env using List.reverseRecOn with
  | nil => exact ⟨Json.hasKeysInOrder_of_members_eq_nil rfl, ⟨_, rfl⟩, nofun⟩
  | append_singleton env v ih =>
    obtain ⟨hbefore, hlast⟩ := h.of_append
    rcases hlast.of_singleton with ⟨hname, -⟩ | ⟨hspares, -⟩
    · obtain ⟨name, secret⟩ := v
      rw [show name = secretVariable from hname, settings_append_secret]
      exact (ih hbefore).overlay_nest (fun _ => List.cons_ne_nil _ _) _
    · rcases settings_append_spared hspares with hsame | ⟨keys, hkeys, hoverlay⟩
      · rw [hsame]
        exact ih hbefore
      · obtain ⟨first, rest, rfl, hrest⟩ := hkeys.rest_ne_nil
        rw [hoverlay]
        exact (ih hbefore).overlay_nest hrest _

end Environment

/-! ### The file below the variables -/

namespace Settings

section
variable {layer : Json} (h : IsLayer layer) (tree : Json)
include h

/-- A layer is an object, so a tree with one over it is an object too. -/
theorem IsLayer.overlay_isObj : ∃ members, tree.overlay layer = .obj members := by
  obtain ⟨members, rfl⟩ := h.isObj
  exact ⟨_, overlay_obj tree members⟩

/-- Under each key a layer is laid over what the tree has there. -/
theorem IsLayer.field?_overlay (key : String) :
    (tree.overlay layer).field? key = laidOver (tree.field? key) (layer.field? key) := by
  obtain ⟨members, rfl⟩ := h.isObj
  exact Json.field?_overlay h.outside.nodup tree key

/-- In the section of the secret, too, what the variables say hides what the file says. -/
theorem IsLayer.field?_sectionOf_overlay (key : String) :
    (sectionOf (tree.overlay layer)).field? key
      = laidOver ((sectionOf tree).field? key) ((sectionOf layer).field? key) := by
  rw [sectionOf, h.field?_overlay]
  cases hpart : layer.field? secretSection with
  | none =>
    rw [sectionOf, sectionOf, hpart]
    rfl
  | some part =>
    obtain ⟨inner, rfl⟩ := h.isSection part hpart
    have hinner : sectionOf layer = .obj inner := by rw [sectionOf, hpart, Option.getD_some]
    rw [hinner]
    exact Json.field?_overlay (h.inside secretSection _ hpart).nodup _ key

end

/-- The file makes no difference between layers that agree but in the secret. Under each key it lies
below both in the same way. -/
theorem AgreeButSecret.overlay {layer other : Json} (h : AgreeButSecret layer other)
    (hlayer : IsLayer layer) (hother : IsLayer other) (tree : Json) :
    AgreeButSecret (tree.overlay layer) (tree.overlay other) where
  outside key hkey := by
    rw [hlayer.field?_overlay, hother.field?_overlay, h.outside key hkey]
  inside key hkey := by
    rw [hlayer.field?_sectionOf_overlay, hother.field?_sectionOf_overlay, h.inside key hkey]

/-- The file does not take the place of the secret, since it lies below. For that the secret must
not be an object, which would be joined with what is there. -/
theorem GivesSecret.overlay {layer secret : Json} (h : GivesSecret secret layer)
    (hlayer : IsLayer layer) (hsecret : ∀ members, secret ≠ .obj members) (tree : Json) :
    GivesSecret secret (tree.overlay layer) := by
  obtain ⟨inner, hsection, hlookup⟩ := h
  refine ⟨Json.overlayMembers (sectionOf tree).members inner, ?_, ?_⟩
  · rw [hlayer.field?_overlay, hsection]
    exact congrArg some (overlay_obj _ _)
  · have hnodup : (inner.map Prod.fst).Nodup := (hlayer.inside secretSection _ hsection).nodup
    rw [Json.lookup_overlayMembers hnodup, hlookup]
    exact congrArg some (overlay_of_not_obj hsecret _)

end Settings

end AccessGateway
