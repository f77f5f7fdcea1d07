import AccessGateway.Proofs.Settings.Reading
import AccessGateway.Proofs.Settings.VariableFile
import AccessGateway.Proofs.Settings.Word
import AccessGateway.Settings.Load
import Mathlib.Data.List.Nodup

/-!
# `AccessGateway.Proofs.Settings.Secret`: the signing secret from a variable

An installation that starts from a settings file can be given its signing secret in a variable. The
other settings are then meant to stay as they are, and the secret to be that of the variable. What
stands in the way is that the secret goes by two names, `jwtSecret` in files and `jwtsecret` in
variables, which are different keys when the variables are put over the file, and one setting when
the result is read.

What is shown here is put together from the layers of a tree, the files of variables, the reading of
settings and the values that are words. The variable that is added must not be set already, and the
other variables, in the process and in the files, must leave the secret alone. Under these
conditions loading with the variable fails in two cases and otherwise gives the settings from
before, with the secret in them. A settings file that spells out the secret, as the usual ones do,
is one of the two cases (`load_secretVariable_refused`).

* `load_eq`: loading is reading the file's tree under the variables.
* `others_addVariables`: the files of variables add the same others.
* `load_eq_of_secretVariable`: what comes of settings when the variable is set.
* `load_secretVariable_iff`: when they are refused then, and when nothing else is lost.
-/

set_option autoImplicit false

namespace AccessGateway

open Json (HasKeysInOrder InKeyOrder)

/-! ### The file -/

namespace Yaml

/-- A scalar has no members. -/
theorem Scalar.members_of_otherValue {content : Scalar} {value : Json}
    (h : content.otherValue = some value) : value.members = [] := by
  rw [otherValue] at h
  repeat' split at h
  all_goals
    cases h
    try split
    all_goals rfl

/-- Whatever a scalar is read as has no members. -/
theorem Scalar.members_of_json? {content : Scalar} {value : Json}
    (h : content.json? = some value) : value.members = [] := by
  rw [json?] at h
  repeat' split at h
  case h_2 => exact members_of_otherValue h
  all_goals
    cases h
    rfl

/-- The members of a value that was read are in the order of their keys, since objects are made from
lists of members by sorting them. -/
theorem Node.inKeyOrder_of_json? {node : Node} {value : Json} (h : node.json? = some value) :
    InKeyOrder value.members := by
  cases node with
  | scalar content =>
    rw [Scalar.members_of_json? h]
    exact List.Pairwise.nil
  | sequence items =>
    rw [json?] at h
    obtain ⟨_, -, rfl⟩ := Option.map_eq_some_iff.mp h
    exact List.Pairwise.nil
  | mapping members =>
    rw [json?] at h
    obtain ⟨_, -, rfl⟩ := Option.map_eq_some_iff.mp h
    exact Json.inKeyOrder_orderMembers _

end Yaml

namespace Settings

/-- The tree of a settings file has its keys in order, at its top and in its sections. -/
theorem hasKeysInOrder_of_treeOf? {content : String} {tree : Json}
    (h : treeOf? content = some tree) : HasKeysInOrder tree := by
  obtain ⟨node, -, h⟩ := Option.bind_eq_some_iff.mp h
  obtain ⟨members, -, h⟩ := Option.bind_eq_some_iff.mp h
  obtain ⟨entries, hentries, heq⟩ := Option.bind_eq_some_iff.mp h
  cases heq
  refine ⟨Json.inKeyOrder_orderMembers _, fun key part hpart => ?_⟩
  obtain ⟨member, -, hread⟩ :=
    exists_of_mem_mapM' hentries (Json.mem_of_lookup_orderMembers hpart)
  obtain ⟨value, hvalue, heq⟩ := Option.map_eq_some_iff.mp hread
  cases heq
  exact Yaml.Node.inKeyOrder_of_json? hvalue

/-- So has the tree of what is found under its path, which is an empty one where there is no
file. -/
theorem hasKeysInOrder_of_treeOfEntry? {entry : FileEntry} {tree : Json}
    (h : treeOfEntry? entry = some tree) : HasKeysInOrder tree := by
  cases entry with
  | file content => exact hasKeysInOrder_of_treeOf? h
  | _ =>
    cases h
    exact Json.hasKeysInOrder_of_members_eq_nil rfl

section
variable (files : Files Id)

/-- The tree of what is found as the settings file, if it can be found and read. -/
def fileTree? (path : Option String) : Option Json :=
  match findFile files path with
  | .ok entry => treeOfEntry? entry
  | .error _ => none

/-- The variables of the process and of the files that the settings name, in the order in which they
were set. -/
def loadedVariables (tree : Json) (env : Environment) : Environment :=
  addVariables files (variableFiles tree) env

/-- What the file and the variables say together, which is what settings are read from. -/
def layeredTree (tree : Json) (env : Environment) : Json :=
  tree.overlay (loadedVariables files tree env).settings

variable {files} {path : Option String} {tree : Json}

/-- So has the tree that loading starts from. -/
theorem hasKeysInOrder_of_fileTree? (h : fileTree? files path = some tree) :
    HasKeysInOrder tree := by
  rw [fileTree?] at h
  split at h
  · exact hasKeysInOrder_of_treeOfEntry? h
  · cases h

/-- Settings that can be loaded are read from the file's tree and the variables. Which file it was
does not matter from here on. -/
theorem load_eq (h : fileTree? files path = some tree) (env : Environment) :
    load files env path = match read (layeredTree files tree env) with
      | some settings => .ok settings
      | none => .error malformed := by
  rw [fileTree?] at h
  split at h
  · rename_i entry hfound
    simp only [load, hfound, h, bind, pure, layeredTree, loadedVariables, ofLayers?]
    cases read (tree.overlay (addVariables files (variableFiles tree) env).settings) <;> rfl
  · cases h

/-! ### The variables of files -/

/-- Files of variables are read one after another, and one that is not there is passed over. -/
theorem addVariables_cons (files : Files Id) (path : String) (paths : List String)
    (env : Environment) :
    addVariables files (path :: paths) env = match files (expandHome env path) with
      | .file content => addVariables files paths (VariableFile.readInto env content)
      | _ => addVariables files paths env := rfl

/-- Files of variables change none that are set. -/
theorem extends_addVariables (files : Files Id) (paths : List String) (env : Environment) :
    Environment.Extends env (addVariables files paths env) := by
  induction paths generalizing env with
  | nil => exact Environment.Extends.refl env
  | cons path paths ih =>
    rw [addVariables_cons]
    split
    · exact (VariableFile.extends_readInto env _).trans (ih _)
    · exact ih env

/-- None of the files, wherever the home directory is, refers to the secret. Whether one of them
sets it is another matter. -/
def FilesSpareSecret (files : Files Id) (paths : List String) : Prop :=
  ∀ path ∈ paths, ∀ env content, files (expandHome env path) = .file content →
    ¬ VariableFile.RefersTo secretVariable.toList content.toList

/-- Files that do not refer to the secret add the same others whatever it is, one file after the
other. -/
theorem others_addVariables {files : Files Id} {paths : List String}
    (hfiles : FilesSpareSecret files paths) {env env' : Environment}
    (h : env.others = env'.others) :
    Environment.others (addVariables files paths env)
      = Environment.others (addVariables files paths env') := by
  induction paths generalizing env env' with
  | nil => exact h
  | cons path paths ih =>
    obtain ⟨hfile, hrest⟩ := List.forall_mem_cons.mp hfiles
    have hhome : env.value? "HOME" = env'.value? "HOME" := by
      have hname : "HOME" ≠ secretVariable := by decide
      rw [← Environment.value?_others hname env, ← Environment.value?_others hname env', h]
    have hpath : expandHome env path = expandHome env' path := by
      rw [expandHome, expandHome, hhome]
    rw [addVariables_cons, addVariables_cons, ← hpath]
    split
    · rename_i content hcontent
      exact ih hrest (VariableFile.others_readInto h (hfile env content hcontent))
    · exact ih hrest h

end

/-! ### The secret from a variable -/

section
variable {files : Files Id} {path : Option String} {tree : Json} {settings : Settings}
  {before after : Environment} {secret : String}

/-- What is read from the file and variables with the secret among them, of which it is known what
is read without. -/
theorem read_overlay_setSecret {env withSecret : Environment} (htree : HasKeysInOrder tree)
    (hread : read (tree.overlay env.settings) = some settings) (hspares : env.SparesSecret)
    (hsame : withSecret.others = env.others)
    (hwith : withSecret = before ++ (secretVariable, secret) :: after)
    (hafter : ∀ v ∈ after, v.1 ≠ secretVariable)
    (hvalue : ∀ members, Inline.read secret ≠ .obj members) :
    read (tree.overlay withSecret.settings)
      = if SpellsSecret (tree.overlay env.settings) then none
        else (Inline.read secret).text?.map
          (settings.setSecret (settings.keptOptions (tree.overlay env.settings))) := by
  have hspares' : withSecret.SparesSecret := by
    rw [Environment.SparesSecret, hsame]
    exact hspares
  have hafterSpares : ∀ v ∈ after, SparesSecret v.1 := by
    intro v hv
    have hmem : v ∈ withSecret := hwith ▸ List.mem_append_right _ (List.mem_cons_of_mem _ hv)
    exact hspares' v (List.mem_filter.mpr ⟨hmem, decide_eq_true (hafter v hv)⟩)
  have hlayer := Environment.isLayer_settings hspares
  have hlayer' := Environment.isLayer_settings hspares'
  have hothers := Environment.agreeButSecret_others hspares'
  rw [hsame] at hothers
  have hagree := (hothers.trans (Environment.agreeButSecret_others hspares).symm).overlay
    hlayer' hlayer tree
  have hlast : GivesSecret (Inline.read secret) withSecret.settings := by
    rw [hwith]
    exact Environment.givesSecret_settings hvalue before hafterSpares
  have hgives := hlast.overlay hlayer' hvalue tree
  obtain ⟨under, hunder⟩ := hlayer.overlay_isObj tree
  obtain ⟨upper, hupper⟩ := hlayer'.overlay_isObj tree
  have hinOrder := htree.overlay env.settings
  have hinOrder' := htree.overlay withSecret.settings
  rw [hunder] at hread hagree hinOrder ⊢
  rw [hupper] at hagree hgives hinOrder' ⊢
  exact read_setSecret hinOrder hinOrder' hagree hgives hread

/-- Nothing but the secret is lost where a row of values says nothing else. The secret itself is
replaced in any case. -/
theorem setSecret_keptOptions_eq_iff :
    settings.setSecret (settings.keptOptions tree) secret
        = settings.setSecret settings.authenticationOptions secret
      ↔ (IsRow tree → settings.authenticationOptions
          = { jwtSecret := settings.authenticationOptions.jwtSecret }) := by
  rw [keptOptions]
  split
  · rename_i hrow
    rw [forall_prop_of_true hrow]
    generalize settings.authenticationOptions = options
    cases options
    simp only [setSecret, Settings.mk.injEq, Option.some.injEq, AuthenticationOptions.mk.injEq,
      true_and, and_true]
    grind
  · rename_i hrow
    exact iff_of_true rfl fun h => absurd h hrow

/-- What is loaded with the secret in a variable. It is refused if the secret goes by both names
then, or is taken for a truth value; else it is in the place of the one there was. -/
theorem load_eq_of_secretVariable (hfile : fileTree? files path = some tree)
    (hload : load files (before ++ after) path = .ok settings)
    (hunset : Environment.value? (before ++ after) secretVariable = none)
    (hsame : (loadedVariables files tree (before ++ (secretVariable, secret) :: after)).others
      = (loadedVariables files tree (before ++ after)).others)
    (hspares : (loadedVariables files tree (before ++ after)).SparesSecret)
    (hword : Inline.IsWord secret) :
    load files (before ++ (secretVariable, secret) :: after) path
      = if SpellsSecret (layeredTree files tree (before ++ after)) ∨
          secret = "true" ∨ secret = "false" then .error malformed
        else .ok (settings.setSecret
          (settings.keptOptions (layeredTree files tree (before ++ after))) secret) := by
  rw [load_eq hfile] at hload ⊢
  have hread : read (layeredTree files tree (before ++ after)) = some settings := by
    split at hload
    · rename_i hfound
      cases hload
      exact hfound
    · cases hload
  -- what the files of variables add comes last, and does not set the secret once more
  obtain ⟨added, hadded, hfresh⟩ := extends_addVariables files (variableFiles tree)
    (before ++ (secretVariable, secret) :: after)
  rw [← loadedVariables, List.append_assoc, List.cons_append] at hadded
  have hafter : ∀ v ∈ after ++ added, v.1 ≠ secretVariable := by
    refine List.forall_mem_append.mpr ⟨fun v hv heq => ?_, fun v hv heq => ?_⟩
    · refine lookup_eq_none_iff_not_mem.mp hunset (List.mem_map.mpr ⟨v, ?_, heq⟩)
      exact List.mem_append_right before hv
    · refine lookup_eq_none_iff_not_mem.mp (hfresh v hv) (List.mem_map.mpr
        ⟨(secretVariable, secret), ?_, heq.symm⟩)
      exact List.mem_append_right before List.mem_cons_self
  rw [layeredTree, read_overlay_setSecret (hasKeysInOrder_of_fileTree? hfile) hread hspares hsame
    hadded hafter (Inline.read_word_ne_obj hword), Inline.text?_read_word hword, ← layeredTree]
  by_cases hspells : SpellsSecret (layeredTree files tree (before ++ after))
  · rw [if_pos hspells, if_pos (Or.inl hspells)]
  · rw [if_neg hspells]
    by_cases htruth : secret = "true" ∨ secret = "false"
    · rw [if_pos htruth, if_pos (Or.inr htruth)]
      rfl
    · rw [if_neg htruth, if_neg (not_or.mpr ⟨hspells, htruth⟩)]
      rfl

/-- Settings that load are kept but for the secret when a variable gives that, a word, unless it
then goes by both names, is taken for a truth value, or stands in the place of a row of values that
says more. In the first two cases nothing is loaded. -/
theorem load_secretVariable_iff (hfile : fileTree? files path = some tree)
    (hload : load files (before ++ after) path = .ok settings)
    (hunset : Environment.value? (before ++ after) secretVariable = none)
    (hfiles : FilesSpareSecret files (variableFiles tree))
    (hspares : (loadedVariables files tree (before ++ after)).SparesSecret)
    (hword : Inline.IsWord secret) :
    let layered := layeredTree files tree (before ++ after)
    let outcome := load files (before ++ (secretVariable, secret) :: after) path
    (outcome = .error malformed ↔ SpellsSecret layered ∨ secret = "true" ∨ secret = "false") ∧
    (outcome = .ok (settings.setSecret settings.authenticationOptions secret) ↔
      ¬ SpellsSecret layered ∧ secret ≠ "true" ∧ secret ≠ "false" ∧
        (IsRow layered → settings.authenticationOptions
          = { jwtSecret := settings.authenticationOptions.jwtSecret })) := by
  intro layered outcome
  have hothers : Environment.others (before ++ (secretVariable, secret) :: after)
      = Environment.others (before ++ after) := by
    simp [Environment.others]
  have houtcome : outcome = if SpellsSecret layered ∨ secret = "true" ∨ secret = "false" then
      .error malformed else .ok (settings.setSecret (settings.keptOptions layered) secret) :=
    load_eq_of_secretVariable hfile hload hunset (others_addVariables hfiles hothers) hspares hword
  by_cases hrefused : SpellsSecret layered ∨ secret = "true" ∨ secret = "false"
  · rw [if_pos hrefused] at houtcome
    rw [houtcome]
    refine ⟨iff_of_true rfl hrefused, iff_of_false (by rintro ⟨⟩) ?_⟩
    rintro ⟨hspells, htrue, hfalse, -⟩
    rcases hrefused with hspelled | htruth | hfalsehood
    · exact hspells hspelled
    · exact htrue htruth
    · exact hfalse hfalsehood
  · rw [if_neg hrefused] at houtcome
    rw [houtcome, Except.ok.injEq, setSecret_keptOptions_eq_iff]
    refine ⟨iff_of_false (by rintro ⟨⟩) hrefused, ?_⟩
    rw [not_or, not_or] at hrefused
    exact ⟨fun hrow => ⟨hrefused.1, hrefused.2.1, hrefused.2.2, hrow⟩, fun h => h.2.2.2⟩

end

/-- The files with these contents, and no others. -/
def filesOf (contents : List (String × String)) : Files Id := fun path =>
  match contents.lookup path with
  | some content => .file content
  | none => .absent

/-- A settings file that names no secret, a file of variables with the port, and a variable with
the host of the credential store. -/
theorem load_secretVariable_iff_sesame :
    let files := filesOf
      [("gateway.yaml", "envFiles: [port]\nauthentication:\n  issuer: corp\n"),
        ("port", "DEVOPS_APISERVER_SERVER__PORT=8080\n")]
    let before : Environment := [("HOME", "/root")]
    let after : Environment := [("DEVOPS_APISERVER_REDIS__HOST", "cache")]
    let settings : Settings :=
      { envFiles := ["port"], server := { port := 8080 },
        authentication := some { issuer := "corp" }, redis := some { host := "cache" } }
    load files (before ++ after) (some "gateway.yaml") = .ok settings ∧
    load files (before ++ (secretVariable, "sesame") :: after) (some "gateway.yaml")
      = .ok (settings.setSecret { issuer := "corp" } "sesame") := by
  intro files before after settings
  let tree : Json := .obj
    [("authentication", .obj [("issuer", .str "corp")]), ("envFiles", .arr [.str "port"])]
  have hfile : fileTree? files (some "gateway.yaml") = some tree := by decide +kernel
  have hvariables : loadedVariables files tree (before ++ after)
      = before ++ after ++ [("DEVOPS_APISERVER_SERVER__PORT", "8080")] := by decide
  have hlayered : layeredTree files tree (before ++ after) = .obj
      [("authentication", .obj [("issuer", .str "corp")]), ("envFiles", .arr [.str "port"]),
        ("redis", .obj [("host", .str "cache")]), ("server", .obj [("port", .num 8080)])] := by
    rw [layeredTree, hvariables]
    decide +kernel
  have hload : load files (before ++ after) (some "gateway.yaml") = .ok settings := by
    have hread : read (layeredTree files tree (before ++ after)) = some settings := by
      rw [hlayered]
      decide +kernel
    rw [load_eq hfile, hread]
  have hfiles : FilesSpareSecret files (variableFiles tree) := by
    intro path hpath env content hcontent
    cases List.mem_singleton.mp hpath
    cases hcontent
    exact VariableFile.not_refersTo_of_not_mem (by decide)
  have hspares : (loadedVariables files tree (before ++ after)).SparesSecret := by
    rw [hvariables]
    decide
  refine ⟨hload,
    (load_secretVariable_iff hfile hload (by decide) hfiles hspares (by decide)).2.mpr ?_⟩
  rw [hlayered]
  decide

/-- A settings file with a secret loads, but not with another secret in the variable. -/
theorem load_secretVariable_refused :
    let files := filesOf [("gateway.yaml", "authentication:\n  jwtSecret: change-me\n")]
    load files [] (some "gateway.yaml")
      = .ok { authentication := some { jwtSecret := "change-me" } } ∧
    load files [(secretVariable, "sesame")] (some "gateway.yaml") = .error malformed := by
  intro files
  let tree : Json := .obj [("authentication", .obj [("jwtSecret", .str "change-me")])]
  have hfile : fileTree? files (some "gateway.yaml") = some tree := by decide +kernel
  have halone : read (layeredTree files tree [])
      = some { authentication := some { jwtSecret := "change-me" } } := by decide +kernel
  have hboth : read (layeredTree files tree [(secretVariable, "sesame")]) = none := by
    decide +kernel
  rw [load_eq hfile, load_eq hfile, halone, hboth]
  exact ⟨rfl, rfl⟩

end Settings

end AccessGateway
