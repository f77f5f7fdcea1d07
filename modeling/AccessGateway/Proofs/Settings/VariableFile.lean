import AccessGateway.Proofs.Lists
import AccessGateway.Proofs.Settings.Layers
import AccessGateway.Proofs.Text.Split
import AccessGateway.Settings.VariableFile

/-!
# `AccessGateway.Proofs.Settings.VariableFile`: what a file of variables adds

A file of variables adds to the variables of the process and changes none of them. Its values may
refer to variables, so what it adds can depend on those that are set. It does not depend on the
signing secret if no value refers to that. As its name has underscores in it, a value can only do
so between braces, and then the name and the braces stand in the file (`RefersTo`).

Two runs of the reader are compared, one with the secret and one without. What they have in common
is `State.SameButSecret`: the same other variables, and the same values given by the file. One line
keeps this, since the value in it is the same in both, and so do all lines. The value is the same
because the text of the line does not refer to the secret. That is first a fact about the file, and
it comes down to the value along the way the file is cut: what is cut stands in what it was cut
from, so it refers to nothing more.

* `extends_readInto`: no variable is changed.
* `readValue_congr`: a value that does not refer to a variable.
* `suffix_of_assignment?`, `isInfix_of_mem_joinLines`: values and lines stand in the file.
* `others_readInto`: a file that does not refer to the secret.
-/

set_option autoImplicit false

namespace AccessGateway

namespace Environment

/-- The variables and some more, none of which was set before. -/
def Extends (env more : Environment) : Prop :=
  ∃ added, more = env ++ added ∧ ∀ v ∈ added, env.value? v.1 = none

variable {env more most : Environment}

/-- Variables extend themselves by none. -/
theorem Extends.refl (env : Environment) : Extends env env :=
  ⟨[], (List.append_nil env).symm, nofun⟩

/-- Variables that were added in two goes were added: what is set stays set through both. -/
theorem Extends.trans (h : Extends env more) (h' : Extends more most) : Extends env most := by
  obtain ⟨added, rfl, hadded⟩ := h
  obtain ⟨last, rfl, hlast⟩ := h'
  refine ⟨added ++ last, List.append_assoc .., List.forall_mem_append.mpr ⟨hadded, fun v hv => ?_⟩⟩
  have hnone := hlast v hv
  rw [value?, List.lookup_append, Option.or_eq_none_iff] at hnone
  exact hnone.1

/-- A variable is only set that was not, so setting one changes no other and no value that is
there. -/
theorem extends_setAbsent (env : Environment) (name value : String) :
    Extends env (env.setAbsent name value) := by
  rw [setAbsent]
  split
  · exact Extends.refl env
  · rename_i hnone
    refine ⟨_, rfl, fun v hv => ?_⟩
    rw [List.mem_singleton.mp hv]
    exact Option.not_isSome_iff_eq_none.mp hnone

end Environment

namespace VariableFile

open Environment (Extends)

/-- The value that is written behind an equals sign. -/
def value? (find : String → String) (text : List Char) : Option (List Char) :=
  if isVoid text then some [] else readValue find false .text [] text

/-- Gives a variable a value, unless it has one. That the file gave it is noted in any case. -/
def State.give (s : State) (name value : List Char) : State :=
  ⟨s.env.setAbsent (String.ofList name) (String.ofList value),
    (String.ofList name, String.ofList value) :: s.given⟩

/-- A line says nothing, or it is an assignment whose value is worked out from the variables so far.
A line that is neither is refused. -/
theorem State.take_eq (s : State) (line : List Char) :
    s.take line = if isVoid (Text.trim line) then some s
      else (assignment? (Text.trim line)).bind fun (name, text) =>
        (value? s.find text).map (s.give name) := by
  rw [take]
  dsimp only
  split
  · rfl
  · refine congrArg _ (funext fun (name, text) => ?_)
    dsimp only [value?]
    split
    · rfl
    · cases readValue s.find false .text [] text <;> rfl

/-- A line sets nothing, or gives a variable a value. There is no third thing that a line could
do. -/
theorem State.of_take_eq_some {s s' : State} {line : List Char} (h : s.take line = some s') :
    s' = s ∨ ∃ name value, s' = s.give name value := by
  rw [take_eq] at h
  split at h
  · exact Or.inl (Option.some.inj h).symm
  · obtain ⟨⟨name, text⟩, -, h⟩ := Option.bind_eq_some_iff.mp h
    obtain ⟨value, -, h⟩ := Option.map_eq_some_iff.mp h
    exact Or.inr ⟨name, value, h.symm⟩

/-- A line adds variables and takes none away, be it a comment, a setting or a blank one. -/
theorem extends_take {s s' : State} {line : List Char} (h : s.take line = some s') :
    Extends s.env s'.env := by
  rcases State.of_take_eq_some h with rfl | ⟨name, value, rfl⟩
  · exact Extends.refl _
  · exact Environment.extends_setAbsent ..

/-- So do all lines, up to the first one that is refused; what the lines before it set is kept. -/
theorem extends_takeAll (s : State) (lines : List (Option (List Char))) :
    Extends s.env (s.takeAll lines).env := by
  fun_induction State.takeAll s lines with
  | case1 s line rest s' htake ih => exact (extends_take htake).trans ih
  | case2 => exact Extends.refl _
  | case3 => exact Extends.refl _

/-- A file of variables changes none that are set, so what the process was given counts over every
file. -/
theorem extends_readInto (env : Environment) (content : String) :
    Extends env (readInto env content) :=
  extends_takeAll ⟨env, []⟩ _

/-! ### Values -/

/-- A text refers to a variable, between braces. -/
def RefersTo (name text : List Char) : Prop := '\x7b' :: (name ++ ['\x7d']) <:+: text

/-- A text without braces does not refer to anything in that way. -/
theorem not_refersTo_of_not_mem {name text : List Char} (h : '\x7b' ∉ text) :
    ¬ RefersTo name text := fun hrefers => h (hrefers.subset List.mem_cons_self)

/-- A part of a text refers to nothing that the text does not refer to. -/
theorem not_refersTo_of_part {name text part : List Char} (h : ¬ RefersTo name text)
    (hpart : part <:+: text) : ¬ RefersTo name part :=
  fun hrefers => h (List.IsInfix.trans hrefers hpart)

/-- What the reader of a value is inside of, and what is to come, leave a variable out. Between
braces what was read of the name counts as still to come, since the name may be completed. Behind a
dollar sign a name without braces has only letters and digits. -/
def LeavesOut (name text : List Char) : Part → Prop
  | .name read => (∀ c ∈ read, c.isAlphanum = true) ∧ ¬ RefersTo name text
  | .braced read => ¬ RefersTo name ('\x7b' :: (read.reverse ++ text))
  | _ => ¬ RefersTo name text

section
variable {find find' : String → String} {name : List Char}
  (hname : ∃ c ∈ name, c.isAlphanum = false)
  (hfind : ∀ other, other ≠ String.ofList name → find other = find' other)
include hname hfind

/-- What stands behind a dollar sign without braces is another name, since the name of the secret
has an underscore in it. -/
theorem find_eq_of_isAlphanum {read : List Char} (hread : ∀ c ∈ read, c.isAlphanum = true) :
    find (String.ofList read.reverse) = find' (String.ofList read.reverse) := by
  refine hfind _ fun heq => ?_
  obtain ⟨c, hc, hother⟩ := hname
  rw [← String.ofList_inj.mp heq, List.mem_reverse] at hc
  exact Bool.false_ne_true (hother.symm.trans (hread c hc))

/-- What a variable is does not matter to a value that does not refer to it. The induction goes
along the text, for every state of the reader, and `LeavesOut` is what it carries. -/
theorem readValue_congr {text : List Char} (quoted : Bool) {part : Part} (read : List Char)
    (hpart : LeavesOut name text part) :
    readValue find quoted part read text = readValue find' quoted part read text := by
  induction text generalizing quoted part read with
  | nil =>
    cases part with
    | name word =>
      cases quoted
      · rw [readValue, readValue, find_eq_of_isAlphanum hname hfind hpart.1]
        all_goals nofun
      · rfl
    | _ => cases quoted <;> rfl
  | cons c rest ih =>
    -- outside of braces, what is left of the text leaves the variable out, too
    have hplain : ¬ RefersTo name (c :: rest) → ∀ quoted read,
        readValue find quoted .text read rest = readValue find' quoted .text read rest ∧
        readValue find quoted .escape read rest = readValue find' quoted .escape read rest ∧
        readValue find quoted .single read rest = readValue find' quoted .single read rest ∧
        readValue find quoted .ended read rest = readValue find' quoted .ended read rest ∧
        readValue find quoted (.name []) read rest
          = readValue find' quoted (.name []) read rest := by
      intro hout quoted read
      have hrest := not_refersTo_of_part hout (List.suffix_cons c rest).isInfix
      exact ⟨ih _ _ hrest, ih _ _ hrest, ih _ _ hrest, ih _ _ hrest, ih _ _ ⟨nofun, hrest⟩⟩
    cases part with
    | name word =>
      obtain ⟨hword, hout⟩ := hpart
      have hrest := not_refersTo_of_part hout (List.suffix_cons c rest).isInfix
      simp only [readValue, hplain hout, find_eq_of_isAlphanum hname hfind hword]
      split
      · rename_i hc
        exact ih _ _ ⟨List.forall_mem_cons.mpr ⟨hc, hword⟩, hrest⟩
      · refine ite_congr rfl (fun hbrace => ih _ _ ?_) fun _ => rfl
        rw [Bool.and_eq_true, beq_iff_eq] at hbrace
        rw [LeavesOut, List.reverse_nil, List.nil_append, ← hbrace.1]
        exact hout
    | braced word =>
      simp only [readValue]
      rw [LeavesOut] at hpart
      split
      · rename_i hc
        rw [beq_iff_eq] at hc
        subst hc
        have hother : String.ofList word.reverse ≠ String.ofList name := by
          intro heq
          rw [← String.ofList_inj.mp heq] at hpart
          exact hpart ⟨[], rest, by simp⟩
        rw [hfind _ hother]
        refine ih _ _ (not_refersTo_of_part hpart ?_)
        exact ⟨'\x7b' :: (word.reverse ++ ['\x7d']), [], by simp⟩
      · refine ih _ _ ?_
        rw [LeavesOut, List.reverse_cons, List.append_assoc]
        exact hpart
    | _ => simp only [readValue, hplain hpart]

end

/-! ### The lines of a file -/

/-- What is left when the blanks in front are gone is the end of the text. -/
theorem trimStart_suffix (text : List Char) : Text.trimStart text <:+ text :=
  List.dropWhile_suffix _

/-- Behind the name in an assignment stands the end of the text. -/
theorem suffix_of_name? {text name rest : List Char} (h : name? text = some (name, rest)) :
    rest <:+ text := by
  cases text with
  | nil => cases h
  | cons c text =>
    rw [name?] at h
    split at h
    · cases h
      exact List.dropWhile_suffix _
    · cases h

/-- So does what follows the equals sign, as an ending of the line. -/
theorem suffix_of_afterEquals? {text rest : List Char} (h : afterEquals? text = some rest) :
    rest <:+ text := by
  rw [afterEquals?.eq_def] at h
  split at h
  · cases h
    exact List.suffix_cons _ _
  · cases h

/-- The value that a line sets is the end of it, so it refers to nothing that the line does not
refer to. -/
theorem suffix_of_assignment? {line name text : List Char}
    (h : assignment? line = some (name, text)) : text <:+ line := by
  obtain ⟨⟨first, rest⟩, hname, h⟩ := Option.bind_eq_some_iff.mp h
  have hrest : Text.trimStart rest <:+ line :=
    (trimStart_suffix rest).trans (suffix_of_name? hname)
  dsimp only at h
  split at h
  · rename_i value hvalue
    cases h
    exact (trimStart_suffix value).trans ((suffix_of_afterEquals? hvalue).trans hrest)
  · obtain ⟨-, -, h⟩ := Option.bind_eq_some_iff.mp h
    obtain ⟨⟨second, rest'⟩, hname', h⟩ := Option.bind_eq_some_iff.mp h
    obtain ⟨value, hvalue, h⟩ := Option.bind_eq_some_iff.mp h
    cases h
    exact (trimStart_suffix value).trans ((suffix_of_afterEquals? hvalue).trans
      ((trimStart_suffix rest').trans ((suffix_of_name? hname').trans hrest)))

/-- The lines of a text are all of it, with their ends. Nothing is lost or moved when a text is cut
into lines. -/
theorem flatten_splitLines (text : List Char) : (splitLines text).flatten = text := by
  induction text with
  | nil => rfl
  | cons c rest ih =>
    rw [splitLines]
    split
    · rw [List.flatten_cons, ih, List.singleton_append]
    · split
      · rename_i hnone
        rw [hnone] at ih
        rw [← ih]
        rfl
      · rename_i line lines hlines
        rw [hlines] at ih
        rw [← ih]
        rfl

/-- A line without its end is the beginning of the line, so it refers to nothing that the line does
not. -/
theorem chomp_isPrefix (line : List Char) : chomp line <+: line := by
  rw [chomp]
  split
  · rename_i before hbefore
    have hline : before <+: line := ⟨_, (Text.dropEnd?_eq_some_iff.mp hbefore).symm⟩
    cases hreturn : Text.dropEnd? ['\r'] before with
    | none => exact hline
    | some start => exact List.IsPrefix.trans ⟨_, (Text.dropEnd?_eq_some_iff.mp hreturn).symm⟩ hline
  · exact List.prefix_rfl

/-- A line that was joined stands in the text: in what is still open from the lines before, together
with what is to come. -/
theorem isInfix_of_mem_joinLines {before : List Char} {inside : Inside} {lines : List (List Char)}
    {line : List Char} (h : some line ∈ joinLines before inside lines) :
    line <:+: before ++ lines.flatten := by
  induction lines generalizing before inside with
  | nil =>
    rw [joinLines] at h
    split at h
    · exact absurd h List.not_mem_nil
    · cases List.mem_singleton.mp h
  | cons first rest ih =>
    have hlater : ∀ {line : List Char}, line <:+: [] ++ rest.flatten →
        line <:+: before ++ (first :: rest).flatten := fun hline =>
      List.IsInfix.trans hline ⟨before ++ first, [], by simp⟩
    have hnow : ∀ {line : List Char}, line <+: before ++ first →
        line <:+: before ++ (first :: rest).flatten := fun hline =>
      List.IsInfix.trans hline.isInfix ⟨[], rest.flatten, by simp⟩
    rw [joinLines] at h
    split at h
    · exact hlater (ih h)
    · split at h
      · rcases List.mem_cons.mp h with heq | hrest
        · cases heq
          exact hnow (chomp_isPrefix _)
        · exact hlater (ih hrest)
      · rename_i count _
        rcases List.mem_cons.mp h with heq | hrest
        · cases heq
          exact hnow ((List.prefix_append_right_inj before).mpr (List.take_prefix count first))
        · exact hlater (ih hrest)
      · have hline := ih h
        rwa [List.append_assoc] at hline

/-- A text without the mark of its encoding is the end of the text. -/
theorem unmarked_suffix (text : List Char) : unmarked text <:+ text := by
  rw [unmarked.eq_def]
  split
  · exact List.suffix_cons _ _
  · exact List.suffix_rfl

end VariableFile

/-! ### The secret aside -/

namespace Environment

open Settings (secretVariable)

/-- What another variable than the secret's is, is the same among the others. -/
theorem value?_others {name : String} (hname : name ≠ secretVariable) (env : Environment) :
    (others env).value? name = env.value? name :=
  lookup_filter_keys (fun other => decide (other ≠ secretVariable)) (decide_eq_true hname) env

/-- Setting the secret makes no difference to the others, and setting another one makes the same.
Whether a variable is set already is told from the others, if it is one of them. -/
theorem others_setAbsent {env env' : Environment} (h : others env = others env')
    (name value : String) :
    others (env.setAbsent name value) = others (env'.setAbsent name value) := by
  by_cases hname : name = secretVariable
  · have hsecret : ∀ env : Environment, others (env.setAbsent name value) = others env := by
      intro env
      rw [setAbsent]
      split
      · rfl
      · rw [others_append]
        simp [others, hname]
    rw [hsecret, hsecret, h]
  · have hsame : env.value? name = env'.value? name := by
      rw [← value?_others hname env, ← value?_others hname env', h]
    rw [setAbsent, setAbsent, hsame]
    split
    · exact h
    · rw [others_append, others_append, h]

end Environment

namespace VariableFile

open Environment (others)
open Settings (secretVariable)

/-- What lines have set so far is the same in everything but the secret. -/
structure State.SameButSecret (s s' : State) : Prop where
  others : Environment.others s.env = Environment.others s'.env
  given : s.given = s'.given

variable {s s' : State}

/-- Two readers that differ in the secret only find the same under any other name. -/
theorem State.SameButSecret.find (h : s.SameButSecret s') {name : String}
    (hname : name ≠ secretVariable) : s.find name = s'.find name := by
  rw [State.find, State.find, ← Environment.value?_others hname, h.others,
    Environment.value?_others hname, h.given]

/-- They still do when both are given the same variable. -/
theorem State.SameButSecret.give (h : s.SameButSecret s') (name value : List Char) :
    (s.give name value).SameButSecret (s'.give name value) :=
  ⟨Environment.others_setAbsent h.others _ _, congrArg (List.cons _) h.given⟩

/-- A value that does not refer to the secret is the same whatever that is. -/
theorem State.SameButSecret.value? (h : s.SameButSecret s') {text : List Char}
    (htext : ¬ RefersTo secretVariable.toList text) :
    VariableFile.value? s.find text = VariableFile.value? s'.find text := by
  have hname : ∃ c ∈ secretVariable.toList, c.isAlphanum = false := ⟨'_', by decide, rfl⟩
  rw [VariableFile.value?, VariableFile.value?]
  split
  · rfl
  · refine readValue_congr hname (fun other hother => ?_) false [] htext
    exact h.find fun heq => hother (heq.trans String.ofList_toList.symm)

/-- A line that does not refer to the secret does the same whatever that is. If it is refused, it is
refused in both runs. -/
theorem State.SameButSecret.take (h : s.SameButSecret s') {line : List Char}
    (hline : ¬ RefersTo secretVariable.toList line) :
    Option.Rel State.SameButSecret (s.take line) (s'.take line) := by
  rw [take_eq, take_eq]
  split
  · exact .some h
  · cases hassigned : assignment? (Text.trim line) with
    | none => exact .none
    | some assigned =>
      obtain ⟨name, text⟩ := assigned
      have htext : ¬ RefersTo secretVariable.toList text :=
        not_refersTo_of_part hline
          ((suffix_of_assignment? hassigned).isInfix.trans (Text.trimBy_isInfix _ _))
      rw [Option.bind_some, Option.bind_some]
      dsimp only
      rw [h.value? htext]
      cases VariableFile.value? s'.find text with
      | none => exact .none
      | some value => exact .some (h.give name value)

/-- They still do after lines that do not refer to the secret. -/
theorem State.SameButSecret.takeAll (h : s.SameButSecret s') {lines : List (Option (List Char))}
    (hlines : ∀ line, some line ∈ lines → ¬ RefersTo secretVariable.toList line) :
    (s.takeAll lines).SameButSecret (s'.takeAll lines) := by
  induction lines generalizing s s' with
  | nil => exact h
  | cons entry rest ih =>
    cases entry with
    | none => exact h
    | some line =>
      have htake := h.take (hlines line List.mem_cons_self)
      rw [State.takeAll, State.takeAll]
      cases hfirst : s.take line <;> cases hsecond : s'.take line <;> rw [hfirst, hsecond] at htake
      · exact h
      · cases htake
      · cases htake
      · cases htake with
        | some hnext => exact ih hnext fun line hline => hlines line (List.mem_cons_of_mem _ hline)

/-- A file that does not refer to the secret does the same to the other variables whatever that
is. -/
theorem others_readInto {env env' : Environment} (h : others env = others env') {content : String}
    (hcontent : ¬ RefersTo secretVariable.toList content.toList) :
    others (readInto env content) = others (readInto env' content) := by
  have hstart : State.SameButSecret ⟨env, []⟩ ⟨env', []⟩ := ⟨h, rfl⟩
  refine (hstart.takeAll fun line hline => ?_).others
  have hstands := isInfix_of_mem_joinLines hline
  rw [List.nil_append, flatten_splitLines] at hstands
  exact not_refersTo_of_part hcontent (hstands.trans (unmarked_suffix _).isInfix)

end VariableFile

end AccessGateway
