import OperatorConfig.Proofs.Secret.Spending
import OperatorConfig.Proofs.Session.Stages
import OperatorConfig.Proofs.Settings.Environment

/-!
# Stages that keep to some leaves

A stage is confined to some leaves if it writes no others, and if what it does to these, what it draws and
whether it fails can be told from what they hold. Two confined stages that share no leaf do not notice each
other, so they can change places. Entering a namespace and the environment are confined to what they pin,
and provisioning is confined to the secrets.
-/

namespace OperatorConfig

open Schema (Shape Leaf Shaped AgreeOff)

/-! ### Agreement at some leaves -/

abbrev Settings.Leaves : Type := (kind : Shape) → Leaf (Shaped.shape Settings) kind → Prop

def Settings.leavesAt (paths : List (List String)) : Settings.Leaves := fun _ leaf => leaf.path ∈ paths

def Settings.AgreeAt (leaves : Settings.Leaves) (a b : Settings) : Prop :=
  ∀ kind leaf, leaves kind leaf → leaf.of a = leaf.of b

/-- Two outcomes with the same failure, or without one and with settings that agree at some leaves; either
way the same words are left. -/
inductive Alike (leaves : Settings.Leaves) :
    Except Failure Settings × Words → Except Failure Settings × Words → Prop
  | failed (failure : Failure) (words : Words) : Alike leaves (.error failure, words) (.error failure, words)
  | settled {a b : Settings} (hagree : Settings.AgreeAt leaves a b) (words : Words) :
      Alike leaves (.ok a, words) (.ok b, words)

namespace SecretField

/-- Each secret is the text at its leaf. -/
theorem exists_leaf (field : SecretField) :
    ∃ leaf : Leaf (Shaped.shape Settings) .text, leaf.path = field.path ∧
      ∀ s, leaf.textOf s = field.get s := by
  have hleaf : ∃ leaf : Leaf (Shaped.shape Settings) .text,
      (Shaped.shape Settings).leafAt? field.path = some ⟨.text, leaf⟩ ∧
        ∀ s, leaf.textOf s = field.get s := by
    cases field <;> exact ⟨_, rfl, fun _ => rfl⟩
  obtain ⟨leaf, hpath, hget⟩ := hleaf
  exact ⟨leaf, Shape.path_of_leafAt? _ hpath, hget⟩

theorem get_eq_of_agreeAt {a b : Settings} (hagree : Settings.AgreeAt (Settings.leavesAt paths) a b)
    (field : SecretField) : field.get a = field.get b := by
  obtain ⟨leaf, hpath, hget⟩ := field.exists_leaf
  have hmem : leaf.path ∈ paths := hpath ▸ List.mem_map_of_mem field.mem_all
  rw [← hget, ← hget]
  exact hagree .text leaf hmem

end SecretField

/-! ### Confined stages -/

/-- The stage writes the leaves at some paths only, and what these hold decides whether it fails, what it
draws and what it writes. -/
structure Stage.Confined (answer : (q : Question) → q.Answer) (stage : Stage) (paths : List (List String)) :
    Prop where
  writes {s after : Settings} {words rest : Words}
    (hresult : stage.result answer ⟨s, words⟩ = (.ok after, rest)) : AgreeOff paths s after
  reads {a b : Settings} (hagree : Settings.AgreeAt (Settings.leavesAt paths) a b) (words : Words) :
    Alike (Settings.leavesAt paths) (stage.result answer ⟨a, words⟩) (stage.result answer ⟨b, words⟩)

/-- The stage never fails and draws nothing: it only changes the settings. -/
def Stage.Changes (stage : Stage) (change : Settings → Settings) : Prop :=
  ∀ answer session, stage.result answer session = (.ok (change session.settings), session.words)

namespace Stage.Confined

variable {answer : (q : Question) → q.Answer} {stage other : Stage}
  {paths otherPaths : List (List String)} {change : Settings → Settings}

/-- Settings that agree where the stage works go on agreeing wherever they do. -/
theorem alike (hstage : stage.Confined answer paths) {leaves : Settings.Leaves}
    (hleaves : ∀ kind leaf, leaf.path ∈ paths → leaves kind leaf) {a b : Settings}
    (hagree : Settings.AgreeAt leaves a b) (words : Words) :
    Alike leaves (stage.result answer ⟨a, words⟩) (stage.result answer ⟨b, words⟩) := by
  have hread := hstage.reads (fun kind leaf hpath => hagree kind leaf (hleaves kind leaf hpath)) words
  generalize hleft : stage.result answer ⟨a, words⟩ = left at hread ⊢
  generalize hright : stage.result answer ⟨b, words⟩ = right at hread ⊢
  cases hread with
  | failed failure rest => exact .failed failure rest
  | @settled after after' hafter rest =>
      refine .settled (fun kind leaf hleaf => ?_) rest
      by_cases hpath : leaf.path ∈ paths
      · exact hafter kind leaf hpath
      · calc
          leaf.of after = leaf.of a := (hstage.writes hleft kind leaf hpath).symm
          _ = leaf.of b := hagree kind leaf hleaf
          _ = leaf.of after' := hstage.writes hright kind leaf hpath

/-- A change of other leaves makes no difference to a stage, and the stage none to the change. -/
theorem result_change (hstage : stage.Confined answer paths) (hother : other.Confined answer otherPaths)
    (hchange : other.Changes change) (hdisjoint : paths.Disjoint otherPaths) (s : Settings) (words : Words) :
    stage.result answer ⟨change s, words⟩
      = ((stage.result answer ⟨s, words⟩).1.map change, (stage.result answer ⟨s, words⟩).2) := by
  have hwrites (t : Settings) : AgreeOff otherPaths t (change t) :=
    hother.writes (hchange answer ⟨t, words⟩)
  have hagree : Settings.AgreeAt (Settings.leavesAt paths) (change s) s := fun kind leaf hpath =>
    (hwrites s kind leaf (hdisjoint hpath)).symm
  have hread := hstage.reads hagree words
  generalize hleft : stage.result answer ⟨change s, words⟩ = left at hread ⊢
  generalize hright : stage.result answer ⟨s, words⟩ = right at hread ⊢
  cases hread with
  | failed failure rest => rfl
  | @settled changed after hafter rest =>
      have hkept : Settings.AgreeAt (Settings.leavesAt otherPaths) s after := fun kind leaf hpath =>
        hstage.writes hright kind leaf fun hmem => hdisjoint hmem hpath
      have hsame := hother.reads hkept words
      rw [hchange answer ⟨s, words⟩, hchange answer ⟨after, words⟩] at hsame
      have heq : changed = change after := by
        refine Leaf.ext_of fun kind leaf => ?_
        by_cases hpath : leaf.path ∈ paths
        · exact (hafter kind leaf hpath).trans (hwrites after kind leaf (hdisjoint hpath))
        · rw [← hstage.writes hleft kind leaf hpath]
          by_cases hother' : leaf.path ∈ otherPaths
          · cases hsame with
            | settled hchanged => exact hchanged kind leaf hother'
          · calc
              leaf.of (change s) = leaf.of s := (hwrites s kind leaf hother').symm
              _ = leaf.of after := hstage.writes hright kind leaf hpath
              _ = leaf.of (change after) := hwrites after kind leaf hother'
      rw [heq]
      rfl

end Stage.Confined

/-! ### Changes that pin texts and flags -/

/-- The change puts some texts where others stood and turns on some flags, by the path of the leaf. -/
def Settings.Pins (change : Settings → Settings) (text? : List String → Option String)
    (on : List String → Bool) : Prop :=
  ∀ s kind (leaf : Leaf (Shaped.shape Settings) kind),
    leaf.of (change s) = kind.change (text? leaf.path).getD (· || on leaf.path) (leaf.of s)

theorem Stage.confined_of_pins {stage : Stage} {change : Settings → Settings}
    (hchange : stage.Changes change) {text? : List String → Option String} {on : List String → Bool}
    (hpins : Settings.Pins change text? on) {paths : List (List String)}
    (hpaths : ∀ path, path ∉ paths → text? path = none ∧ on path = false)
    (answer : (q : Question) → q.Answer) : stage.Confined answer paths where
  writes {s after words rest} hresult := by
    rw [hchange] at hresult
    cases hresult
    intro kind leaf hpath
    obtain ⟨htext, hon⟩ := hpaths leaf.path hpath
    rw [hpins, htext, hon]
    cases kind with
    | flag => exact (Bool.or_false _).symm
    | text | integer | texts | table | record => rfl
  reads {a b} hagree words := by
    rw [hchange, hchange]
    refine .settled (fun kind leaf hpath => ?_) words
    rw [hpins, hpins, hagree kind leaf hpath]

/-! ### The three stages -/

namespace Settings

/-- The text that entering a namespace puts at a path. -/
def namespaceText? (namespaceName : String) (path : List String) : Option String :=
  if namespacePaths.contains path then some namespaceName else none

theorem getD_namespaceText? (namespaceName : String) (path : List String) (held : String) :
    (namespaceText? namespaceName path).getD held
      = if path ∈ namespacePaths then namespaceName else held := by
  simp only [namespaceText?, List.contains_iff_mem]
  split <;> rfl

theorem namespaceText?_eq_none {path : List String} (hpath : path ∉ namespacePaths)
    (namespaceName : String) : namespaceText? namespaceName path = none := by
  simp only [namespaceText?, List.contains_iff_mem, if_neg hpath]

theorem pins_inNamespace (namespaceName : String) :
    Pins (inNamespace namespaceName) (namespaceText? namespaceName) fun _ => false := by
  intro s kind leaf
  rw [of_inNamespace, funext (getD_namespaceText? namespaceName leaf.path)]
  generalize leaf.of s = held
  cases kind with
  | flag => exact (Bool.or_false held).symm
  | text | integer | texts | table | record => rfl

end Settings

namespace Environment

def paths : List (List String) := (textVariables ++ flagVariables).map Prod.fst

theorem pins_applyEnvironment (env : Environment) :
    Settings.Pins (Settings.applyEnvironment env) env.text? env.turnsOn := fun s =>
  of_applyEnvironment s env

theorem text?_eq_none {path : List String} (hpath : path ∉ paths) (env : Environment) :
    env.text? path = none ∧ env.turnsOn path = false := by
  rw [paths, List.map_append, List.mem_append, not_or] at hpath
  exact ⟨env.text?_of_not_mem hpath.1, env.turnsOn_of_not_mem hpath.2⟩

end Environment

namespace Stage

theorem changes_enter (namespaceName : String) :
    Changes (.enter namespaceName) (Settings.inNamespace namespaceName) := fun _ _ => rfl

theorem changes_environment (env : Environment) :
    Changes (.environment env) (Settings.applyEnvironment env) := fun _ _ => rfl

variable (answer : (q : Question) → q.Answer)

theorem confined_enter (namespaceName : String) :
    Confined answer (.enter namespaceName) Settings.namespacePaths :=
  confined_of_pins (changes_enter namespaceName) (Settings.pins_inNamespace namespaceName)
    (fun _ hpath => ⟨Settings.namespaceText?_eq_none hpath namespaceName, rfl⟩) answer

theorem confined_environment (env : Environment) :
    Confined answer (.environment env) Environment.paths :=
  confined_of_pins (changes_environment env) env.pins_applyEnvironment
    (fun _ hpath => env.text?_eq_none hpath) answer

theorem confined_provision (store : Bool) (namespaceName : String) :
    Confined answer (.provision store namespaceName) SecretField.paths where
  writes {s after words rest} hresult := by
    rw [result, Resolution.value_provision] at hresult
    cases hstored : Reach.stored { store } namespaceName answer with
    | error failure =>
        rw [hstored] at hresult
        cases hresult
    | ok stored =>
        simp only [hstored, Prod.mk.injEq, Except.ok.injEq] at hresult
        rw [← hresult.1, SecretField.agreeOff_iff_fill fun _ => "", Settings.provision_eq_fill,
          SecretField.fill_fill]
  reads {a b} hagree words := by
    have hsecrets := SecretField.get_eq_of_agreeAt hagree
    rw [result, result, Resolution.value_provision, Resolution.value_provision]
    cases Reach.stored { store } namespaceName answer with
    | error failure => exact .failed failure words
    | ok stored =>
        dsimp only
        rw [Settings.snd_provision_congr hsecrets, Settings.provision_eq_fill, Settings.provision_eq_fill,
          Settings.provisionedSecret_congr hsecrets]
        refine .settled (fun kind leaf hpath => ?_) _
        cases eq_text_of_mem_paths kind leaf hpath
        obtain ⟨field, hfield⟩ := SecretField.exists_at?_eq_some hpath
        rw [of_fill, of_fill, hfield]
        rfl

end Stage

end OperatorConfig
