import Mathlib.Data.List.Chain
import Mathlib.Data.List.Pairwise
import OperatorConfig.Proofs.Resolution.Secrets

/-!
# Secrets over repeated resolutions

An installation is resolved again and again, each time with its own defaults, environment, specification,
database and random words. After a pass that succeeds the resolved secrets are written back to the store.
The first such pass settles every secret: each later one resolves it to what the specification sets, or
else to what the pass before it resolved.
-/

namespace OperatorConfig

/-- What a pass works with, apart from what is stored. -/
structure Pass where
  defaults : Settings
  environment : Environment
  specification : Specification
  /-- Whether there is access to the database. -/
  database : Bool
  answer : (q : Question) → q.Answer
  words : Words

namespace Pass

def outcome (namespaceName : String) (stored : Option Table) (pass : Pass) :
    Except Failure Resolution :=
  Resolution.outcome { store := true, database := pass.database } namespaceName pass.specification
    pass.environment pass.defaults pass.words (Operator.storing stored pass.answer)

/-- The passes that succeed one after another, each with its resolution, from what is stored at first. A
pass that succeeds writes the resolved secrets back, and a pass that fails changes nothing. -/
def history (namespaceName : String) : Option Table → List Pass → List (Pass × Resolution)
  | _, [] => []
  | stored, pass :: passes =>
      match pass.outcome namespaceName stored with
      | .ok resolution =>
          (pass, resolution) ::
            history namespaceName (some (Bundle.written stored resolution.settings)) passes
      | .error _ => history namespaceName stored passes

/-- What is stored are the secrets of the settings, none of them empty. -/
def Holds (stored : Option Table) (s : Settings) : Prop :=
  ∀ field : SecretField,
    (Bundle.ofData stored).get? field.name = some (field.get s) ∧ field.get s ≠ ""

/-- The later of two passes keeps the secrets of the earlier one, except for those that are overridden. -/
def Keeps (earlier later : Pass × Resolution) : Prop :=
  ∀ field : SecretField,
    field.get later.2.settings
      = if field.get later.1.specification.settings ≠ "" then
          field.get later.1.specification.settings
        else field.get earlier.2.settings

variable {namespaceName : String} {stored : Option Table} {pass : Pass} {resolution : Resolution}

theorem get_outcome (houtcome : pass.outcome namespaceName stored = .ok resolution)
    (field : SecretField) :
    field.get resolution.settings
      = if field.get pass.specification.settings ≠ "" then field.get pass.specification.settings
        else pass.defaults.provisionedSecret stored pass.words field := by
  obtain ⟨told, htold, hget⟩ := Resolution.get_resolve_ok (Prod.ext houtcome rfl)
  cases htold
  exact hget field

theorem get_outcome_ne_empty (houtcome : pass.outcome namespaceName stored = .ok resolution)
    (field : SecretField) : field.get resolution.settings ≠ "" :=
  Resolution.get_resolve_ne_empty (Prod.ext houtcome rfl) field

/-- A pass that succeeds leaves its secrets in the store. -/
theorem holds_written (houtcome : pass.outcome namespaceName stored = .ok resolution) :
    Holds (some (Bundle.written stored resolution.settings)) resolution.settings := fun field =>
  ⟨Bundle.get?_ofData_written stored resolution.settings field, get_outcome_ne_empty houtcome field⟩

/-- A pass over stored secrets resolves each of them to the overriding one or to itself. -/
theorem keeps_of_holds {earlier : Pass × Resolution} (hholds : Holds stored earlier.2.settings)
    (houtcome : pass.outcome namespaceName stored = .ok resolution) :
    Keeps earlier (pass, resolution) := fun field => by
  obtain ⟨hstored, hvalue⟩ := hholds field
  rw [get_outcome houtcome, Settings.provisionedSecret_of_get? hstored hvalue]

/-- Over stored secrets every further pass keeps them. -/
theorem isChain_of_holds {earlier : Pass × Resolution} (hholds : Holds stored earlier.2.settings)
    (passes : List Pass) : (earlier :: history namespaceName stored passes).IsChain Keeps := by
  induction passes generalizing earlier stored with
  | nil => exact List.isChain_singleton earlier
  | cons pass passes ih =>
      unfold history
      split
      next resolution houtcome =>
        exact List.isChain_cons_cons.mpr
          ⟨keeps_of_holds hholds houtcome, ih (holds_written houtcome)⟩
      next => exact ih hholds

theorem isChain_history (namespaceName : String) (stored : Option Table) (passes : List Pass) :
    (history namespaceName stored passes).IsChain Keeps := by
  induction passes generalizing stored with
  | nil => exact List.isChain_nil
  | cons pass passes ih =>
      unfold history
      split
      next resolution houtcome => exact isChain_of_holds (holds_written houtcome) passes
      next => exact ih stored

theorem ne_empty_of_mem_history {entry : Pass × Resolution} {passes : List Pass}
    (hmem : entry ∈ history namespaceName stored passes) (field : SecretField) :
    field.get entry.2.settings ≠ "" := by
  induction passes generalizing stored with
  | nil => cases hmem
  | cons pass passes ih =>
      unfold history at hmem
      split at hmem
      next resolution houtcome =>
        rcases List.mem_cons.mp hmem with rfl | hmem
        · exact get_outcome_ne_empty houtcome field
        · exact ih hmem
      next => exact ih hmem

/-- A secret that no pass overrides is the same after all of them. -/
theorem get_eq_of_not_overridden {entries : List (Pass × Resolution)} (hchain : entries.IsChain Keeps)
    (field : SecretField)
    (hunset : ∀ entry ∈ entries, field.get entry.1.specification.settings = "")
    {earlier later : Pass × Resolution} (hearlier : earlier ∈ entries) (hlater : later ∈ entries) :
    field.get later.2.settings = field.get earlier.2.settings := by
  have hvalues : (entries.map fun entry => field.get entry.2.settings).IsChain Eq := by
    refine (List.isChain_map _).mpr (hchain.imp_of_mem_imp fun a b _ hb hkeeps => ?_)
    rw [hkeeps field, if_neg (not_not.mpr (hunset b hb))]
  exact hvalues.pairwise.forall_of_forall (fun _ _ => rfl) (List.mem_map_of_mem hlater)
    (List.mem_map_of_mem hearlier)

/-- After every pass that succeeds there are all seven secrets, and each of them is the one that the
specification of the pass sets, or else the one of the successful pass before. So a secret that is never
set, such as that of the OAuth client, never changes again. -/
theorem history_secrets (namespaceName : String) (stored : Option Table) (passes : List Pass) :
    (∀ entry ∈ history namespaceName stored passes, ∀ field : SecretField,
      field.get entry.2.settings ≠ "") ∧
    (history namespaceName stored passes).IsChain (fun earlier later => ∀ field : SecretField,
      field.get later.2.settings
        = if field.get later.1.specification.settings ≠ "" then
            field.get later.1.specification.settings
          else field.get earlier.2.settings) ∧
    (∀ field : SecretField,
      (∀ entry ∈ history namespaceName stored passes,
        field.get entry.1.specification.settings = "") →
      ∀ earlier ∈ history namespaceName stored passes,
        ∀ later ∈ history namespaceName stored passes,
          field.get later.2.settings = field.get earlier.2.settings) ∧
    ∀ earlier ∈ history namespaceName stored passes,
      ∀ later ∈ history namespaceName stored passes,
        later.2.settings.oauthClientSecret = earlier.2.settings.oauthClientSecret := by
  have hchain := isChain_history namespaceName stored passes
  refine ⟨fun entry => ne_empty_of_mem_history, hchain, fun field hunset earlier hearlier later =>
    get_eq_of_not_overridden hchain field hunset hearlier, fun earlier hearlier later hlater => ?_⟩
  exact get_eq_of_not_overridden hchain .oauthClientSecret (fun _ _ => rfl) hearlier hlater

def holding (text : String) : Pass where
  defaults := SecretField.fill (fun _ => text) {}
  environment := ⟨fun _ => ""⟩
  specification := {}
  database := false
  answer := Operator.nothing
  words := ⟨.constantly 0 (by decide), 0⟩

example : (history "fuse" none [holding "first", holding "second"]).map
    (fun entry => entry.2.settings.oauthClientSecret) = ["first", "first"] := by
  decide +kernel

end Pass

end OperatorConfig
