import OperatorConfig.Proofs.Inquiry
import OperatorConfig.Proofs.Secret.Provision
import OperatorConfig.Proofs.Settings.Stages
import OperatorConfig.Proofs.Upgrade.Decision

/-!
# The outcome of a resolution

A resolution comes to one equation: what is stored is asked for, the secrets are provisioned, the stages
follow each other, and the decision is put into the settings. Everything about its outcome is proved from
this equation, without the computation that asks.
-/

namespace OperatorConfig

/-- What the store says; without a store nothing is stored. -/
def Reach.stored (reach : Reach) (namespaceName : String) (answer : (q : Question) → q.Answer) :
    Except Failure (Option Table) :=
  if reach.store then answer (.secrets Resolution.secretsName namespaceName) else .ok none

namespace Resolution

variable (reach : Reach) (namespaceName : String) (specification : Specification)
  (env : Environment) (defaults : Settings) (words : Words) (answer : (q : Question) → q.Answer)

/-- The defaults in the namespace, with their secrets, and the words that are left. -/
def provisioned (stored : Option Table) : Settings × Words :=
  (defaults.inNamespace namespaceName).provision stored words

/-- The settings before the external database: what the environment pins and the specification
overrides, over the defaults with their secrets. -/
def cascaded (stored : Option Table) : Settings :=
  Schema.merge
    ((provisioned namespaceName defaults words stored).1.applyEnvironment env)
    specification.settings

/-- The resolution of settings that have passed all stages. -/
def concluded (s : Settings) : Resolution :=
  let upgrade := (decide reach namespaceName s).value answer
  ⟨s.withDecision upgrade, upgrade⟩

/-- The outcome of a resolution, without the words that it leaves. -/
def outcome : Except Failure Resolution :=
  ((resolve reach namespaceName specification env defaults words).value answer).1

/-! ### The decision -/

section Decision

variable {s : Settings}

/-- An external database is not the operator's to upgrade, whatever is known of it. -/
theorem decide_of_external (hexternal : s.platform.components.database.externalUrl ≠ "") :
    decide reach namespaceName s = pure .noUpgrade :=
  if_pos ((Upgrade.usesExternalDatabase_eq_true_iff s).mpr hexternal)

theorem decide_of_unreachable (hmanaged : s.platform.components.database.externalUrl = "")
    (hdatabase : reach.database = false) :
    decide reach namespaceName s = pure (.undetermined "no cluster access to probe the database") := by
  rw [decide, (Upgrade.usesExternalDatabase_eq_false_iff s).mpr hmanaged, hdatabase]
  rfl

theorem decide_of_managed (hmanaged : s.platform.components.database.externalUrl = "")
    (hdatabase : reach.database = true) :
    decide reach namespaceName s = Upgrade.decide s namespaceName := by
  rw [decide, (Upgrade.usesExternalDatabase_eq_false_iff s).mpr hmanaged, hdatabase]
  rfl

end Decision

/-! ### The stages -/

theorem value_provision (s : Settings) :
    (provision reach namespaceName s words).value answer
      = match reach.stored namespaceName answer with
        | .error failure => (.error failure, words)
        | .ok stored => ((.ok (s.provision stored words).1), (s.provision stored words).2) := by
  unfold provision Reach.stored
  cases reach.store with
  | false => simp
  | true =>
      simp only [if_true, Inquiry.bind_eq_bind, Inquiry.value_bind, Operator.value_secrets]
      cases answer (.secrets secretsName namespaceName) with
      | error failure => rfl
      | ok stored => simp

theorem value_conclude (s : Settings) :
    (conclude reach namespaceName s).value answer = concluded reach namespaceName answer s := by
  simp [conclude, concluded]

theorem override_eq (s : Settings) :
    override env specification s
      = (Schema.merge (s.applyEnvironment env) specification.settings).applyExternalDatabase := by
  rw [override, Settings.applySpecification_eq]
  rfl

/-- What comes of a resolution, and the words that it leaves. -/
theorem value_resolve :
    (resolve reach namespaceName specification env defaults words).value answer
      = match reach.stored namespaceName answer with
        | .error failure => (.error failure, words)
        | .ok stored =>
            ((cascaded namespaceName specification env defaults words stored).applyExternalDatabase.map
                (concluded reach namespaceName answer),
              (provisioned namespaceName defaults words stored).2) := by
  simp only [resolve, Inquiry.bind_eq_bind, Inquiry.value_bind, value_provision]
  cases reach.stored namespaceName answer with
  | error failure => rfl
  | ok stored =>
      have hoverride :
          override env specification ((defaults.inNamespace namespaceName).provision stored words).1
            = (cascaded namespaceName specification env defaults words stored).applyExternalDatabase :=
        override_eq specification env _
      simp only [Except.bind, hoverride]
      cases (cascaded namespaceName specification env defaults words stored).applyExternalDatabase with
      | error failure => rfl
      | ok s => simp [value_conclude, Except.map, provisioned]

theorem outcome_of_stored {stored : Option Table}
    (hstored : reach.stored namespaceName answer = .ok stored) :
    outcome reach namespaceName specification env defaults words answer
      = (cascaded namespaceName specification env defaults words stored).externalUrl?.map fun url? =>
          concluded reach namespaceName answer
            ((cascaded namespaceName specification env defaults words stored).withExternal url?) := by
  simp only [outcome, value_resolve, hstored, Settings.applyExternalDatabase_eq]
  cases (cascaded namespaceName specification env defaults words stored).externalUrl? <;> rfl

section

variable {reach : Reach} {namespaceName : String} {specification : Specification}
  {env : Environment} {defaults : Settings} {words : Words} {answer : (q : Question) → q.Answer}

/-- A resolution that has passed all stages succeeds. -/
theorem value_resolve_of_externalUrl {stored : Option Table} {url? : Option Url}
    (hstored : reach.stored namespaceName answer = .ok stored)
    (hurl : (cascaded namespaceName specification env defaults words stored).externalUrl?
      = .ok url?) :
    (resolve reach namespaceName specification env defaults words).value answer
      = (.ok (concluded reach namespaceName answer
          ((cascaded namespaceName specification env defaults words stored).withExternal url?)),
        (provisioned namespaceName defaults words stored).2) := by
  simp only [value_resolve, hstored, Settings.applyExternalDatabase_eq, hurl]
  rfl

/-- A resolution that succeeds has passed all stages. -/
theorem resolve_ok {resolution : Resolution} {rest : Words}
    (hrun : (resolve reach namespaceName specification env defaults words).value answer
      = (.ok resolution, rest)) :
    ∃ stored url?, reach.stored namespaceName answer = .ok stored ∧
      (cascaded namespaceName specification env defaults words stored).externalUrl? = .ok url? ∧
      resolution = concluded reach namespaceName answer
        ((cascaded namespaceName specification env defaults words stored).withExternal url?) := by
  cases hstored : reach.stored namespaceName answer with
  | error failure => simp [value_resolve, hstored] at hrun
  | ok stored =>
      cases hurl : (cascaded namespaceName specification env defaults words stored).externalUrl? with
      | error failure =>
          simp [value_resolve, hstored, Settings.applyExternalDatabase_eq, hurl, Except.map] at hrun
      | ok url? =>
          rw [value_resolve_of_externalUrl hstored hurl, Prod.mk.injEq, Except.ok.injEq] at hrun
          exact ⟨stored, url?, rfl, hurl, hrun.1.symm⟩

end

end Resolution

end OperatorConfig
