import OperatorConfig.CommandLine.Run
import OperatorConfig.Proofs.Resolution.Ending
import OperatorConfig.Proofs.Resolution.Secrets

/-!
# Nothing shown depends on a secret

Two resolutions that differ in their secrets only (those of the defaults, of the specification and of the
store, and the words that others are generated from) come to the same end, and what is shown of them is
the same. Each stage leads settings that agree but for the secrets to settings that do, and in the end no
secret is empty, so that the same mark stands for each.
-/

namespace OperatorConfig

/-! ### Stages and other secrets -/

namespace SecretField

variable (values : SecretField → String)

theorem fill_inNamespace (namespaceName : String) (s : Settings) :
    fill values (s.inNamespace namespaceName) = (fill values s).inNamespace namespaceName := rfl

theorem fill_applyEnvironment (env : Environment) (s : Settings) :
    fill values (s.applyEnvironment env) = (fill values s).applyEnvironment env := rfl

theorem fill_merge (base upper : Settings) :
    fill values (Schema.merge base upper)
      = fill values (Schema.merge (fill values base) (fill values upper)) := rfl

theorem fill_withExternal (url? : Option Url) (s : Settings) :
    fill values (s.withExternal url?) = (fill values s).withExternal url? := rfl

theorem fill_withDecision (decision : Decision) (s : Settings) :
    fill values (s.withDecision decision) = (fill values s).withDecision decision := rfl

variable {values}

theorem externalUrl?_eq_of_fill {s other : Settings} (hfill : fill values s = fill values other) :
    s.externalUrl? = other.externalUrl? := by
  calc
    s.externalUrl? = (fill values s).externalUrl? := rfl
    _ = (fill values other).externalUrl? := by rw [hfill]
    _ = other.externalUrl? := rfl

theorem usesExternalDatabase_eq_of_fill {s other : Settings}
    (hfill : fill values s = fill values other) :
    s.usesExternalDatabase = other.usesExternalDatabase := by
  calc
    s.usesExternalDatabase = (fill values s).usesExternalDatabase := rfl
    _ = (fill values other).usesExternalDatabase := by rw [hfill]
    _ = other.usesExternalDatabase := rfl

end SecretField

/-! ### Redaction -/

namespace Settings

/-- Where no secret is empty the same mark stands for each. -/
theorem redacted_of_ne_empty {s : Settings} (h : ∀ field : SecretField, field.get s ≠ "") :
    s.redacted = SecretField.fill (fun _ => redactionMark) s := by
  rw [redacted_eq_fill]
  exact congrArg (SecretField.fill · s) (funext fun field => if_neg (h field))

theorem agreeOff_redacted (s : Settings) : Schema.AgreeOff SecretField.paths s.redacted s := by
  rw [SecretField.agreeOff_iff_fill fun _ => "", redacted_eq_fill, SecretField.fill_fill]

theorem redacted_redacted (s : Settings) : s.redacted.redacted = s.redacted := by
  refine SecretField.eq_of_fill (fun _ => "") ?_ fun field => ?_
  · rw [redacted_eq_fill s.redacted, SecretField.fill_fill]
  · rw [get_redacted, get_redacted, redact_redact]

end Settings

/-! ### The database -/

namespace Resolution

/-- Settings that agree but for the secrets are decided about alike, each over its own connection. -/
theorem value_decide_of_fill {values : SecretField → String} {s other : Settings}
    (hfill : SecretField.fill values s = SecretField.fill values other) {reach reach' : Reach}
    (hdatabase : reach.database = reach'.database) {namespaceName : String}
    {answer answer' : (q : Question) → q.Answer}
    (hsame : Upgrade.SameDatabase answer answer' ((decide reach namespaceName s).asked answer)
      ((decide reach' namespaceName other).asked answer')) :
    (decide reach namespaceName s).value answer
      = (decide reach' namespaceName other).value answer' := by
  have hexternal := SecretField.usesExternalDatabase_eq_of_fill hfill
  cases hother : other.usesExternalDatabase with
  | true => simp [decide, hexternal, hother]
  | false =>
      cases hreached : reach'.database with
      | false => simp [decide, hexternal, hother, hdatabase, hreached]
      | true =>
          simp only [decide, hexternal, hother, hdatabase, hreached, Bool.false_eq_true, if_false,
            if_true] at hsame ⊢
          exact Upgrade.value_decide_congr hexternal hsame

/-! ### Two resolutions -/

def visible (resolution : Resolution) : Decision × Settings :=
  (resolution.upgrade, resolution.settings.redacted)

section

variable (namespaceName : String) (specification : Specification) (env : Environment)
  (defaults : Settings) (words : Words) (stored : Option Table)

theorem fill_cascaded (values : SecretField → String) :
    SecretField.fill values (cascaded namespaceName specification env defaults words stored)
      = SecretField.fill values (Schema.merge
          (((SecretField.fill values defaults).inNamespace namespaceName).applyEnvironment env)
          (SecretField.fill values specification.settings)) := by
  rw [cascaded, SecretField.fill_merge, SecretField.fill_applyEnvironment, provisioned,
    Settings.provision_eq_fill, SecretField.fill_fill, SecretField.fill_inNamespace]

/-- A resolution without empty secrets shows the settings with a mark for each. -/
theorem redacted_concluded (reach : Reach) (answer : (q : Question) → q.Answer) {s : Settings}
    (hs : ∀ field : SecretField, field.get s ≠ "") (url? : Option Url) :
    (concluded reach namespaceName answer (s.withExternal url?)).settings.redacted
      = (SecretField.fill (fun _ => redactionMark) (s.withExternal url?)).withDecision
          (concluded reach namespaceName answer (s.withExternal url?)).upgrade := by
  refine (Settings.redacted_of_ne_empty fun field => ?_).trans (SecretField.fill_withDecision _ _ _)
  rw [get_concluded]
  exact hs field

/-- Resolutions of settings that agree but for the secrets, none of which is empty, show the same. -/
theorem visible_concluded {values : SecretField → String} {s other : Settings}
    (hfill : SecretField.fill values s = SecretField.fill values other)
    (hs : ∀ field : SecretField, field.get s ≠ "") (hother : ∀ field : SecretField, field.get other ≠ "")
    {reach reach' : Reach} (hdatabase : reach.database = reach'.database)
    {answer answer' : (q : Question) → q.Answer} (url? : Option Url)
    (hsame : Upgrade.SameDatabase answer answer'
      ((decide reach namespaceName (s.withExternal url?)).asked answer)
      ((decide reach' namespaceName (other.withExternal url?)).asked answer')) :
    (concluded reach namespaceName answer (s.withExternal url?)).visible
      = (concluded reach' namespaceName answer' (other.withExternal url?)).visible := by
  have hexternal : SecretField.fill values (s.withExternal url?)
      = SecretField.fill values (other.withExternal url?) := by
    rw [SecretField.fill_withExternal, hfill, SecretField.fill_withExternal]
  have hupgrade : (concluded reach namespaceName answer (s.withExternal url?)).upgrade
      = (concluded reach' namespaceName answer' (other.withExternal url?)).upgrade :=
    value_decide_of_fill hexternal hdatabase hsame
  rw [visible, visible, redacted_concluded namespaceName reach answer hs,
    redacted_concluded namespaceName reach' answer' hother, hupgrade,
    SecretField.fill_congr hexternal]

theorem get_cascaded_ne_empty (field : SecretField) :
    field.get (cascaded namespaceName specification env defaults words stored) ≠ "" := by
  rw [get_cascaded]
  split
  next hset => exact hset
  next => exact Settings.provisionedSecret_ne_empty stored defaults words field

end

section

variable {reach reach' : Reach} {namespaceName : String}
  {specification specification' : Specification} (env : Environment) {defaults defaults' : Settings}
  (words words' : Words) {answer answer' : (q : Question) → q.Answer} {stored stored' : Option Table}

/-- What is shown of a resolution, or its failure, depends on no secret. -/
theorem map_visible_outcome (hdatabase : reach.database = reach'.database)
    (hdefaults : Schema.AgreeOff SecretField.paths defaults defaults')
    (hspecification : Schema.AgreeOff SecretField.paths specification.settings specification'.settings)
    (hstored : reach.stored namespaceName answer = .ok stored)
    (hstored' : reach'.stored namespaceName answer' = .ok stored')
    (hsame : Upgrade.SameDatabase answer answer'
      ((resolve reach namespaceName specification env defaults words).asked answer)
      ((resolve reach' namespaceName specification' env defaults' words').asked answer')) :
    (outcome reach namespaceName specification env defaults words answer).map visible
      = (outcome reach' namespaceName specification' env defaults' words' answer').map visible := by
  have hfill : SecretField.fill (fun _ => "")
        (cascaded namespaceName specification env defaults words stored)
      = SecretField.fill (fun _ => "")
        (cascaded namespaceName specification' env defaults' words' stored') := by
    refine (fill_cascaded namespaceName specification env defaults words stored _).trans ?_
    rw [(SecretField.agreeOff_iff_fill _ _ _).mp hdefaults,
      (SecretField.agreeOff_iff_fill _ _ _).mp hspecification]
    exact (fill_cascaded namespaceName specification' env defaults' words' stored' _).symm
  have hs := get_cascaded_ne_empty namespaceName specification env defaults words stored
  have hother := get_cascaded_ne_empty namespaceName specification' env defaults' words' stored'
  have hasked := asked_resolve_of_externalUrl reach namespaceName specification env defaults words
    answer hstored
  have hasked' := asked_resolve_of_externalUrl reach' namespaceName specification' env defaults' words'
    answer' hstored'
  rw [outcome_of_stored _ _ _ _ _ _ _ hstored, outcome_of_stored _ _ _ _ _ _ _ hstored']
  generalize cascaded namespaceName specification env defaults words stored = s at *
  generalize cascaded namespaceName specification' env defaults' words' stored' = other at *
  rw [SecretField.externalUrl?_eq_of_fill hfill] at hasked ⊢
  cases hurl : other.externalUrl? with
  | error failure => rfl
  | ok url? =>
      rw [hasked url? hurl, hasked' url? hurl] at hsame
      exact congrArg Except.ok (visible_concluded namespaceName hfill hs hother hdatabase url?
        (hsame.mono (List.subset_append_right _ _) (List.subset_append_right _ _)))

/-- Two resolutions that differ in secrets only succeed together, with the same decision, the same
redacted settings, the same document in either format and the same status, or fail alike. Redaction puts
its mark for every secret with a value, changes nothing else, and is done once and for all. -/
theorem resolve_conceals_secrets (hdatabase : reach.database = reach'.database)
    (hdefaults : Schema.AgreeOff SecretField.paths defaults defaults')
    (hspecification : Schema.AgreeOff SecretField.paths specification.settings specification'.settings)
    (hstored : reach.stored namespaceName answer = .ok stored)
    (hstored' : reach'.stored namespaceName answer' = .ok stored')
    (hsame : Upgrade.SameDatabase answer answer'
      ((resolve reach namespaceName specification env defaults words).asked answer)
      ((resolve reach' namespaceName specification' env defaults' words').asked answer')) :
    ((∃ resolution,
        outcome reach namespaceName specification env defaults words answer = .ok resolution) ↔
      ∃ resolution',
        outcome reach' namespaceName specification' env defaults' words' answer'
          = .ok resolution') ∧
    (∀ resolution resolution',
      outcome reach namespaceName specification env defaults words answer = .ok resolution →
      outcome reach' namespaceName specification' env defaults' words' answer' = .ok resolution' →
        resolution.upgrade = resolution'.upgrade ∧
        resolution.settings.redacted = resolution'.settings.redacted ∧
        CommandLine.shown resolution = CommandLine.shown resolution' ∧
        ∀ output : CommandLine.Output,
          output.print (CommandLine.shown resolution)
            = output.print (CommandLine.shown resolution')) ∧
    Status.ofOutcome (outcome reach namespaceName specification env defaults words answer)
      = Status.ofOutcome (outcome reach' namespaceName specification' env defaults' words' answer') ∧
    (∀ failure failure',
      outcome reach namespaceName specification env defaults words answer = .error failure →
      outcome reach' namespaceName specification' env defaults' words' answer' = .error failure' →
        failure = failure') ∧
    ∀ s : Settings, Schema.AgreeOff SecretField.paths s.redacted s ∧
      (∀ field : SecretField,
        field.get s.redacted = if field.get s = "" then "" else redactionMark) ∧
      s.redacted.redacted = s.redacted := by
  have hvisible := map_visible_outcome env words words' hdatabase hdefaults hspecification hstored
    hstored' hsame
  have hredaction (s : Settings) := And.intro s.agreeOff_redacted
    (And.intro (fun field => (s.get_redacted field).trans (redact_eq _)) s.redacted_redacted)
  generalize outcome reach namespaceName specification env defaults words answer = o at *
  generalize outcome reach' namespaceName specification' env defaults' words' answer' = o' at *
  cases o with
  | error failure =>
      cases o' with
      | error failure' =>
          cases hvisible
          refine ⟨by simp, by simp, rfl, ?_, hredaction⟩
          intro _ _ h h'
          exact Except.error.inj (h.symm.trans h')
      | ok resolution' => cases hvisible
  | ok resolution =>
      cases o' with
      | error failure' => cases hvisible
      | ok resolution' =>
          simp only [Except.map, visible, Except.ok.injEq, Prod.mk.injEq] at hvisible
          obtain ⟨hupgrade, hredacted⟩ := hvisible
          have hshown : CommandLine.shown resolution = CommandLine.shown resolution' := by
            rw [CommandLine.shown, CommandLine.shown, hupgrade, hredacted]
          have hstatus := congrArg (fun upgrade => Status.ofDecision (.ok upgrade)) hupgrade
          refine ⟨by simp, ?_, hstatus, by simp, hredaction⟩
          intro _ _ h h'
          cases h
          cases h'
          exact ⟨hupgrade, hredacted, hshown, fun output => by rw [hshown]⟩

end

theorem resolve_conceals_secrets_generated :
    let env : Environment := ⟨fun _ => ""⟩
    let defaults : Settings := SecretField.fill (fun _ => "held") {}
    let specification : Specification := ⟨{ components := { database := { password := "set" } } }⟩
    let stored := Table.empty.insert "params" "OAUTH_COOKIE_SECRET=kept"
    ∃ resolution resolution',
      outcome {} "fuse" {} env defaults ⟨.constantly 0 (by decide), 0⟩
        (Operator.guarding "held" Operator.nothing) = .ok resolution ∧
      outcome {} "fuse" specification env {} ⟨.constantly 1 (by decide), 0⟩
        (Operator.guarding "set" (Operator.storing (some stored) Operator.nothing))
          = .ok resolution' ∧
      resolution.settings.platform.components.database.password = "held" ∧
      resolution'.settings.platform.components.database.password = "set" ∧
      CommandLine.shown resolution = CommandLine.shown resolution' := by
  intro env defaults specification stored
  have hnothing : Reach.stored {} "fuse" (Operator.guarding "held" Operator.nothing) = .ok none := rfl
  have hstored : Reach.stored {} "fuse"
      (Operator.guarding "set" (Operator.storing (some stored) Operator.nothing)) = .ok (some stored) :=
    rfl
  have hheld := outcome_of_stored {} "fuse" {} env defaults ⟨.constantly 0 (by decide), 0⟩ _ hnothing
  have hset := outcome_of_stored {} "fuse" specification env {} ⟨.constantly 1 (by decide), 0⟩ _ hstored
  rw [(Settings.externalUrl?_eq_none_iff _).mpr rfl] at hheld hset
  have hdefaults : Schema.AgreeOff SecretField.paths defaults {} :=
    (SecretField.agreeOff_iff_fill (fun _ => "") _ _).mpr rfl
  have hspecification : Schema.AgreeOff SecretField.paths (Specification.settings {})
      specification.settings :=
    (SecretField.agreeOff_iff_fill (fun _ => "") _ _).mpr rfl
  -- Each database accepts the password of its own resolution and would refuse that of the other.
  have hsame : Upgrade.SameDatabase (Operator.guarding "held" Operator.nothing)
      (Operator.guarding "set" (Operator.storing (some stored) Operator.nothing)) _ _ :=
    { containers := fun _ _ _ => rfl
      running := fun connection connection' hasked hasked' => by
        rw [connection_of_mem_asked hheld hasked, connection_of_mem_asked hset hasked']
        rfl
      target := fun _ _ _ => rfl }
  obtain ⟨-, hboth, -⟩ := resolve_conceals_secrets env ⟨.constantly 0 (by decide), 0⟩
    ⟨.constantly 1 (by decide), 0⟩ rfl hdefaults hspecification hnothing hstored hsame
  obtain ⟨-, -, hshown, -⟩ := hboth _ _ hheld hset
  exact ⟨_, _, hheld, hset, rfl, rfl, hshown⟩

end Resolution

end OperatorConfig
