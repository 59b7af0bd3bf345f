import OperatorConfig.Proofs.Resolution.Cascade
import OperatorConfig.Proofs.Settings.Loading
import OperatorConfig.Proofs.Upgrade.Decision
import OperatorConfig.Resolution.Status

/-!
# How a resolution ends

A resolution ends in one of three ways: the store fails, the external database has no valid URL, or the
settings are resolved. An `Ending` is one of them together with the words that are left and the questions
asked on the way; a resolution always comes to one. When and with what it fails, and whom it has asked by
then, can be read off the endings.
-/

namespace OperatorConfig

namespace Reach

def storeQuestions (reach : Reach) (namespaceName : String) : List Question :=
  if reach.store then [.secrets Resolution.secretsName namespaceName] else []

end Reach

namespace Resolution

variable (reach : Reach) (namespaceName : String) (specification : Specification)
  (env : Environment) (defaults : Settings) (words : Words) (answer : (q : Question) → q.Answer)

/-! ### The endings -/

/-- A way that a resolution can end, with the words that are left and the questions asked. -/
inductive Ending : Except Failure Resolution → Words → List Question → Prop
  | storeFailed (failure : Failure) (hstored : reach.stored namespaceName answer = .error failure) :
      Ending (.error failure) words (reach.storeQuestions namespaceName)
  | urlInvalid (stored : Option Table) (hstored : reach.stored namespaceName answer = .ok stored)
      (failure : Failure)
      (hurl : (cascaded namespaceName specification env defaults words stored).externalUrl?
        = .error failure) :
      Ending (.error failure) (provisioned namespaceName defaults words stored).2
        (reach.storeQuestions namespaceName)
  | resolved (stored : Option Table) (hstored : reach.stored namespaceName answer = .ok stored)
      (url? : Option Url)
      (hurl : (cascaded namespaceName specification env defaults words stored).externalUrl?
        = .ok url?) :
      Ending
        (.ok (concluded reach namespaceName answer
          ((cascaded namespaceName specification env defaults words stored).withExternal url?)))
        (provisioned namespaceName defaults words stored).2
        (reach.storeQuestions namespaceName
          ++ (decide reach namespaceName
            ((cascaded namespaceName specification env defaults words stored).withExternal url?)).asked
              answer)

theorem asked_provision (s : Settings) :
    (provision reach namespaceName s words).asked answer = reach.storeQuestions namespaceName := by
  unfold provision Reach.storeQuestions
  cases reach.store with
  | false => simp
  | true =>
      simp only [if_true, Inquiry.bind_eq_bind, Inquiry.asked_bind, Operator.asked_secrets,
        Operator.value_secrets]
      cases answer (.secrets secretsName namespaceName) <;> simp

theorem asked_conclude (s : Settings) :
    (conclude reach namespaceName s).asked answer = (decide reach namespaceName s).asked answer := by
  simp [conclude]

/-- What a resolution asks, after the store, is what the stages let it ask about the database. -/
theorem asked_resolve :
    (resolve reach namespaceName specification env defaults words).asked answer
      = reach.storeQuestions namespaceName
          ++ match reach.stored namespaceName answer with
            | .error _ => []
            | .ok stored =>
                match (cascaded namespaceName specification env defaults words
                    stored).applyExternalDatabase with
                | .error _ => []
                | .ok s => (decide reach namespaceName s).asked answer := by
  simp only [resolve, Inquiry.bind_eq_bind, Inquiry.asked_bind, value_provision, asked_provision]
  refine congrArg (reach.storeQuestions namespaceName ++ ·) ?_
  cases reach.stored namespaceName answer with
  | error failure => rfl
  | ok stored =>
      have hoverride :
          override env specification ((defaults.inNamespace namespaceName).provision stored words).1
            = (cascaded namespaceName specification env defaults words stored).applyExternalDatabase :=
        override_eq specification env _
      simp only [Except.bind, hoverride]
      cases (cascaded namespaceName specification env defaults words stored).applyExternalDatabase with
      | error failure => rfl
      | ok s => simp [asked_conclude]

theorem asked_resolve_of_externalUrl {stored : Option Table}
    (hstored : reach.stored namespaceName answer = .ok stored) (url? : Option Url)
    (hurl : (cascaded namespaceName specification env defaults words stored).externalUrl?
      = .ok url?) :
    (resolve reach namespaceName specification env defaults words).asked answer
      = reach.storeQuestions namespaceName
          ++ (decide reach namespaceName
            ((cascaded namespaceName specification env defaults words stored).withExternal url?)).asked
              answer := by
  simp only [asked_resolve, hstored, Settings.applyExternalDatabase_eq, hurl]
  rfl

/-- A resolution comes to one of the endings. -/
theorem ending_resolve : ∃ ended rest asked,
    (resolve reach namespaceName specification env defaults words).value answer = (ended, rest) ∧
    (resolve reach namespaceName specification env defaults words).asked answer = asked ∧
    Ending reach namespaceName specification env defaults words answer ended rest asked := by
  rw [value_resolve, asked_resolve]
  cases hstored : reach.stored namespaceName answer with
  | error failure => exact ⟨_, _, _, rfl, List.append_nil _, .storeFailed failure hstored⟩
  | ok stored =>
      simp only [Settings.applyExternalDatabase_eq]
      cases hurl : (cascaded namespaceName specification env defaults words stored).externalUrl? with
      | error failure =>
          exact ⟨_, _, _, rfl, List.append_nil _, .urlInvalid stored hstored failure hurl⟩
      | ok url? => exact ⟨_, _, _, rfl, rfl, .resolved stored hstored url? hurl⟩

/-! ### What is asked about the database -/

section

variable {reach namespaceName specification env defaults words answer}

/-- A resolution that succeeds has asked the store, and then about the database of the settings that it
has resolved. -/
theorem asked_of_outcome_ok {resolution : Resolution}
    (hresolved :
      outcome reach namespaceName specification env defaults words answer = .ok resolution) :
    (resolve reach namespaceName specification env defaults words).asked answer
      = reach.storeQuestions namespaceName
          ++ (decide reach namespaceName resolution.settings).asked answer := by
  obtain ⟨ended, rest, asked, hvalue, hasked, hending⟩ :=
    ending_resolve reach namespaceName specification env defaults words answer
  rw [outcome, hvalue] at hresolved
  rw [hasked]
  cases hending with
  | storeFailed => cases hresolved
  | urlInvalid => cases hresolved
  | resolved stored hstored url? hurl =>
      generalize cascaded namespaceName specification env defaults words stored = s at hresolved ⊢
      cases hresolved
      rw [concluded, decide_withDecision]

/-- The only connection of a resolution is the one that the resolved settings describe. -/
theorem connection_of_mem_asked {resolution : Resolution}
    (hresolved :
      outcome reach namespaceName specification env defaults words answer = .ok resolution)
    {connection : Connection}
    (hasked : .runningBanner connection
      ∈ (resolve reach namespaceName specification env defaults words).asked answer) :
    connection = Upgrade.connectionOf resolution.settings := by
  have hquestions := (Upgrade.course_decide resolution.settings namespaceName answer).asked_isPrefix
  rw [asked_of_outcome_ok hresolved, List.mem_append] at hasked
  rcases hasked with hstore | hdatabase
  · unfold Reach.storeQuestions at hstore
    split at hstore <;> simp at hstore
  · unfold decide at hdatabase
    split at hdatabase
    · simp at hdatabase
    · split at hdatabase
      · simpa using hquestions.subset hdatabase
      · simp at hdatabase

section Managed

variable {resolution : Resolution}
  (hresolved : outcome reach namespaceName specification env defaults words answer = .ok resolution)
  (hmanaged : resolution.settings.platform.components.database.externalUrl = "")
  (hdatabase : reach.database = true)

include hresolved hmanaged hdatabase

end Managed

/-! ### What is reported of an ending -/

end

end Resolution

end OperatorConfig
