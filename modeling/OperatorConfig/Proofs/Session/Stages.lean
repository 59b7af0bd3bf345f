import OperatorConfig.Proofs.Resolution.Outcome
import OperatorConfig.Session

/-!
# What a stage makes of a session

A step changes the settings of its session in place, and a failure takes nothing back. The steps that
configure an installation are safe all the same: whatever can fail in them comes before they change
anything. So a session is left either as it was or with all that the step does, which is what the
resolver's own functions, from settings to settings, make of it.
-/

namespace OperatorConfig

/-! ### What comes of work -/

namespace Work

variable {α β : Type} (answer : (q : Question) → q.Answer) (session : Session)

def outcome (work : Work α) : Except Failure α × Session := (work.run.run session).value answer

-- The session of a failure is the one that the work up to it has left, not the one before the work.
@[simp] theorem outcome_bind (work : Work α) (next : α → Work β) :
    (work >>= next).outcome answer session
      = match work.outcome answer session with
        | (.ok a, after) => (next a).outcome answer after
        | (.error failure, after) => (.error failure, after) := by
  have hbind : (work >>= next).run.run session
      = (work.run.run session).bind fun result => ExceptT.bindCont next result.1 result.2 := rfl
  rw [outcome, outcome, hbind, Inquiry.value_bind]
  rcases (work.run.run session).value answer with ⟨result, after⟩
  cases result <;> rfl

@[simp] theorem outcome_ask (inquiry : Operator α) :
    (ask inquiry).outcome answer session = (.ok (inquiry.value answer), session) := by
  have hask : (ask inquiry).run.run session
      = (inquiry.bind fun a => pure (a, session)).bind fun result => pure (.ok result.1, result.2) := rfl
  rw [outcome, hask, Inquiry.value_bind, Inquiry.value_bind]
  rfl

@[simp] theorem outcome_attempt (result : Except Failure α) :
    (attempt result).outcome answer session = (result, session) := rfl

@[simp] theorem outcome_settings :
    settings.outcome answer session = (.ok session.settings, session) := rfl

@[simp] theorem outcome_change (f : Settings → Settings) :
    (change f).outcome answer session = (.ok (), { session with settings := f session.settings }) := rfl

@[simp] theorem outcome_generateMissing :
    generateMissing.outcome answer session
      = (.ok (), ⟨(session.settings.generateMissing session.words).1,
          (session.settings.generateMissing session.words).2⟩) := by
  simp only [generateMissing, outcome_bind, outcome_settings, outcome_ask]
  rfl

end Work

/-! ### The host -/

/-- The host of the installation, if the environment or the route gives one. -/
def hostIn (env : Environment) (namespaceName : String) (answer : (q : Question) → q.Answer) :
    Except Failure (Option String) :=
  match env.get? hostVariable with
  | some host => .ok (some host)
  | none => answer (.routeHost namespaceName)

namespace Settings

variable (s : Settings)

theorem value_setRoute (env : Environment) (namespaceName : String)
    (answer : (q : Question) → q.Answer) :
    (s.setRoute env namespaceName).value answer
      = (hostIn env namespaceName answer).map fun host? => host?.elim s (withHost · s) := by
  unfold setRoute hostIn
  cases env.get? hostVariable with
  | some host => rfl
  | none =>
      simp only [Inquiry.bind_eq_bind, Inquiry.value_bind, Operator.value_routeHost]
      cases answer (.routeHost namespaceName) with
      | error failure => rfl
      | ok host? => cases host? <;> rfl

end Settings

/-! ### Stages -/

inductive Stage where
  | enter (namespaceName : String)
  | provision (store : Bool) (namespaceName : String)
  | environment (env : Environment)
  | specify (specification : Specification)
  | connectExternal
  | setRoute (env : Environment) (namespaceName : String)

namespace Stage

def step : Stage → Step
  | .enter namespaceName => .enter namespaceName
  | .provision store namespaceName => .provision store namespaceName
  | .environment env => .environment env
  | .specify specification => .specify specification
  | .connectExternal => .connectExternal
  | .setRoute env namespaceName => .setRoute env namespaceName

variable (answer : (q : Question) → q.Answer) (session : Session)

/-- What the resolver's own function makes of the settings, and the words that it leaves. -/
def result : Stage → Except Failure Settings × Words
  | .enter namespaceName => (.ok (session.settings.inNamespace namespaceName), session.words)
  | .provision store namespaceName =>
      (Resolution.provision { store } namespaceName session.settings session.words).value answer
  | .environment env => (.ok (session.settings.applyEnvironment env), session.words)
  | .specify specification => (session.settings.applySpecification specification, session.words)
  | .connectExternal => (session.settings.applyExternalDatabase, session.words)
  | .setRoute env namespaceName =>
      ((session.settings.setRoute env namespaceName).value answer, session.words)

end Stage

/-- The session after work that is done all at once, or not at all. -/
def Session.settle (session : Session) : Except Failure Settings × Words → Except Failure Unit × Session
  | (.ok settings, words) => (.ok (), ⟨settings, words⟩)
  | (.error failure, words) => (.error failure, ⟨session.settings, words⟩)

namespace Work

variable (answer : (q : Question) → q.Answer) (session : Session)

theorem outcome_provision (store : Bool) (namespaceName : String) :
    (provision { store } namespaceName).outcome answer session
      = session.settle ((Stage.provision store namespaceName).result answer session) := by
  have hstored : (if store then Operator.secrets Resolution.secretsName namespaceName
      else pure (.ok none)).value answer = Reach.stored { store } namespaceName answer := by
    cases store <;> rfl
  simp only [provision, outcome_bind, outcome_ask, outcome_attempt, hstored, Stage.result,
    Resolution.value_provision]
  cases Reach.stored { store } namespaceName answer with
  | error failure => rfl
  | ok stored =>
      simp only [outcome_change, outcome_generateMissing]
      rfl

theorem outcome_specify (specification : Specification) :
    (ofStep (.specify specification)).outcome answer session
      = session.settle ((Stage.specify specification).result answer session) := by
  simp only [ofStep, override, outcome_bind, outcome_attempt, Specification.toJson, Stage.result,
    Platform.ofJson_toJson, Settings.applySpecification_eq, Settings.merge_settings]
  rfl

theorem outcome_connectExternal :
    connectExternal.outcome answer session
      = session.settle (Stage.connectExternal.result answer session) := by
  simp only [connectExternal, outcome_bind, outcome_settings, outcome_attempt, Stage.result,
    Settings.applyExternalDatabase_eq]
  cases session.settings.externalUrl? with
  | error failure => rfl
  | ok url? =>
      cases url? with
      | none => rfl
      | some url =>
          simp only [outcome_bind, outcome_ask, outcome_change]
          rfl

theorem outcome_setRoute (env : Environment) (namespaceName : String) :
    (setRoute env namespaceName).outcome answer session
      = session.settle ((Stage.setRoute env namespaceName).result answer session) := by
  rw [Stage.result, Settings.value_setRoute, setRoute, hostIn]
  cases env.get? hostVariable with
  | some host => rfl
  | none =>
      simp only [outcome_bind, outcome_ask, outcome_attempt, Operator.value_routeHost]
      cases answer (.routeHost namespaceName) with
      | error failure => rfl
      | ok host? => cases host? <;> rfl

theorem outcome_ofStep (stage : Stage) :
    (ofStep stage.step).outcome answer session = session.settle (stage.result answer session) := by
  cases stage with
  | enter namespaceName => rfl
  | provision store namespaceName => exact outcome_provision answer session store namespaceName
  | environment env => rfl
  | specify specification => exact outcome_specify answer session specification
  | connectExternal => exact outcome_connectExternal answer session
  | setRoute env namespaceName => exact outcome_setRoute answer session env namespaceName

end Work

/-- A stage that is taken in place comes to what the resolver's own function makes of the settings, and
leaves them as they were where that function fails. -/
theorem Session.value_take_stage (answer : (q : Question) → q.Answer) (session : Session) (stage : Stage) :
    (session.take stage.step).value answer = told (session.settle (stage.result answer session)) := by
  have htake : (session.take stage.step).value answer
      = told ((Work.ofStep stage.step).outcome answer session) := by
    rw [take, Inquiry.bind_eq_bind, Inquiry.value_bind]
    rfl
  rw [htake, Work.outcome_ofStep]

end OperatorConfig
