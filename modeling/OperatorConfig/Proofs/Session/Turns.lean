import Mathlib.Data.List.Chain
import OperatorConfig.Proofs.Session.Stages
import OperatorConfig.Proofs.Settings.Growth

/-!
# Any number of stages in any order

Stages are taken one after another, each with its own answers and its own random words. Whatever their
order is, a stage that fails changes nothing, and a stage that succeeds only adds to what the settings
hold, where the value of a secret changes only to a stored or an overriding one.
-/

namespace OperatorConfig

open Schema (Leaf Shaped)

/-! ### One stage -/

/-- What a stage that succeeds can make of settings. -/
inductive Stage.Makes (answer : (q : Question) → q.Answer) (words : Words) (s : Settings) :
    Stage → Settings → Prop
  | enter (namespaceName : String) : Makes answer words s (.enter namespaceName) (s.inNamespace namespaceName)
  | provision (store : Bool) (namespaceName : String) (stored : Option Table)
      (hstored : Reach.stored { store } namespaceName answer = .ok stored) :
      Makes answer words s (.provision store namespaceName) (s.provision stored words).1
  | environment (env : Environment) : Makes answer words s (.environment env) (s.applyEnvironment env)
  | specify (specification : Specification) :
      Makes answer words s (.specify specification) (Schema.merge s specification.settings)
  | connectExternal (url? : Option Url) : Makes answer words s .connectExternal (s.withExternal url?)
  | setRoute (env : Environment) (namespaceName : String) (host? : Option String) :
      Makes answer words s (.setRoute env namespaceName) (host?.elim s (Settings.withHost · s))

namespace Stage

variable {answer : (q : Question) → q.Answer} {words : Words} {s after : Settings} {stage : Stage}

theorem result_cases (answer : (q : Question) → q.Answer) (words : Words) (s : Settings) (stage : Stage) :
    (∃ failure, stage.result answer ⟨s, words⟩ = (.error failure, words)) ∨
      ∃ after rest, stage.result answer ⟨s, words⟩ = (.ok after, rest) ∧
        stage.Makes answer words s after := by
  cases stage with
  | enter namespaceName => exact .inr ⟨_, _, rfl, .enter namespaceName⟩
  | provision store namespaceName =>
      rw [result, Resolution.value_provision]
      cases hstored : Reach.stored { store } namespaceName answer with
      | error failure => exact .inl ⟨failure, rfl⟩
      | ok stored => exact .inr ⟨_, _, rfl, .provision store namespaceName stored hstored⟩
  | environment env => exact .inr ⟨_, _, rfl, .environment env⟩
  | specify specification =>
      rw [result, Settings.applySpecification_eq]
      exact .inr ⟨_, _, rfl, .specify specification⟩
  | connectExternal =>
      rw [result, Settings.applyExternalDatabase_eq]
      cases s.externalUrl? with
      | error failure => exact .inl ⟨failure, rfl⟩
      | ok url? => exact .inr ⟨_, _, rfl, .connectExternal url?⟩
  | setRoute env namespaceName =>
      rw [result, Settings.value_setRoute]
      cases hostIn env namespaceName answer with
      | error failure => exact .inl ⟨failure, rfl⟩
      | ok host? => exact .inr ⟨_, _, rfl, .setRoute env namespaceName host?⟩

theorem Makes.grows (hmakes : Makes answer words s stage after) : s.Grows after := by
  cases hmakes with
  | enter namespaceName => exact s.grows_inNamespace namespaceName
  | provision store namespaceName stored hstored => exact s.grows_provision stored words
  | environment env => exact s.grows_applyEnvironment env
  | specify specification => exact s.grows_merge specification.settings
  | connectExternal url? => exact s.grows_withExternal url?
  | setRoute env namespaceName host? =>
      cases host? with
      | none => exact .refl s
      | some host => exact s.grows_withHost host

/-- A value that a stage brings for a secret: a stored one, or one that a specification sets. -/
def Brings (answer : (q : Question) → q.Answer) (stage : Stage) (field : SecretField) (value : String) :
    Prop :=
  (∃ store namespaceName stored, stage = .provision store namespaceName ∧
    Reach.stored { store } namespaceName answer = .ok stored ∧
    (Bundle.ofData stored).get? field.name = some value) ∨
  ∃ specification, stage = .specify specification ∧ field.get specification.settings = value

/-- A secret that has a value keeps it or takes one that the stage brings; none is generated for it. -/
theorem Makes.get_of_ne_empty (hmakes : Makes answer words s stage after) {field : SecretField}
    (hheld : field.get s ≠ "") :
    field.get after = field.get s ∨
      field.get after ≠ "" ∧ stage.Brings answer field (field.get after) := by
  cases hmakes with
  | enter namespaceName => exact .inl (field.get_inNamespace namespaceName s)
  | provision store namespaceName stored hstored =>
      rw [Settings.provision_eq_fill, SecretField.get_fill, Settings.provisionedSecret_of_ne_empty hheld]
      rcases s.keptSecret_cases stored field with hkept | ⟨value, hget, hvalue, hkept⟩
      · exact .inl hkept
      · rw [hkept]
        rw [← Bundle.get?_ofData] at hget
        exact .inr ⟨hvalue, .inl ⟨store, namespaceName, stored, rfl, hstored, hget⟩⟩
  | environment env => exact .inl (field.get_applyEnvironment env s)
  | specify specification =>
      rw [SecretField.get_merge]
      split
      next hset => exact .inr ⟨hset, .inr ⟨specification, rfl, rfl⟩⟩
      next => exact .inl rfl
  | connectExternal url? => exact .inl (field.get_withExternal url? s)
  | setRoute env namespaceName host? =>
      left
      cases host? with
      | none => rfl
      | some host => exact field.get_withHost host s

theorem Makes.get_ne_empty_of_provision {store : Bool} {namespaceName : String}
    (hmakes : Makes answer words s (.provision store namespaceName) after) (field : SecretField) :
    field.get after ≠ "" := by
  cases hmakes with
  | provision _ _ stored hstored =>
      rw [Settings.provision_eq_fill, SecretField.get_fill]
      exact Settings.provisionedSecret_ne_empty stored s words field

end Stage

/-! ### One after another -/

/-- A stage that is taken, with what it meets: the answers, and the random words to draw from. -/
structure Move where
  stage : Stage
  answer : (q : Question) → q.Answer
  words : Words

/-- A move that has been made: the settings before it, the failure, if it has failed, and the session that
it has left. -/
structure Turn where
  before : Settings
  move : Move
  failure? : Option Failure
  after : Session

namespace Turn

def of (before : Settings) (move : Move) : Turn :=
  let left := (Session.take ⟨before, move.words⟩ move.stage.step).value move.answer
  ⟨before, move, left.1, left.2⟩

theorem of_cases (before : Settings) (move : Move) :
    (∃ failure, of before move = ⟨before, move, some failure, ⟨before, move.words⟩⟩) ∨
      ∃ after rest, of before move = ⟨before, move, none, ⟨after, rest⟩⟩ ∧
        move.stage.Makes move.answer move.words before after := by
  rw [of, Session.value_take_stage]
  rcases move.stage.result_cases move.answer move.words before with
    ⟨failure, hresult⟩ | ⟨after, rest, hresult, hmakes⟩
  · rw [hresult]
    exact .inl ⟨failure, rfl⟩
  · rw [hresult]
    exact .inr ⟨after, rest, rfl, hmakes⟩

theorem grows (before : Settings) (move : Move) : before.Grows (of before move).after.settings := by
  rcases of_cases before move with ⟨failure, hturn⟩ | ⟨after, rest, hturn, hmakes⟩
  · rw [hturn]
    exact .refl before
  · rw [hturn]
    exact hmakes.grows

end Turn

namespace Session

/-- The turns of moves from some settings on, each on the settings that the one before it has left. -/
def turns : Settings → List Move → List Turn
  | _, [] => []
  | s, move :: moves => .of s move :: turns (Turn.of s move).after.settings moves

def states (start : Settings) (moves : List Move) : List Settings :=
  start :: (turns start moves).map (·.after.settings)

theorem exists_of_mem_turns {start : Settings} {moves : List Move} {turn : Turn}
    (hmem : turn ∈ turns start moves) : ∃ before move, turn = .of before move := by
  induction moves generalizing start with
  | nil => cases hmem
  | cons move moves ih =>
      rcases List.mem_cons.mp hmem with rfl | hmem
      · exact ⟨start, move, rfl⟩
      · exact ih hmem

theorem isChain_states (start : Settings) (moves : List Move) :
    (states start moves).IsChain Settings.Grows := by
  induction moves generalizing start with
  | nil => exact .singleton start
  | cons move moves ih => exact .cons_cons (Turn.grows start move) (ih _)

theorem pairwise_states (start : Settings) (moves : List Move) :
    (states start moves).Pairwise Settings.Grows :=
  (isChain_states start moves).pairwise

theorem grows_of_append {start : Settings} {moves : List Move} {earlier later : List Turn} {turn : Turn}
    (hturns : turns start moves = earlier ++ turn :: later) {next : Turn} (hnext : next ∈ turn :: later) :
    turn.after.settings.Grows next.after.settings := by
  have hpairwise : (turns start moves).Pairwise fun a b => a.after.settings.Grows b.after.settings :=
    List.pairwise_map.mp (List.pairwise_cons.mp (pairwise_states start moves)).2
  rw [hturns, List.pairwise_append] at hpairwise
  rcases List.mem_cons.mp hnext with rfl | hnext
  · exact .refl _
  · exact (List.pairwise_cons.mp hpairwise.2.1).1 next hnext

section

variable {start : Settings} {moves : List Move} {turn : Turn}

theorem after_of_failure (hmem : turn ∈ turns start moves) (hfailure : turn.failure? ≠ none) :
    turn.after = ⟨turn.before, turn.move.words⟩ := by
  obtain ⟨before, move, rfl⟩ := exists_of_mem_turns hmem
  rcases Turn.of_cases before move with ⟨failure, hturn⟩ | ⟨after, rest, hturn, -⟩
  · rw [hturn]
  · rw [hturn] at hfailure
    exact absurd rfl hfailure

/-- A secret with a value changes only to what the stage brings. -/
theorem get_of_changed (hmem : turn ∈ turns start moves) {field : SecretField}
    (hheld : field.get turn.before ≠ "")
    (hchange : field.get turn.after.settings ≠ field.get turn.before) :
    ∃ value, value ≠ "" ∧ field.get turn.after.settings = value ∧
      ((∃ store namespaceName stored, turn.move.stage = .provision store namespaceName ∧
        Reach.stored { store } namespaceName turn.move.answer = .ok stored ∧
        (Bundle.ofData stored).get? field.name = some value) ∨
      ∃ specification, turn.move.stage = .specify specification ∧
        field.get specification.settings = value) := by
  obtain ⟨before, move, rfl⟩ := exists_of_mem_turns hmem
  rcases Turn.of_cases before move with ⟨failure, hturn⟩ | ⟨after, rest, hturn, hmakes⟩
  · rw [hturn] at hchange
    exact absurd rfl hchange
  · rw [hturn] at hheld hchange ⊢
    obtain ⟨hvalue, hbrings⟩ := (hmakes.get_of_ne_empty hheld).resolve_left hchange
    exact ⟨field.get after, hvalue, rfl, hbrings⟩

theorem get_ne_empty_of_provision (hmem : turn ∈ turns start moves) {store : Bool}
    {namespaceName : String} (hstage : turn.move.stage = .provision store namespaceName)
    (hsuccess : turn.failure? = none) (field : SecretField) : field.get turn.after.settings ≠ "" := by
  obtain ⟨before, move, rfl⟩ := exists_of_mem_turns hmem
  rcases Turn.of_cases before move with ⟨failure, hturn⟩ | ⟨after, rest, hturn, hmakes⟩
  · rw [hturn] at hsuccess
    cases hsuccess
  · rw [hturn] at hstage ⊢
    have hprovision : move.stage = .provision store namespaceName := hstage
    rw [hprovision] at hmakes
    exact hmakes.get_ne_empty_of_provision field

end

/-- However the stages follow each other and whatever they meet: a stage that fails leaves the settings as
they were and draws no word; a secret that has a value never loses it, and it changes only to a stored
value or to an overriding one; after provisioning no secret is ever empty; no entry of a table is ever
lost, and no flag is ever turned off. -/
theorem turns_invariants (start : Settings) (moves : List Move) :
    (∀ turn ∈ turns start moves, turn.failure? ≠ none →
      turn.after = ⟨turn.before, turn.move.words⟩) ∧
    (states start moves).Pairwise (fun earlier later => ∀ field : SecretField,
      field.get earlier ≠ "" → field.get later ≠ "") ∧
    (∀ turn ∈ turns start moves, ∀ field : SecretField, field.get turn.before ≠ "" →
      field.get turn.after.settings ≠ field.get turn.before →
        ∃ value, value ≠ "" ∧ field.get turn.after.settings = value ∧
          ((∃ store namespaceName stored, turn.move.stage = .provision store namespaceName ∧
            Reach.stored { store } namespaceName turn.move.answer = .ok stored ∧
            (Bundle.ofData stored).get? field.name = some value) ∨
          ∃ specification, turn.move.stage = .specify specification ∧
            field.get specification.settings = value)) ∧
    (∀ earlier turn later, turns start moves = earlier ++ turn :: later →
      (∃ store namespaceName, turn.move.stage = .provision store namespaceName) →
      turn.failure? = none →
        ∀ next ∈ turn :: later, ∀ field : SecretField, field.get next.after.settings ≠ "") ∧
    (states start moves).Pairwise fun earlier later =>
      (∀ name, earlier.platform.components.database.resources.volumeLabels.contains name = true →
        later.platform.components.database.resources.volumeLabels.contains name = true) ∧
      (∀ name, earlier.platform.components.server.features.mavenRepositories.contains name = true →
        later.platform.components.server.features.mavenRepositories.contains name = true) ∧
      ∀ leaf : Leaf (Shaped.shape Settings) .flag,
        leaf.flagOf earlier = true → leaf.flagOf later = true := by
  refine ⟨fun _ => after_of_failure, ?kept, fun _ hmem _ => get_of_changed hmem, ?provisioned, ?grown⟩
  case kept => exact (pairwise_states start moves).imp fun hgrows => hgrows.secret
  case provisioned =>
    rintro earlier turn later hturns ⟨store, namespaceName, hstage⟩ hsuccess next hnext field
    have hmem : turn ∈ turns start moves := by
      rw [hturns]
      exact List.mem_append_right _ List.mem_cons_self
    have hprovisioned := get_ne_empty_of_provision hmem hstage hsuccess field
    exact (grows_of_append hturns hnext).secret field hprovisioned
  case grown =>
    exact (pairwise_states start moves).imp fun hgrows =>
      ⟨hgrows.volumeLabels, hgrows.mavenRepositories, hgrows.flag⟩

-- A text that is no URL ends the stage of the external database, and the stages go on after it.
example :
    let words : Words := ⟨.constantly 0 (by decide), 0⟩
    let overrides : Platform := { components := { database := { externalUrl := "db", password := "set" } } }
    let stages : List Stage := [.provision true "fuse", .specify ⟨overrides⟩, .connectExternal, .enter "fuse"]
    (turns {} (stages.map (⟨·, Operator.nothing, words⟩))).map (fun turn =>
        (turn.failure?.isSome, turn.after.settings.platform.components.database.password))
      = [(false, "AAAAAAAAAAAAAAAA"), (false, "set"), (true, "set"), (false, "set")] := by
  decide +kernel

end Session

end OperatorConfig
