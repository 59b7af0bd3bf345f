import OperatorConfig.Proofs.Session.Confinement

/-!
# The order of the first three stages

Entering the namespace, provisioning and the environment are confined to leaves of their own, so a
resolution could take them in any order. The specification shares leaves with two of them. On a leaf that
both set, the later one decides, and nowhere else does it matter which of them comes first.
-/

namespace OperatorConfig

open Schema (Shape Leaf Shaped AgreeOff)

/-! ### The stages before the specification -/

/-- A stage before the specification. -/
inductive Preparation where
  | enter
  | provision
  | environment
deriving DecidableEq

structure Surroundings where
  reach : Reach
  namespaceName : String
  env : Environment
  answer : (q : Question) → q.Answer

namespace Preparation

def all : List Preparation := [.enter, .provision, .environment]

def paths : Preparation → List (List String)
  | .enter => Settings.namespacePaths
  | .provision => SecretField.paths
  | .environment => Environment.paths

variable (around : Surroundings)

def stage : Preparation → Stage
  | .enter => .enter around.namespaceName
  | .provision => .provision around.reach.store around.namespaceName
  | .environment => .environment around.env

/-- The text that a preparation puts at a path whatever stands there. Provisioning looks at what stands
there first. -/
def text? : Preparation → List String → Option String
  | .enter => Settings.namespaceText? around.namespaceName
  | .provision => fun _ => none
  | .environment => around.env.text?

theorem confined (preparation : Preparation) :
    (preparation.stage around).Confined around.answer preparation.paths := by
  cases preparation with
  | enter => exact Stage.confined_enter around.answer around.namespaceName
  | provision => exact Stage.confined_provision around.answer around.reach.store around.namespaceName
  | environment => exact Stage.confined_environment around.answer around.env

theorem disjoint {preparation other : Preparation} (hne : preparation ≠ other) :
    preparation.paths.Disjoint other.paths := by
  rw [List.disjoint_left]
  cases preparation with
  | enter =>
      cases other with
      | enter => exact absurd rfl hne
      | provision | environment => decide
  | provision =>
      cases other with
      | provision => exact absurd rfl hne
      | enter | environment => decide
  | environment =>
      cases other with
      | environment => exact absurd rfl hne
      | enter | provision => decide

/-- All but provisioning are changes that pin texts and flags at their own leaves. -/
theorem exists_pins {preparation : Preparation} (hquiet : preparation ≠ .provision) :
    ∃ change on, (preparation.stage around).Changes change ∧
      Settings.Pins change (preparation.text? around) on ∧
      ∀ path, path ∉ preparation.paths → preparation.text? around path = none := by
  cases preparation with
  | enter =>
      exact ⟨_, _, Stage.changes_enter around.namespaceName,
        Settings.pins_inNamespace around.namespaceName,
        fun path hpath => Settings.namespaceText?_eq_none hpath around.namespaceName⟩
  | provision => exact absurd rfl hquiet
  | environment =>
      exact ⟨_, _, Stage.changes_environment around.env, around.env.pins_applyEnvironment,
        fun path hpath => (around.env.text?_eq_none hpath).1⟩

end Preparation

/-! ### Stages one after another -/

namespace Work

/-- Stages one after another, up to the first that fails. -/
def inOrder (stages : List Stage) : Work Unit := stages.forM fun stage => ofStep stage.step

/-- What comes of work: the settings that it leaves, unless it fails, and the words that are left. -/
def result (work : Work Unit) (answer : (q : Question) → q.Answer) (session : Session) :
    Except Failure Settings × Words :=
  let (ending, after) := work.outcome answer session
  (ending.map fun () => after.settings, after.words)

end Work

namespace Stage

variable (answer : (q : Question) → q.Answer)

/-- Goes on with a stage, unless one before it has failed. -/
def next (before : Except Failure Settings × Words) (stage : Stage) : Except Failure Settings × Words :=
  match before with
  | (.ok s, words) => stage.result answer ⟨s, words⟩
  | (.error failure, words) => (.error failure, words)

/-- Takes a stage in place after others, whether or not one of them has failed. -/
def takeNext (before : List Failure × Session) (stage : Stage) : List Failure × Session :=
  let (failure?, after) := (before.2.take stage.step).value answer
  (before.1 ++ failure?.toList, after)

theorem takeNext_eq (before : List Failure × Session) (stage : Stage) :
    takeNext answer before stage
      = match stage.result answer before.2 with
        | (.ok s, words) => (before.1, ⟨s, words⟩)
        | (.error failure, words) => (before.1 ++ [failure], ⟨before.2.settings, words⟩) := by
  rw [takeNext, Session.value_take_stage]
  rcases stage.result answer before.2 with ⟨failure | s, words⟩
  · rfl
  · exact Prod.ext (List.append_nil before.1) rfl

theorem foldl_next_error (failure : Failure) (words : Words) (stages : List Stage) :
    stages.foldl (next answer) (.error failure, words) = (.error failure, words) := by
  induction stages with
  | nil => rfl
  | cons stage stages ih => exact ih

end Stage

namespace Session

/-- The failures of stages that are all taken in place one after another, and the session that they
leave. -/
def takeEach (session : Session) (answer : (q : Question) → q.Answer) (stages : List Stage) :
    List Failure × Session :=
  stages.foldl (Stage.takeNext answer) ([], session)

end Session

theorem Work.result_inOrder (answer : (q : Question) → q.Answer) (session : Session)
    (stages : List Stage) :
    (Work.inOrder stages).result answer session
      = stages.foldl (Stage.next answer) (.ok session.settings, session.words) := by
  induction stages generalizing session with
  | nil => rfl
  | cons stage stages ih =>
      have hcons : Work.inOrder (stage :: stages)
          = Work.ofStep stage.step >>= fun _ => Work.inOrder stages := rfl
      rw [hcons, result, outcome_bind, outcome_ofStep, List.foldl_cons, Stage.next]
      cases stage.result answer session with
      | mk ending words =>
          cases ending with
          | error failure => exact (Stage.foldl_next_error answer failure words stages).symm
          | ok s => exact ih ⟨s, words⟩

namespace Stage.Confined

variable {answer : (q : Question) → q.Answer} {stage other : Stage}
  {paths otherPaths : List (List String)} {change : Settings → Settings}

theorem next_comm (hstage : stage.Confined answer paths) (hother : other.Confined answer otherPaths)
    (hchange : other.Changes change) (hdisjoint : paths.Disjoint otherPaths)
    (before : Except Failure Settings × Words) :
    next answer (next answer before stage) other = next answer (next answer before other) stage := by
  obtain ⟨ending, words⟩ := before
  cases ending with
  | error failure => rfl
  | ok s =>
      have hresult := hstage.result_change hother hchange hdisjoint s words
      simp only [next, hchange answer ⟨s, words⟩, hresult]
      rcases stage.result answer ⟨s, words⟩ with ⟨failure | after, rest⟩
      · rfl
      · exact hchange answer ⟨after, rest⟩

theorem takeNext_comm (hstage : stage.Confined answer paths) (hother : other.Confined answer otherPaths)
    (hchange : other.Changes change) (hdisjoint : paths.Disjoint otherPaths)
    (before : List Failure × Session) :
    takeNext answer (takeNext answer before stage) other
      = takeNext answer (takeNext answer before other) stage := by
  obtain ⟨failures, s, words⟩ := before
  have hresult := hstage.result_change hother hchange hdisjoint s words
  simp only [takeNext_eq, hchange answer ⟨s, words⟩, hresult]
  rcases stage.result answer ⟨s, words⟩ with ⟨failure | after, rest⟩
  · simp only [hchange answer ⟨s, rest⟩]
    rfl
  · simp only [hchange answer ⟨after, rest⟩]
    rfl

end Stage.Confined

/-! ### Any order -/

namespace Preparation

variable {around : Surroundings} {order : List Preparation}

/-- What does not mind two preparations changing places, one of which is a mere change of the settings,
does not mind any order of them. -/
theorem foldl_stage_of_perm {β : Type} {step : β → Stage → β}
    (hcomm : ∀ {preparation other : Preparation}, preparation ≠ other → other ≠ .provision → ∀ before,
      step (step before (preparation.stage around)) (other.stage around)
        = step (step before (other.stage around)) (preparation.stage around))
    (horder : order.Perm all) (start : β) :
    (order.map (stage around)).foldl step start = (all.map (stage around)).foldl step start := by
  rw [List.foldl_map, List.foldl_map]
  refine horder.foldl_eq' (fun preparation _ other _ before => ?_) start
  by_cases hsame : preparation = other
  · rw [hsame]
  · -- Only one of two different preparations can be provisioning, so one is a mere change.
    by_cases hquiet : other = .provision
    · exact (hcomm (Ne.symm hsame) (fun h => hsame (h.trans hquiet.symm)) before).symm
    · exact hcomm hsame hquiet before

theorem result_inOrder_of_perm (horder : order.Perm all) (session : Session) :
    (Work.inOrder (order.map (stage around))).result around.answer session
      = (Work.inOrder (all.map (stage around))).result around.answer session := by
  rw [Work.result_inOrder, Work.result_inOrder]
  refine foldl_stage_of_perm (fun {preparation other} hne hquiet before => ?_) horder _
  obtain ⟨change, on, hchange, -⟩ := exists_pins around hquiet
  exact (preparation.confined around).next_comm (other.confined around) hchange (disjoint hne) before

theorem takeEach_of_perm (horder : order.Perm all) (session : Session) :
    session.takeEach around.answer (order.map (stage around))
      = session.takeEach around.answer (all.map (stage around)) := by
  refine foldl_stage_of_perm (fun {preparation other} hne hquiet before => ?_) horder _
  obtain ⟨change, on, hchange, -⟩ := exists_pins around hquiet
  exact (preparation.confined around).takeNext_comm (other.confined around) hchange (disjoint hne) before

/-- What the preparations come to. -/
theorem result_inOrder_all (around : Surroundings) (session : Session) :
    (Work.inOrder (all.map (stage around))).result around.answer session
      = match around.reach.stored around.namespaceName around.answer with
        | .error failure => (.error failure, session.words)
        | .ok stored =>
            let provisioned :=
              Resolution.provisioned around.namespaceName session.settings session.words stored
            (.ok (provisioned.1.applyEnvironment around.env), provisioned.2) := by
  have hstored : Reach.stored { store := around.reach.store } around.namespaceName around.answer
      = around.reach.stored around.namespaceName around.answer := rfl
  simp only [Work.result_inOrder, all, stage, List.map_cons, List.map_nil, List.foldl_cons,
    List.foldl_nil, Stage.next, Stage.result, Resolution.value_provision, hstored]
  cases around.reach.stored around.namespaceName around.answer <;> rfl

theorem value_resolve_of_perm (horder : order.Perm all) (specification : Specification)
    (defaults : Settings) (words : Words) :
    (Resolution.resolve around.reach around.namespaceName specification around.env defaults words).value
        around.answer
      = let prepared := (Work.inOrder (order.map (stage around))).result around.answer ⟨defaults, words⟩
        ((prepared.1.bind fun s =>
            (s.applySpecification specification).bind Settings.applyExternalDatabase).map
          (Resolution.concluded around.reach around.namespaceName around.answer), prepared.2) := by
  rw [result_inOrder_of_perm horder, result_inOrder_all, Resolution.value_resolve]
  cases around.reach.stored around.namespaceName around.answer with
  | error failure => rfl
  | ok stored =>
      simp only [Except.bind, Settings.applySpecification_eq]
      rfl

theorem agreeOff_take (around : Surroundings) (preparation : Preparation) (session : Session) :
    AgreeOff preparation.paths session.settings
      ((session.take (preparation.stage around).step).value around.answer).2.settings := by
  rw [Session.value_take_stage]
  rcases hresult : (preparation.stage around).result around.answer session with ⟨failure | after, rest⟩
  · exact fun kind leaf _ => rfl
  · exact (preparation.confined around).writes hresult

end Preparation

/-! ### The specification -/

/-- A specification and the texts that a stage puts at some paths contest a leaf where both set it, and to
different texts. -/
def Specification.Contests (specification : Specification) (text? : List String → Option String) :
    Settings.Leaves
  | .text, leaf =>
      ∃ text, text? leaf.path = some text ∧
        leaf.textOf specification.settings ≠ "" ∧ leaf.textOf specification.settings ≠ text
  | _, _ => False

theorem getD_ite_ne_iff (text? : Option String) (held set : String) :
    text?.getD (if set = "" then held else set) ≠ (if set = "" then text?.getD held else set) ↔
      ∃ text, text? = some text ∧ set ≠ "" ∧ set ≠ text := by
  cases text? with
  | none => simp
  | some text => by_cases hset : set = "" <;> simp [hset, eq_comm]

namespace Settings.Pins

variable {change : Settings → Settings} {text? : List String → Option String} {on : List String → Bool}

/-- Whether a specification comes before or after a stage shows on the contested leaves only. -/
theorem of_merge_ne_iff (hpins : Pins change text? on) (s : Settings) (specification : Specification)
    (kind : Shape) (leaf : Leaf (Shaped.shape Settings) kind) :
    leaf.of (change (Schema.merge s specification.settings))
        ≠ leaf.of (Schema.merge (change s) specification.settings) ↔
      specification.Contests text? kind leaf := by
  rw [hpins, leaf.of_merge, leaf.of_merge, hpins]
  unfold Specification.Contests
  generalize leaf.of s = held
  cases kind with
  | text => exact getD_ite_ne_iff (text? leaf.path) held _
  | flag => exact iff_of_false (fun h => h (Bool.or_right_comm held _ (on leaf.path))) id
  | integer | texts | table | record => exact iff_of_false (fun h => h rfl) id

/-- On a contested leaf the later one has its way. -/
theorem textOf_of_contests (hpins : Pins change text? on) (s : Settings) {specification : Specification}
    {leaf : Leaf (Shaped.shape Settings) .text} (hcontest : specification.Contests text? .text leaf) :
    text? leaf.path = some (leaf.textOf (change (Schema.merge s specification.settings))) ∧
      leaf.textOf (Schema.merge (change s) specification.settings)
        = leaf.textOf specification.settings := by
  obtain ⟨text, htext, hset, -⟩ := hcontest
  refine ⟨?_, (leaf.of_merge (change s) specification.settings).trans (if_neg hset)⟩
  have hpinned := hpins (Schema.merge s specification.settings) .text leaf
  rw [htext] at hpinned ⊢
  exact congrArg some hpinned.symm

end Settings.Pins

theorem Specification.Contests.set {specification : Specification} {text? : List String → Option String}
    {kind : Shape} {leaf : Leaf (Shaped.shape Settings) kind}
    (hcontest : specification.Contests text? kind leaf) :
    text? leaf.path ≠ none ∧ leaf.of specification.settings ≠ kind.unset := by
  cases kind with
  | text =>
      obtain ⟨text, htext, hset, -⟩ := hcontest
      exact ⟨htext ▸ Option.some_ne_none text, hset⟩
  | flag | integer | texts | table | record => cases hcontest

namespace Stage

variable (answer : (q : Question) → q.Answer) {leaves : Settings.Leaves}

/-- Overriding comes to merging, which never fails. -/
theorem changes_specify (specification : Specification) :
    Changes (.specify specification) (Schema.merge · specification.settings) := by
  intro answer session
  rw [result, Settings.applySpecification_eq]

theorem next_of_changes {stage : Stage} {change : Settings → Settings} (hchange : stage.Changes change)
    (s : Settings) (words : Words) : next answer (.ok s, words) stage = (.ok (change s), words) :=
  hchange answer ⟨s, words⟩

/-- What confined stages do to outcomes that are alike where they work leaves them alike. -/
theorem alike_foldl_next {stages : List Stage}
    (hstages : ∀ stage ∈ stages, ∃ paths, stage.Confined answer paths ∧
      ∀ kind leaf, leaf.path ∈ paths → leaves kind leaf)
    {before other : Except Failure Settings × Words} (halike : Alike leaves before other) :
    Alike leaves (stages.foldl (next answer) before) (stages.foldl (next answer) other) := by
  induction stages generalizing before other with
  | nil => exact halike
  | cons stage stages ih =>
      obtain ⟨⟨paths, hconfined, hleaves⟩, hrest⟩ := List.forall_mem_cons.mp hstages
      refine ih hrest ?_
      cases halike with
      | failed failure words => exact .failed failure words
      | settled hagree words => exact hconfined.alike hleaves hagree words

end Stage

namespace Preparation

theorem result_inOrder_of_stored_error {around : Surroundings} {order : List Preparation}
    (horder : order.Perm all) {failure : Failure}
    (hstored : around.reach.stored around.namespaceName around.answer = .error failure)
    (session : Session) :
    (Work.inOrder (order.map (stage around))).result around.answer session
      = (.error failure, session.words) := by
  rw [result_inOrder_of_perm horder, result_inOrder_all, hstored]

theorem map_length_paths : (all.map fun preparation => preparation.paths.length) = [2, 7, 18] := by
  decide

theorem nodup_paths : (all.flatMap paths).Nodup := by decide

section

variable (around : Surroundings) {preparation : Preparation} (hquiet : preparation ≠ .provision)
  (specification : Specification) (session : Session)

include hquiet

theorem mem_paths_of_contests {specification : Specification} {kind : Shape}
    {leaf : Leaf (Shaped.shape Settings) kind}
    (hcontest : specification.Contests (preparation.text? around) kind leaf) :
    leaf.path ∈ preparation.paths ∧ leaf.of specification.settings ≠ kind.unset := by
  obtain ⟨change, on, -, -, hpaths⟩ := exists_pins around hquiet
  exact ⟨by_contra fun hpath => hcontest.set.1 (hpaths leaf.path hpath), hcontest.set.2⟩

/-- A specification just before a stage and just after it makes a difference on the contested leaves, and
there the later one has its way. -/
theorem specify_earlier_or_later :
    ∃ earlier later,
      (Work.inOrder [.specify specification, preparation.stage around]).result around.answer session
        = (.ok earlier, session.words) ∧
      (Work.inOrder [preparation.stage around, .specify specification]).result around.answer session
        = (.ok later, session.words) ∧
      (∀ kind leaf, leaf.of earlier ≠ leaf.of later ↔
        specification.Contests (preparation.text? around) kind leaf) ∧
      ∀ leaf, specification.Contests (preparation.text? around) .text leaf →
        preparation.text? around leaf.path = some (leaf.textOf earlier) ∧
          leaf.textOf later = leaf.textOf specification.settings := by
  obtain ⟨change, on, hchange, hpins, -⟩ := exists_pins around hquiet
  have hbefore := Stage.next_of_changes around.answer hchange
  have hspecify := Stage.next_of_changes around.answer (Stage.changes_specify specification)
  refine ⟨_, _, ?earlier, ?later, hpins.of_merge_ne_iff session.settings specification,
    fun leaf => hpins.textOf_of_contests session.settings⟩
  case earlier =>
    rw [Work.result_inOrder, List.foldl_cons, List.foldl_cons, hspecify, hbefore]
    rfl
  case later =>
    rw [Work.result_inOrder, List.foldl_cons, List.foldl_cons, hbefore, hspecify]
    rfl

/-- The preparations that follow make no further difference. -/
theorem alike_specify {others : List Preparation} (hothers : preparation ∉ others) :
    Alike (fun kind leaf => ¬ specification.Contests (preparation.text? around) kind leaf)
      ((Work.inOrder (.specify specification :: preparation.stage around
        :: others.map (stage around))).result around.answer session)
      ((Work.inOrder (preparation.stage around :: .specify specification
        :: others.map (stage around))).result around.answer session) := by
  obtain ⟨change, on, hchange, hpins, -⟩ := exists_pins around hquiet
  have hbefore := Stage.next_of_changes around.answer hchange
  have hspecify := Stage.next_of_changes around.answer (Stage.changes_specify specification)
  simp only [Work.result_inOrder, List.foldl_cons, hspecify, hbefore]
  refine Stage.alike_foldl_next around.answer (fun stage hstage => ?_)
    (.settled (fun kind leaf hfree => ?_) session.words)
  · obtain ⟨other, hother, rfl⟩ := List.mem_map.mp hstage
    have hne : other ≠ preparation := fun heq => hothers (heq ▸ hother)
    exact ⟨other.paths, other.confined around, fun kind leaf hpath hcontest =>
      disjoint hne hpath (mem_paths_of_contests around hquiet hcontest).1⟩
  · by_contra hdiffer
    exact hfree ((hpins.of_merge_ne_iff session.settings specification kind leaf).mp hdiffer)

end

/-- The first three stages are independent. In any order they come to the same settings, the same words
and the same failure, whether work ends with a failure or each stage is taken in place after it, and so
does the resolution that goes on from there. Each writes its own leaves only. A specification comes before
a stage or after it to the same end but for the leaves that both set to different texts, whatever other
preparations follow, and on these leaves the later one has its way. -/
theorem preparations_independent (around : Surroundings) :
    (∀ order : List Preparation, order.Perm all →
      (∀ session : Session, (Work.inOrder (order.map (stage around))).result around.answer session
        = (Work.inOrder (all.map (stage around))).result around.answer session) ∧
      (∀ failure, around.reach.stored around.namespaceName around.answer = .error failure →
        ∀ session : Session, (Work.inOrder (order.map (stage around))).result around.answer session
          = (.error failure, session.words)) ∧
      (∀ session : Session, session.takeEach around.answer (order.map (stage around))
        = session.takeEach around.answer (all.map (stage around))) ∧
      ∀ specification defaults words,
        (Resolution.resolve around.reach around.namespaceName specification around.env defaults
            words).value around.answer
          = let prepared :=
              (Work.inOrder (order.map (stage around))).result around.answer ⟨defaults, words⟩
            ((prepared.1.bind fun s =>
                (s.applySpecification specification).bind Settings.applyExternalDatabase).map
              (Resolution.concluded around.reach around.namespaceName around.answer), prepared.2)) ∧
    (∀ (preparation : Preparation) (session : Session), AgreeOff preparation.paths session.settings
      ((session.take (preparation.stage around).step).value around.answer).2.settings) ∧
    (all.map fun preparation => preparation.paths.length) = [2, 7, 18] ∧ (all.flatMap paths).Nodup ∧
    ∀ preparation : Preparation, preparation ≠ .provision → ∀ (specification : Specification) (session : Session),
      (∃ earlier later,
        (Work.inOrder [.specify specification, preparation.stage around]).result around.answer session
          = (.ok earlier, session.words) ∧
        (Work.inOrder [preparation.stage around, .specify specification]).result around.answer session
          = (.ok later, session.words) ∧
        (∀ kind leaf, leaf.of earlier ≠ leaf.of later ↔
          specification.Contests (preparation.text? around) kind leaf) ∧
        ∀ leaf, specification.Contests (preparation.text? around) .text leaf →
          preparation.text? around leaf.path = some (leaf.textOf earlier) ∧
            leaf.textOf later = leaf.textOf specification.settings) ∧
      (∀ kind leaf, specification.Contests (preparation.text? around) kind leaf →
        leaf.path ∈ preparation.paths ∧ leaf.of specification.settings ≠ kind.unset) ∧
      ∀ others : List Preparation, preparation ∉ others →
        Alike (fun kind leaf => ¬ specification.Contests (preparation.text? around) kind leaf)
          ((Work.inOrder (.specify specification :: preparation.stage around
            :: others.map (stage around))).result around.answer session)
          ((Work.inOrder (preparation.stage around :: .specify specification
            :: others.map (stage around))).result around.answer session) := by
  refine ⟨fun order horder => ⟨result_inOrder_of_perm horder,
    fun _ hstored => result_inOrder_of_stored_error horder hstored, takeEach_of_perm horder,
    value_resolve_of_perm horder⟩, agreeOff_take around, map_length_paths, nodup_paths,
    fun preparation hquiet specification session => ⟨?difference, ?contested, ?others⟩⟩
  case difference => exact specify_earlier_or_later around hquiet specification session
  case contested => exact fun _ _ => mem_paths_of_contests around hquiet
  case others => exact fun _ => alike_specify around hquiet specification session

end Preparation

end OperatorConfig
