import OperatorConfig.Proofs.Inquiry
import OperatorConfig.Upgrade.Check

/-!
# How a check for an upgrade goes

The check can go in five ways, by what the settings say and by what it is told. A `Course` is one of them
together with the decision that it ends in and the questions asked on the way; a check always follows one.
What is decided and what is asked can be read off the courses, with no need to open the check again.
-/

namespace OperatorConfig

namespace Postgres.Version

/-- A version is earlier by its first number, and by its second where the first are equal. -/
theorem lt_iff (a b : Version) :
    a < b ↔ a.major < b.major ∨ (a.major = b.major ∧ a.minor < b.minor) := Iff.rfl

end Postgres.Version

namespace Upgrade

/-- The containers are known, and one that runs the database carries the mark. -/
def Marked (told : Except Failure (Option (List Container))) : Prop :=
  ∃ containers, told = .ok (some containers) ∧
    ∃ container ∈ containers, container.name = "postgresql" ∧
      ∃ entries, container.environment = some entries ∧
        ∃ entry ∈ entries, entry.name = "POSTGRESQL_UPGRADE"

/-- The banner has been read, and tells the version. -/
def Tells (told : Except Failure String) (version : Postgres.Version) : Prop :=
  ∃ banner, told = .ok banner ∧ Postgres.Banner.version? banner = some version

theorem hasMark_iff (containers : List Container) :
    hasMark containers = true ↔ Marked (.ok (some containers)) := by
  simp only [hasMark, List.any_eq_true, Bool.and_eq_true, decide_eq_true_eq, Marked]
  constructor
  · rintro ⟨container, hcontainer, hname, entry, hentry, hmark⟩
    cases henvironment : container.environment with
    | none => simp [henvironment] at hentry
    | some entries =>
        rw [henvironment] at hentry
        exact ⟨containers, rfl, container, hcontainer, hname, entries, henvironment, entry, hentry, hmark⟩
  · rintro ⟨_, hsame, container, hcontainer, hname, entries, henvironment, entry, hentry, hmark⟩
    cases hsame
    exact ⟨container, hcontainer, hname, entry, by rwa [henvironment], hmark⟩

theorem not_marked_none : ¬ Marked (.ok none) := by
  rintro ⟨_, h, _⟩
  cases h

theorem not_marked_error (failure : Failure) : ¬ Marked (.error failure) := by
  rintro ⟨_, h, _⟩
  cases h

/-- A banner is read as a version exactly where it tells that version. -/
theorem versionOf_eq_ok_iff (told : Except Failure String) (version : Postgres.Version) :
    versionOf told = .ok version ↔ Tells told version := by
  cases told with
  | error failure => simp [versionOf, Except.bind, Tells]
  | ok banner =>
      cases hversion : Postgres.Banner.version? banner with
      | none => simp [versionOf, Except.bind, Tells, Postgres.Banner.parse, hversion]
      | some other => simp [versionOf, Except.bind, Tells, Postgres.Banner.parse, hversion]

/-- A banner tells one version only. -/
theorem Tells.iff_eq {told : Except Failure String} {version : Postgres.Version}
    (h : Tells told version) (other : Postgres.Version) : Tells told other ↔ other = version := by
  rw [← versionOf_eq_ok_iff] at h ⊢
  rw [h, Except.ok.injEq, eq_comm]

theorem not_tells_of_error {told : Except Failure String} {failure : Failure}
    (h : versionOf told = .error failure) (version : Postgres.Version) : ¬ Tells told version := by
  rw [← versionOf_eq_ok_iff, h]
  exact fun h => nomatch h

section Course

variable (s : Settings) (namespaceName : String) (answer : (q : Question) → q.Answer)

abbrev connectionOf : Connection :=
  .managed s.platform.components.database.user s.platform.components.database.password
    s.platform.components.database.name

/-- A way that the check can go, with its decision and its questions. -/
inductive Course : Decision → List Question → Prop
  | external (hexternal : s.usesExternalDatabase = true) : Course .noUpgrade []
  | marked (hexternal : s.usesExternalDatabase = false)
      (hmark : Marked (answer (.containers namespaceName))) :
      Course .upgradeNeeded [.containers namespaceName]
  | runningUnknown (hexternal : s.usesExternalDatabase = false)
      (hmark : ¬ Marked (answer (.containers namespaceName)))
      (hrunning : ∀ version, ¬ Tells (answer (.runningBanner (connectionOf s))) version)
      (reason : String) :
      Course (.undetermined reason) [.containers namespaceName, .runningBanner (connectionOf s)]
  | targetUnknown (hexternal : s.usesExternalDatabase = false)
      (hmark : ¬ Marked (answer (.containers namespaceName))) (current : Postgres.Version)
      (hrunning : Tells (answer (.runningBanner (connectionOf s))) current)
      (htarget : ∀ version, ¬ Tells (answer (.targetBanner namespaceName)) version)
      (reason : String) :
      Course (.undetermined reason)
        [.containers namespaceName, .runningBanner (connectionOf s), .targetBanner namespaceName]
  | compared (hexternal : s.usesExternalDatabase = false)
      (hmark : ¬ Marked (answer (.containers namespaceName))) (current target : Postgres.Version)
      (hrunning : Tells (answer (.runningBanner (connectionOf s))) current)
      (htarget : Tells (answer (.targetBanner namespaceName)) target) :
      Course (.ofVersions current target)
        [.containers namespaceName, .runningBanner (connectionOf s), .targetBanner namespaceName]

variable {s namespaceName answer}

theorem decide_of_external (hexternal : s.usesExternalDatabase = true) :
    (decide s namespaceName).value answer = .noUpgrade ∧ (decide s namespaceName).asked answer = [] := by
  unfold decide
  rw [if_pos hexternal]
  exact ⟨rfl, rfl⟩

theorem decide_of_marked (hexternal : s.usesExternalDatabase = false)
    (hmark : Marked (answer (.containers namespaceName))) :
    (decide s namespaceName).value answer = .upgradeNeeded ∧
      (decide s namespaceName).asked answer = [.containers namespaceName] := by
  obtain ⟨containers, htold, -⟩ := id hmark
  rw [htold, ← hasMark_iff] at hmark
  simp [decide, hexternal, htold, hmark]

/-- Without a mark the check compares the versions. -/
theorem decide_of_not_marked (hexternal : s.usesExternalDatabase = false)
    (hmark : ¬ Marked (answer (.containers namespaceName))) :
    (decide s namespaceName).value answer = (compareVersions s namespaceName).value answer ∧
      (decide s namespaceName).asked answer
        = .containers namespaceName :: (compareVersions s namespaceName).asked answer := by
  simp only [decide, hexternal, Bool.false_eq_true, if_false, Inquiry.bind_eq_bind,
    Inquiry.value_bind, Inquiry.asked_bind, Operator.value_containers, Operator.asked_containers,
    List.singleton_append]
  cases htold : answer (.containers namespaceName) with
  | error failure => exact ⟨rfl, rfl⟩
  | ok told =>
      cases told with
      | none => exact ⟨rfl, rfl⟩
      | some containers =>
          rw [htold, ← hasMark_iff, Bool.not_eq_true] at hmark
          simp [hmark]

/-- Without a mark the check follows one of the last three courses. -/
theorem course_compareVersions (hexternal : s.usesExternalDatabase = false)
    (hmark : ¬ Marked (answer (.containers namespaceName))) :
    Course s namespaceName answer ((compareVersions s namespaceName).value answer)
      (.containers namespaceName :: (compareVersions s namespaceName).asked answer) := by
  simp only [compareVersions, Inquiry.bind_eq_bind, Inquiry.value_bind, Inquiry.asked_bind,
    Operator.value_runningBanner, Operator.asked_runningBanner]
  cases hrunning : versionOf (answer (.runningBanner (connectionOf s))) with
  | error failure =>
      exact .runningUnknown hexternal hmark (not_tells_of_error hrunning) _
  | ok current =>
      have hcurrent := (versionOf_eq_ok_iff _ _).mp hrunning
      simp only [Inquiry.value_bind, Inquiry.asked_bind, Operator.value_targetBanner,
        Operator.asked_targetBanner]
      cases htarget : versionOf (answer (.targetBanner namespaceName)) with
      | error failure =>
          exact .targetUnknown hexternal hmark current hcurrent (not_tells_of_error htarget) _
      | ok target =>
          exact .compared hexternal hmark current target hcurrent
            ((versionOf_eq_ok_iff _ _).mp htarget)

/-- A check follows one of the courses. -/
theorem course_decide (s : Settings) (namespaceName : String)
    (answer : (q : Question) → q.Answer) :
    Course s namespaceName answer ((decide s namespaceName).value answer)
      ((decide s namespaceName).asked answer) := by
  cases hexternal : s.usesExternalDatabase with
  | true =>
      obtain ⟨hvalue, hasked⟩ := decide_of_external hexternal
      rw [hvalue, hasked]
      exact .external hexternal
  | false =>
      by_cases hmark : Marked (answer (.containers namespaceName))
      · obtain ⟨hvalue, hasked⟩ := decide_of_marked hexternal hmark
        rw [hvalue, hasked]
        exact .marked hexternal hmark
      · obtain ⟨hvalue, hasked⟩ := decide_of_not_marked hexternal hmark
        rw [hvalue, hasked]
        exact course_compareVersions hexternal hmark

theorem Course.containers_mem_asked {decision : Decision} {asked : List Question}
    (h : Course s namespaceName answer decision asked) (hexternal : s.usesExternalDatabase = false) :
    .containers namespaceName ∈ asked := by
  cases h with
  | external hused => simp [hexternal] at hused
  | marked | runningUnknown | targetUnknown | compared => exact List.mem_cons_self

end Course

end Upgrade

end OperatorConfig
