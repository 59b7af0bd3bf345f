import OperatorConfig.Proofs.Upgrade.Course

/-!
# When an upgrade is decided, and what is asked for it

The decisions and the questions of a check, for all settings and whatever the collaborators say. Every
fact here is read off the five courses of a check.
-/

namespace OperatorConfig.Upgrade

def withContainers (told : Except Failure (Option (List Container)))
    (answer : (q : Question) → q.Answer) : (q : Question) → q.Answer
  | .containers _ => told
  | .secrets name namespaceName => answer (.secrets name namespaceName)
  | .runningBanner connection => answer (.runningBanner connection)
  | .targetBanner namespaceName => answer (.targetBanner namespaceName)
  | .routeHost namespaceName => answer (.routeHost namespaceName)

theorem usesExternalDatabase_eq_false_iff (s : Settings) :
    s.usesExternalDatabase = false ↔ s.platform.components.database.externalUrl = "" := by
  simp [Settings.usesExternalDatabase]

theorem usesExternalDatabase_eq_true_iff (s : Settings) :
    s.usesExternalDatabase = true ↔ s.platform.components.database.externalUrl ≠ "" := by
  simp [Settings.usesExternalDatabase]

theorem needsUpgrade_eq_true_iff (decision : Decision) :
    decision.needsUpgrade = true ↔ decision = .upgradeNeeded := by
  cases decision <;> simp [Decision.needsUpgrade]

theorem ofVersions_eq_upgradeNeeded_iff (current target : Postgres.Version) :
    Decision.ofVersions current target = .upgradeNeeded ↔ current < target := by
  unfold Decision.ofVersions
  split <;> simp [*]

theorem ofVersions_eq_noUpgrade_iff (current target : Postgres.Version) :
    Decision.ofVersions current target = .noUpgrade ↔ ¬ current < target := by
  unfold Decision.ofVersions
  split <;> simp [*]

theorem ofVersions_ne_undetermined (current target : Postgres.Version) (reason : String) :
    Decision.ofVersions current target ≠ .undetermined reason := by
  unfold Decision.ofVersions
  split <;> simp

section

variable (s : Settings) (namespaceName : String) (answer : (q : Question) → q.Answer)

/-- Without a mark a check asks about versions only. -/
theorem mem_asked_compareVersions (hexternal : s.usesExternalDatabase = false)
    (hmark : ¬ Marked (answer (.containers namespaceName))) {q : Question}
    (hq : q ∈ (compareVersions s namespaceName).asked answer) :
    q = .runningBanner (connectionOf s) ∨ q = .targetBanner namespaceName := by
  have hcourse := course_compareVersions hexternal hmark
  generalize (compareVersions s namespaceName).value answer = decision at hcourse
  generalize (compareVersions s namespaceName).asked answer = asked at hcourse hq
  cases hcourse with
  | marked => simp at hq
  | runningUnknown => exact .inl (List.mem_singleton.mp hq)
  | targetUnknown => simpa using hq
  | compared => simpa using hq

/-- Containers that cannot be read are as good as none. -/
theorem decide_containers_error (failure : Failure) :
    (decide s namespaceName).value (withContainers (.error failure) answer)
        = (decide s namespaceName).value (withContainers (.ok none) answer) ∧
      (decide s namespaceName).asked (withContainers (.error failure) answer)
        = (decide s namespaceName).asked (withContainers (.ok none) answer) := by
  cases hexternal : s.usesExternalDatabase with
  | true => simp only [decide_of_external hexternal, and_self]
  | false =>
      have herror : ¬ Marked (withContainers (.error failure) answer (.containers namespaceName)) :=
        not_marked_error failure
      have hnone : ¬ Marked (withContainers (.ok none) answer (.containers namespaceName)) :=
        not_marked_none
      obtain ⟨hvalue, hasked⟩ := Inquiry.value_asked_congr (withContainers (.error failure) answer)
        (withContainers (.ok none) answer) (compareVersions s namespaceName) fun q hq => by
          rcases mem_asked_compareVersions s namespaceName (withContainers (.error failure) answer)
            hexternal herror hq with rfl | rfl <;> rfl
      obtain ⟨hvalueError, haskedError⟩ := decide_of_not_marked hexternal herror
      obtain ⟨hvalueNone, haskedNone⟩ := decide_of_not_marked hexternal hnone
      exact ⟨by rw [hvalueError, hvalueNone, hvalue], by rw [haskedError, haskedNone, hasked]⟩

end

/-! ### Two checks -/

/-- What two lists of questions both want to know about the database is answered alike, each with its own
answers. -/
structure SameDatabase (answer answer' : (q : Question) → q.Answer) (asked asked' : List Question) :
    Prop where
  containers (namespaceName : String) :
    .containers namespaceName ∈ asked → .containers namespaceName ∈ asked' →
      answer (.containers namespaceName) = answer' (.containers namespaceName)
  running (connection connection' : Connection) :
    .runningBanner connection ∈ asked → .runningBanner connection' ∈ asked' →
      answer (.runningBanner connection) = answer' (.runningBanner connection')
  target (namespaceName : String) :
    .targetBanner namespaceName ∈ asked → .targetBanner namespaceName ∈ asked' →
      answer (.targetBanner namespaceName) = answer' (.targetBanner namespaceName)

theorem SameDatabase.mono {answer answer' : (q : Question) → q.Answer}
    {asked asked' fewer fewer' : List Question} (hsame : SameDatabase answer answer' asked asked')
    (hfewer : fewer ⊆ asked) (hfewer' : fewer' ⊆ asked') :
    SameDatabase answer answer' fewer fewer' where
  containers namespaceName h h' := hsame.containers namespaceName (hfewer h) (hfewer' h')
  running connection connection' h h' := hsame.running connection connection' (hfewer h) (hfewer' h')
  target namespaceName h h' := hsame.target namespaceName (hfewer h) (hfewer' h')

section

variable {s other : Settings} {namespaceName : String} {answer answer' : (q : Question) → q.Answer}

theorem value_compareVersions_congr
    (hsame : SameDatabase answer answer' ((compareVersions s namespaceName).asked answer)
      ((compareVersions other namespaceName).asked answer')) :
    (compareVersions s namespaceName).value answer
      = (compareVersions other namespaceName).value answer' := by
  have hrunning := hsame.running (connectionOf s) (connectionOf other) List.mem_cons_self
    List.mem_cons_self
  have htarget := hsame.target namespaceName
  simp only [compareVersions, Inquiry.bind_eq_bind, Inquiry.value_bind, Inquiry.asked_bind,
    Operator.value_runningBanner, Operator.asked_runningBanner, hrunning] at htarget ⊢
  cases hversion : versionOf (answer' (.runningBanner (connectionOf other))) with
  | error failure => rfl
  | ok current =>
      simp only [hversion, Inquiry.value_bind, Inquiry.asked_bind, Operator.value_targetBanner,
        Operator.asked_targetBanner] at htarget ⊢
      rw [htarget (by simp) (by simp)]
      cases versionOf (answer' (.targetBanner namespaceName)) <;> rfl

/-- Checks of two settings decide alike where what both ask is answered alike. -/
theorem value_decide_congr (hexternal : s.usesExternalDatabase = other.usesExternalDatabase)
    (hsame : SameDatabase answer answer' ((decide s namespaceName).asked answer)
      ((decide other namespaceName).asked answer')) :
    (decide s namespaceName).value answer = (decide other namespaceName).value answer' := by
  cases hother : other.usesExternalDatabase with
  | true =>
      rw [hother] at hexternal
      rw [(decide_of_external hexternal).1, (decide_of_external hother).1]
  | false =>
      rw [hother] at hexternal
      have hasked := (course_decide s namespaceName answer).containers_mem_asked hexternal
      have hasked' := (course_decide other namespaceName answer').containers_mem_asked hother
      have hcontainers := hsame.containers namespaceName hasked hasked'
      by_cases hmark : Marked (answer' (.containers namespaceName))
      · rw [(decide_of_marked hexternal (hcontainers ▸ hmark)).1, (decide_of_marked hother hmark).1]
      · obtain ⟨hvalue, hasked⟩ := decide_of_not_marked hexternal (hcontainers ▸ hmark)
        obtain ⟨hvalue', hasked'⟩ := decide_of_not_marked hother hmark
        rw [hvalue, hvalue']
        refine value_compareVersions_congr (hsame.mono ?_ ?_)
        · rw [hasked]
          exact List.subset_cons_self _ _
        · rw [hasked']
          exact List.subset_cons_self _ _

end

/-! ### What the courses say -/

namespace Course

variable {s : Settings} {namespaceName : String} {answer : (q : Question) → q.Answer}
  {decision : Decision} {asked : List Question}

theorem upgradeNeeded_iff (h : Course s namespaceName answer decision asked) :
    decision = .upgradeNeeded ↔
      s.platform.components.database.externalUrl = "" ∧
        (Marked (answer (.containers namespaceName)) ∨
          ¬ Marked (answer (.containers namespaceName)) ∧ ∃ current target,
            Tells (answer (.runningBanner (connectionOf s))) current ∧
            Tells (answer (.targetBanner namespaceName)) target ∧
            (current.major < target.major ∨
              current.major = target.major ∧ current.minor < target.minor)) := by
  rw [← usesExternalDatabase_eq_false_iff]
  cases h with
  | external hexternal => simp [hexternal]
  | marked hexternal hmark => simp [hexternal, hmark]
  | runningUnknown hexternal hmark hrunning => simp [hmark, hrunning]
  | targetUnknown hexternal hmark current hrunning htarget => simp [hmark, htarget]
  | compared hexternal hmark current target hrunning htarget =>
      simp [hexternal, hmark, hrunning.iff_eq, htarget.iff_eq, ofVersions_eq_upgradeNeeded_iff,
        Postgres.Version.lt_iff]

theorem undetermined_iff (h : Course s namespaceName answer decision asked) :
    (∃ reason, decision = .undetermined reason) ↔
      s.platform.components.database.externalUrl = "" ∧
        ¬ Marked (answer (.containers namespaceName)) ∧
        ((∀ current, ¬ Tells (answer (.runningBanner (connectionOf s))) current) ∨
          ∀ target, ¬ Tells (answer (.targetBanner namespaceName)) target) := by
  rw [← usesExternalDatabase_eq_false_iff]
  cases h with
  | external hexternal => simp [hexternal]
  | marked hexternal hmark => simp [hmark]
  | runningUnknown hexternal hmark hrunning => simp [hexternal, hmark, hrunning]
  | targetUnknown hexternal hmark current hrunning htarget => simp [hexternal, hmark, htarget]
  | compared hexternal hmark current target hrunning htarget =>
      simp [hrunning.iff_eq, htarget.iff_eq, ofVersions_ne_undetermined]

theorem noUpgrade_iff (h : Course s namespaceName answer decision asked) :
    decision = .noUpgrade ↔
      s.platform.components.database.externalUrl ≠ "" ∨
        ¬ Marked (answer (.containers namespaceName)) ∧ ∃ current target,
          Tells (answer (.runningBanner (connectionOf s))) current ∧
          Tells (answer (.targetBanner namespaceName)) target ∧
          ¬ (current.major < target.major ∨
            current.major = target.major ∧ current.minor < target.minor) := by
  rw [← usesExternalDatabase_eq_true_iff]
  cases h with
  | external hexternal => simp [hexternal]
  | marked hexternal hmark => simp [hexternal, hmark]
  | runningUnknown hexternal hmark hrunning => simp [hexternal, hrunning]
  | targetUnknown hexternal hmark current hrunning htarget => simp [hexternal, htarget]
  | compared hexternal hmark current target hrunning htarget =>
      simp [hexternal, hmark, hrunning.iff_eq, htarget.iff_eq, ofVersions_eq_noUpgrade_iff,
        Postgres.Version.lt_iff]

theorem asked_isPrefix (h : Course s namespaceName answer decision asked) :
    asked <+: [.containers namespaceName, .runningBanner (connectionOf s),
      .targetBanner namespaceName] := by
  cases h <;> simp

theorem asked_eq_nil_iff (h : Course s namespaceName answer decision asked) :
    asked = [] ↔ s.platform.components.database.externalUrl ≠ "" := by
  rw [← usesExternalDatabase_eq_true_iff]
  cases h <;> simp [*]

theorem asked_eq_containers_iff (h : Course s namespaceName answer decision asked) :
    asked = [.containers namespaceName] ↔
      s.platform.components.database.externalUrl = "" ∧
        Marked (answer (.containers namespaceName)) := by
  rw [← usesExternalDatabase_eq_false_iff]
  cases h <;> simp [*]

theorem asked_eq_runningBanner_iff (h : Course s namespaceName answer decision asked) :
    asked = [.containers namespaceName, .runningBanner (connectionOf s)] ↔
      s.platform.components.database.externalUrl = "" ∧
        ¬ Marked (answer (.containers namespaceName)) ∧
        ∀ current, ¬ Tells (answer (.runningBanner (connectionOf s))) current := by
  rw [← usesExternalDatabase_eq_false_iff]
  cases h with
  | external hexternal => simp [hexternal]
  | marked hexternal hmark => simp [hmark]
  | runningUnknown hexternal hmark hrunning => simp [hexternal, hmark, hrunning]
  | targetUnknown hexternal hmark current hrunning => simp [hrunning.iff_eq]
  | compared hexternal hmark current target hrunning => simp [hrunning.iff_eq]

theorem asked_eq_targetBanner_iff (h : Course s namespaceName answer decision asked) :
    asked = [.containers namespaceName, .runningBanner (connectionOf s),
        .targetBanner namespaceName] ↔
      s.platform.components.database.externalUrl = "" ∧
        ¬ Marked (answer (.containers namespaceName)) ∧
        ∃ current, Tells (answer (.runningBanner (connectionOf s))) current := by
  rw [← usesExternalDatabase_eq_false_iff]
  cases h with
  | external hexternal => simp [hexternal]
  | marked hexternal hmark => simp [hmark]
  | runningUnknown hexternal hmark hrunning => simp [hrunning]
  | targetUnknown hexternal hmark current hrunning => simp [hexternal, hmark, hrunning.iff_eq]
  | compared hexternal hmark current target hrunning => simp [hexternal, hmark, hrunning.iff_eq]

end Course

section

variable (s : Settings) (namespaceName : String) (answer : (q : Question) → q.Answer)

/-- An upgrade is decided exactly for a managed database that is marked as being upgraded, or that is
not marked and runs a version known to be earlier than the known one of the next rollout; the decision
stays open exactly where there is no mark and one of the versions is unknown. Containers that cannot be
read count as none. What is asked is the shortest part of containers, running version and version of the
next rollout that settles the decision. -/
theorem decide_iff :
    ((decide s namespaceName).value answer = .upgradeNeeded ↔
      s.platform.components.database.externalUrl = "" ∧
        (Marked (answer (.containers namespaceName)) ∨
          ¬ Marked (answer (.containers namespaceName)) ∧ ∃ current target,
            Tells (answer (.runningBanner (connectionOf s))) current ∧
            Tells (answer (.targetBanner namespaceName)) target ∧
            (current.major < target.major ∨
              current.major = target.major ∧ current.minor < target.minor))) ∧
    ((∃ reason, (decide s namespaceName).value answer = .undetermined reason) ↔
      s.platform.components.database.externalUrl = "" ∧
        ¬ Marked (answer (.containers namespaceName)) ∧
        ((∀ current, ¬ Tells (answer (.runningBanner (connectionOf s))) current) ∨
          ∀ target, ¬ Tells (answer (.targetBanner namespaceName)) target)) ∧
    ((decide s namespaceName).value answer = .noUpgrade ↔
      s.platform.components.database.externalUrl ≠ "" ∨
        ¬ Marked (answer (.containers namespaceName)) ∧ ∃ current target,
          Tells (answer (.runningBanner (connectionOf s))) current ∧
          Tells (answer (.targetBanner namespaceName)) target ∧
          ¬ (current.major < target.major ∨
            current.major = target.major ∧ current.minor < target.minor)) ∧
    (∀ failure,
      (decide s namespaceName).value (withContainers (.error failure) answer)
          = (decide s namespaceName).value (withContainers (.ok none) answer) ∧
        (decide s namespaceName).asked (withContainers (.error failure) answer)
          = (decide s namespaceName).asked (withContainers (.ok none) answer)) ∧
    (decide s namespaceName).asked answer <+:
      [.containers namespaceName, .runningBanner (connectionOf s), .targetBanner namespaceName] ∧
    ((decide s namespaceName).asked answer = [] ↔
      s.platform.components.database.externalUrl ≠ "") ∧
    ((decide s namespaceName).asked answer = [.containers namespaceName] ↔
      s.platform.components.database.externalUrl = "" ∧
        Marked (answer (.containers namespaceName))) ∧
    ((decide s namespaceName).asked answer
        = [.containers namespaceName, .runningBanner (connectionOf s)] ↔
      s.platform.components.database.externalUrl = "" ∧
        ¬ Marked (answer (.containers namespaceName)) ∧
        ∀ current, ¬ Tells (answer (.runningBanner (connectionOf s))) current) ∧
    ((decide s namespaceName).asked answer
        = [.containers namespaceName, .runningBanner (connectionOf s), .targetBanner namespaceName] ↔
      s.platform.components.database.externalUrl = "" ∧
        ¬ Marked (answer (.containers namespaceName)) ∧
        ∃ current, Tells (answer (.runningBanner (connectionOf s))) current) := by
  have hcourse := course_decide s namespaceName answer
  exact ⟨hcourse.upgradeNeeded_iff, hcourse.undetermined_iff, hcourse.noUpgrade_iff,
    decide_containers_error s namespaceName answer, hcourse.asked_isPrefix, hcourse.asked_eq_nil_iff,
    hcourse.asked_eq_containers_iff, hcourse.asked_eq_runningBanner_iff,
    hcourse.asked_eq_targetBanner_iff⟩

end

end OperatorConfig.Upgrade
