import OperatorConfig.Cluster.Access
import OperatorConfig.Proofs.Inquiry
import OperatorConfig.Proofs.Resolution.Status

/-!
# What the custom resource says after reports

A report sends a status as a patch, and a status leaves out what it does not say. So the cluster keeps
the decision of an earlier report when a failure is reported, although nothing has been decided then: the
phase, the message and the flag are always those of the last outcome, and the decision is the last one
that was ever reported.
-/

namespace OperatorConfig

open Cluster (Exchange Request)

namespace Cluster

/-! ### Reports to the cluster -/

/-- What becomes of a resource by an exchange: a patch that is sent to its path is applied to it. -/
def Exchange.effect (path : String) (resource : Json) : Exchange → Json
  | .request ⟨.patch, target, some body⟩ => if target = path then resource.patched body else resource
  | _ => resource

/-- The part of a path behind an installation under which its status is patched. -/
def statusPart : String := s!"/status?&fieldManager={manager}"

def statusPath (namespaceName name : String) : Except RequestFlaw String :=
  (Request.about .patch .installations namespaceName name statusPart).map (·.path)

theorem about_statusPart {namespaceName name path : String}
    (hpath : statusPath namespaceName name = .ok path) (body : Json) :
    Request.about .patch .installations namespaceName name statusPart (some body)
      = .ok ⟨.patch, path, some body⟩ := by
  unfold statusPath Request.about at *
  by_cases hname : name = ""
  · rw [if_pos hname] at hpath
    cases hpath
  · simp only [if_neg hname] at hpath ⊢
    cases hsent : Request.sentPart false
        (Resource.installations.path namespaceName name ++ statusPart).toList with
    | error flaw =>
        rw [hsent] at hpath
        cases hpath
    | ok sent =>
        rw [hsent] at hpath
        cases hpath
        rfl

theorem asked_fetch {α : Type} (read : Reply → Except RequestFault α) (request : Request)
    (answer : (exchange : Exchange) → exchange.Answer) :
    (Wire.fetch read (.ok request)).asked answer = [.request request] := by
  simp [Wire.fetch, Wire.send, Inquiry.question, Inquiry.asked]

/-- A report is one patch of the status, whatever is answered. -/
theorem asked_report {namespaceName name path : String}
    (hpath : statusPath namespaceName name = .ok path) (status : Status)
    (answer : (exchange : Exchange) → exchange.Answer) :
    (report namespaceName name status).asked answer
      = [.request ⟨.patch, path, some (.object [("status", status.toJson)])⟩] := by
  have hfetch := asked_fetch (Reply.read Installation.readNode)
    ⟨.patch, path, some (.object [("status", status.toJson)])⟩ answer
  rw [← about_statusPart hpath] at hfetch
  change (Inquiry.bind (Wire.fetch (Reply.read Installation.readNode)
    (Request.about .patch .installations namespaceName name statusPart
      (some (.object [("status", status.toJson)])))) _).asked answer = _
  rw [Inquiry.asked_bind, hfetch]
  refine congrArg (_ :: ·) ?_
  split <;> rfl

end Cluster

/-! ### Reports one after the other -/

/-- A report of an outcome, with the time that is told and the answers that come back. -/
structure Report where
  outcome : Except Failure Resolution
  time : Option String
  answer : (exchange : Exchange) → exchange.Answer

namespace Report

def status (report : Report) : Status :=
  { Status.ofOutcome report.outcome with lastResolutionTime := report.time }

def decision? (report : Report) : Option String :=
  report.outcome.toOption.map (·.upgrade.name)

section Sending

variable (namespaceName name path : String)

def applied (resource : Json) (report : Report) : Json :=
  ((Cluster.report namespaceName name report.status).asked report.answer).foldl
    (Exchange.effect path) resource

def appliedAll (resource : Json) (reports : List Report) : Json :=
  reports.foldl (applied namespaceName name path) resource

end Sending

/-- The status that is held after reports. -/
def held (initial : Option Status) (reports : List Report) : Option Status :=
  reports.foldl (fun before report => some (report.status.onto before)) initial

variable {namespaceName name path : String}

theorem get?_applied (hpath : Cluster.statusPath namespaceName name = .ok path) {resource : Json}
    {before : Option Status} (hbefore : resource.get? "status" = before.map Status.toJson)
    (report : Report) (key : String) :
    (applied namespaceName name path resource report).get? key
      = if key = "status" then some (report.status.onto before).toJson else resource.get? key := by
  rw [applied, Cluster.asked_report hpath]
  change (if path = path then _ else _ : Json).get? key = _
  rw [if_pos rfl, Json.get?_patched (by simp), Json.lookup_cons]
  by_cases hkey : key = "status"
  · subst hkey
    rw [if_pos rfl, if_pos rfl, hbefore]
    exact report.status.changed_toJson before
  · rw [if_neg hkey, if_neg hkey]
    rfl

theorem get?_appliedAll (hpath : Cluster.statusPath namespaceName name = .ok path) {resource : Json}
    {initial : Option Status} (hinitial : resource.get? "status" = initial.map Status.toJson)
    (reports : List Report) :
    (appliedAll namespaceName name path resource reports).get? "status"
        = (held initial reports).map Status.toJson ∧
      ∀ key, key ≠ "status" →
        (appliedAll namespaceName name path resource reports).get? key = resource.get? key := by
  induction reports generalizing resource initial with
  | nil => exact ⟨hinitial, fun key _ => rfl⟩
  | cons report rest ih =>
      have hstep := get?_applied hpath hinitial report
      have hstatus : (applied namespaceName name path resource report).get? "status"
          = (some (report.status.onto initial)).map Status.toJson := by
        rw [hstep, if_pos rfl]
        rfl
      obtain ⟨hlast, hothers⟩ := ih hstatus
      refine ⟨hlast, fun key hkey => (hothers key hkey).trans ?_⟩
      rw [hstep, if_neg hkey]

theorem held_append_singleton (initial : Option Status) (earlier : List Report) (last : Report) :
    held initial (earlier ++ [last]) = some (last.status.onto (held initial earlier)) := by
  rw [held, List.foldl_append]
  rfl

/-- Of what a status need not say, what was said last is held. -/
theorem bind_held {α : Type} (say : Status → Option α)
    (hsay : ∀ status before, say (Status.onto status before) = (say status).or (before.bind say))
    (initial : Option Status) (reports : List Report) :
    (held initial reports).bind say
      = (reports.filterMap fun report => say report.status).getLast?.or (initial.bind say) := by
  induction reports generalizing initial with
  | nil => simp [held]
  | cons report rest ih =>
      have hrest := ih (some (report.status.onto initial))
      rw [Option.bind_some, hsay] at hrest
      refine hrest.trans ?_
      rw [List.filterMap_cons]
      cases say report.status with
      | none => rfl
      | some said =>
          simp only [List.getLast?_cons]
          cases (rest.filterMap fun report => say report.status).getLast? <;> rfl

theorem upgradeDecision_status (report : Report) :
    report.status.upgradeDecision = report.decision? := by
  unfold status decision?
  cases report.outcome <;> rfl

theorem decision?_eq_none_iff (report : Report) :
    report.decision? = none ↔ ∃ failure, report.outcome = .error failure := by
  unfold decision?
  cases report.outcome <;> simp [Except.toOption]

theorem bind_held_upgradeDecision (initial : Option Status) (reports : List Report) :
    (held initial reports).bind (·.upgradeDecision)
      = (reports.filterMap decision?).getLast?.or (initial.bind (·.upgradeDecision)) := by
  simpa only [upgradeDecision_status] using
    bind_held (·.upgradeDecision) (fun _ _ => rfl) initial reports

theorem bind_held_lastResolutionTime (initial : Option Status) (reports : List Report) :
    (held initial reports).bind (·.lastResolutionTime)
      = (reports.filterMap time).getLast?.or (initial.bind (·.lastResolutionTime)) :=
  bind_held (·.lastResolutionTime) (fun _ _ => rfl) initial reports

theorem held_upgradeDecision_eq_none_iff (initial : Option Status) (reports : List Report) :
    (held initial reports).bind (·.upgradeDecision) = none ↔
      initial.bind (·.upgradeDecision) = none ∧
        ∀ report ∈ reports, ∃ failure, report.outcome = .error failure := by
  rw [bind_held_upgradeDecision, Option.or_eq_none_iff, List.getLast?_eq_none_iff,
    List.filterMap_eq_nil_iff, and_comm]
  simp only [decision?_eq_none_iff]

theorem onto_told (last : Report) (before : Option Status) :
    (last.status.onto before).phase = (Status.ofOutcome last.outcome).phase ∧
      (last.status.onto before).message = (Status.ofOutcome last.outcome).message := by
  have htold : ∀ outcome : Except Failure Resolution, ∃ phase message,
      (Status.ofOutcome outcome).phase = some phase ∧
        (Status.ofOutcome outcome).message = some message := by
    intro outcome
    cases outcome with
    | error failure => exact ⟨_, _, rfl, rfl⟩
    | ok resolution =>
        obtain ⟨settings, decision⟩ := resolution
        cases decision <;> exact ⟨_, _, rfl, rfl⟩
  obtain ⟨phase, message, hphase, hmessage⟩ := htold last.outcome
  simp [Status.onto, status, hphase, hmessage]

theorem describes_onto_iff (last : Report) (before : Option Status) :
    (last.status.onto before).Describes last.outcome ↔
      (∃ resolution, last.outcome = .ok resolution) ∨ before.bind (·.upgradeDecision) = none := by
  obtain ⟨hphase, hmessage⟩ := onto_told last before
  have hflag : (last.status.onto before).databaseNeedsUpgrade
      = (Status.ofOutcome last.outcome).databaseNeedsUpgrade := rfl
  have hdecision : (last.status.onto before).upgradeDecision
      = (Status.ofOutcome last.outcome).upgradeDecision.or (before.bind (·.upgradeDecision)) := rfl
  simp only [Status.describes_iff, hphase, hmessage, hflag, hdecision, true_and]
  cases last.outcome with
  | error failure => simp [Status.ofOutcome, Status.ofDecision, Except.map]
  | ok resolution => simp [Status.ofOutcome, Status.ofDecision, Except.map]

/-- After reports the phase, the message and the flag are those of the last outcome. The decision is the
last one that was ever reported, or else the one that had been there; a failure has none and does not
take it away. So the status describes the last outcome just where that has a decision itself or there
has been none at all. -/
theorem status_after_reports (hpath : Cluster.statusPath namespaceName name = .ok path)
    {resource : Json} {initial : Option Status}
    (hinitial : resource.get? "status" = initial.map Status.toJson)
    (earlier : List Report) (last : Report) :
    (∃ stored : Status,
      (appliedAll namespaceName name path resource (earlier ++ [last])).get? "status"
        = some stored.toJson ∧
      stored.phase = (Status.ofOutcome last.outcome).phase ∧
      stored.message = (Status.ofOutcome last.outcome).message ∧
      stored.databaseNeedsUpgrade = (Status.ofOutcome last.outcome).databaseNeedsUpgrade ∧
      stored.upgradeDecision
        = ((earlier ++ [last]).filterMap decision?).getLast?.or
            (initial.bind (·.upgradeDecision)) ∧
      stored.lastResolutionTime
        = ((earlier ++ [last]).filterMap time).getLast?.or
            (initial.bind (·.lastResolutionTime)) ∧
      (stored.Describes last.outcome ↔
        (∃ resolution, last.outcome = .ok resolution) ∨
          initial.bind (·.upgradeDecision) = none ∧
            ∀ report ∈ earlier, ∃ failure, report.outcome = .error failure)) ∧
    ∀ key, key ≠ "status" →
      (appliedAll namespaceName name path resource (earlier ++ [last])).get? key
        = resource.get? key := by
  obtain ⟨hstatus, hothers⟩ := get?_appliedAll hpath hinitial (earlier ++ [last])
  have hdecision := bind_held_upgradeDecision initial (earlier ++ [last])
  have htime := bind_held_lastResolutionTime initial (earlier ++ [last])
  rw [held_append_singleton] at hstatus hdecision htime
  obtain ⟨hphase, hmessage⟩ := onto_told last (held initial earlier)
  refine ⟨⟨_, hstatus, hphase, hmessage, rfl, hdecision, htime, ?_⟩, hothers⟩
  rw [describes_onto_iff, held_upgradeDecision_eq_none_iff]

/-! ### A failure after a resolution -/

def unanswered (outcome : Except Failure Resolution) (time : String) : Report where
  outcome := outcome
  time := some time
  answer
    | .request _ => .silent
    | .message _ (.startup _ _) => .error "no answer"
    | .message _ (.password _) => .error "no answer"
    | .message _ (.query _) => .error "no answer"

def resolvedFirst : Report :=
  unanswered (.ok ⟨default, .noUpgrade⟩) "2024-01-01T00:00:00+00:00"

def failedThen : Report :=
  unanswered (.error (.configuration "bad url")) "2024-01-01T00:01:00+00:00"

def appPath : String :=
  "/apis/syndesis.io/v1beta2/namespaces/syndesis/syndesises/app/status?&fieldManager=syndesis-operator"

theorem statusPath_app : Cluster.statusPath "syndesis" "app" = .ok appPath := by decide +kernel

/-- A failure after a resolution leaves the decision of the resolution in place. -/
theorem status_after_failure :
    Cluster.statusPath "syndesis" "app" = .ok appPath ∧
    (Json.object []).get? "status" = (none : Option Status).map Status.toJson ∧
    ∃ stored : Status,
      (appliedAll "syndesis" "app" appPath (.object []) [resolvedFirst, failedThen]).get? "status"
        = some stored.toJson ∧
      stored.phase = some .resolutionFailed ∧
      stored.upgradeDecision = some "NoUpgrade" ∧
      ¬ stored.Describes failedThen.outcome := by
  obtain ⟨⟨stored, hstored, hphase, -, -, hdecision, -, hdescribes⟩, -⟩ :=
    @status_after_reports "syndesis" "app" appPath statusPath_app (.object []) none rfl
      [resolvedFirst] failedThen
  refine ⟨statusPath_app, rfl, stored, hstored, hphase, hdecision, ?_⟩
  rw [hdescribes]
  simp [failedThen, resolvedFirst, unanswered]

/-- What is stored after a failure that follows a resolution is not what has been reported of it. -/
theorem failure_keeps_decision :
    (appliedAll "syndesis" "app" appPath (.object []) [resolvedFirst, failedThen]).at?
        ["status", "phase"] = some (.text "ResolutionFailed") ∧
    (appliedAll "syndesis" "app" appPath (.object []) [resolvedFirst, failedThen]).at?
        ["status", "upgradeDecision"] = some (.text "NoUpgrade") ∧
    failedThen.status.upgradeDecision = none ∧
    (appliedAll "syndesis" "app" appPath (.object []) [resolvedFirst, failedThen]).get? "status"
      ≠ some failedThen.status.toJson := by
  obtain ⟨hstatus, -⟩ := @get?_appliedAll "syndesis" "app" appPath statusPath_app (.object []) none
    rfl [resolvedFirst, failedThen]
  refine ⟨?_, ?_, rfl, fun hsame => ?_⟩
  · rw [Json.at?, hstatus]
    rfl
  · rw [Json.at?, hstatus]
    rfl
  · rw [hstatus] at hsame
    have hdecision := congrArg (fun status => status.bind (·.get? "upgradeDecision")) hsame
    cases hdecision

end Report

end OperatorConfig
