import OperatorConfig.Proofs.Json.Patch
import OperatorConfig.Resolution.Status

/-!
# A status as a patch

A status is an object that leaves out what it does not say. So, applied as a patch, it is put over the
status that is held: what it does not say stays as it was.
-/

namespace OperatorConfig

namespace Status

/-! ### The members of a status -/

theorem lookup_textMember (key name : String) (value : Option String) :
    Json.lookup key (textMember name value) = if key = name then value.map .text else none := by
  cases value with
  | none => simp [textMember, Json.lookup]
  | some value => rfl

def members (status : Status) : List (String × Json) :=
  textMember "phase" (status.phase.map Phase.name)
    ++ textMember "message" status.message
    ++ [("databaseNeedsUpgrade", .flag status.databaseNeedsUpgrade)]
    ++ textMember "upgradeDecision" status.upgradeDecision
    ++ textMember "lastResolutionTime" status.lastResolutionTime

theorem toJson_eq (status : Status) :
    status.toJson = .object (Json.canonicalMembers status.members) := by
  rw [toJson, Json.canonical]
  rfl

theorem nodup_members (status : Status) : (status.members.map Prod.fst).Nodup := by
  have htext : ∀ name value, ((textMember name value).map Prod.fst).Sublist [name] := by
    intro name value
    cases value <;> simp [textMember]
  have hkeys : (status.members.map Prod.fst).Sublist
      ["phase", "message", "databaseNeedsUpgrade", "upgradeDecision", "lastResolutionTime"] := by
    simp only [members, List.map_append]
    exact ((((htext _ _).append (htext _ _)).append (.refl _)).append (htext _ _)).append (htext _ _)
  exact List.Nodup.sublist hkeys (by decide)

theorem lookup_members (status : Status) (key : String) :
    Json.lookup key status.members
      = if key = "phase" then (status.phase.map Phase.name).map .text
        else if key = "message" then status.message.map .text
        else if key = "databaseNeedsUpgrade" then some (.flag status.databaseNeedsUpgrade)
        else if key = "upgradeDecision" then status.upgradeDecision.map .text
        else if key = "lastResolutionTime" then status.lastResolutionTime.map .text
        else none := by
  simp only [members, Json.lookup_append, lookup_textMember, Json.lookup]
  split_ifs <;> simp_all

theorem leaf_of_lookup {status : Status} {key : String} {value : Json}
    (h : Json.lookup key status.members = some value) :
    (∃ text, value = .text text) ∨ ∃ flag, value = .flag flag := by
  have htext : ∀ {said : Option String}, said.map Json.text = some value →
      ∃ text, value = .text text := by
    intro said hsaid
    obtain ⟨text, -, rfl⟩ := Option.map_eq_some_iff.mp hsaid
    exact ⟨text, rfl⟩
  rw [lookup_members] at h
  split_ifs at h
  · exact .inl (htext h)
  · exact .inl (htext h)
  · exact .inr ⟨_, (Option.some.inj h).symm⟩
  · exact .inl (htext h)
  · exact .inl (htext h)

theorem lookup_canonicalMembers (status : Status) (key : String) :
    Json.lookup key (Json.canonicalMembers status.members) = Json.lookup key status.members := by
  rw [Json.lookup_canonicalMembers status.nodup_members]
  cases h : Json.lookup key status.members with
  | none => rfl
  | some value => rcases leaf_of_lookup h with ⟨text, rfl⟩ | ⟨flag, rfl⟩ <;> rfl

/-! ### A status over another one -/

/-- A status with what was held before wherever it says nothing itself. -/
def onto (status : Status) (held : Option Status) : Status where
  phase := status.phase.or (held.bind (·.phase))
  message := status.message.or (held.bind (·.message))
  databaseNeedsUpgrade := status.databaseNeedsUpgrade
  upgradeDecision := status.upgradeDecision.or (held.bind (·.upgradeDecision))
  lastResolutionTime := status.lastResolutionTime.or (held.bind (·.lastResolutionTime))

theorem lookup_members_onto (status : Status) (held : Option Status) (key : String) :
    Json.lookup key (status.onto held).members
      = (Json.lookup key status.members).or
          (held.bind fun held => Json.lookup key held.members) := by
  simp only [lookup_members, onto]
  cases held with
  | none => simp
  | some held => split_ifs <;> simp [Option.map_or]

/-- A status that is applied as a patch is put over the status that is held. -/
theorem changed_toJson (status : Status) (held : Option Status) :
    Json.changed (held.map toJson) status.toJson = some (status.onto held).toJson := by
  have hplain : ∀ key value, Json.lookup key (Json.canonicalMembers status.members) = some value →
      ∀ before, Json.changed before value = some value := by
    intro key value hsaid before
    rw [lookup_canonicalMembers] at hsaid
    rcases leaf_of_lookup hsaid with ⟨text, rfl⟩ | ⟨flag, rfl⟩ <;> rfl
  have hchanges := Json.ordered_canonicalMembers status.members
  have hresult := Json.ordered_canonicalMembers (status.onto held).members
  cases held with
  | none =>
      have hmembers : Json.patchedMembers [] (Json.canonicalMembers status.members)
          = Json.canonicalMembers (status.onto none).members := by
        refine Json.patchedMembers_eq List.Pairwise.nil hchanges hresult hplain fun key => ?_
        rw [lookup_canonicalMembers, lookup_canonicalMembers, lookup_members_onto]
        rfl
      rw [toJson_eq, toJson_eq, ← hmembers]
      rfl
  | some held =>
      have hmembers : Json.patchedMembers (Json.canonicalMembers held.members)
          (Json.canonicalMembers status.members)
            = Json.canonicalMembers (status.onto (some held)).members := by
        refine Json.patchedMembers_eq (Json.ordered_canonicalMembers _) hchanges hresult hplain
          fun key => ?_
        simp only [lookup_canonicalMembers, lookup_members_onto, Option.bind_some]
      rw [Option.map_some, toJson_eq, toJson_eq, toJson_eq, ← hmembers]
      rfl

/-- The time aside, a status describes an outcome. -/
def Describes (status : Status) (outcome : Except Failure Resolution) : Prop :=
  { status with lastResolutionTime := none } = ofOutcome outcome

theorem describes_iff (status : Status) (outcome : Except Failure Resolution) :
    status.Describes outcome ↔
      status.phase = (ofOutcome outcome).phase ∧
        status.message = (ofOutcome outcome).message ∧
        status.databaseNeedsUpgrade = (ofOutcome outcome).databaseNeedsUpgrade ∧
        status.upgradeDecision = (ofOutcome outcome).upgradeDecision := by
  have htime : (ofOutcome outcome).lastResolutionTime = none := by cases outcome <;> rfl
  unfold Describes
  generalize ofOutcome outcome = told at htime ⊢
  cases told
  cases htime
  simp

end Status

end OperatorConfig
