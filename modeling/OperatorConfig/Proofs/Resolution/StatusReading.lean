import OperatorConfig.Proofs.Resolution.Status
import OperatorConfig.Proofs.Schema.Streaming
import OperatorConfig.Resolution.StatusReading

/-!
# A status read back

A reader of a status fills in what the members say, one after the other and in any order; what no member
says is nothing in the end, as it was in the status of which the members were written.
-/

namespace OperatorConfig.Status

open Json (Node Members)

variable {status : Status} {read : List String} {depth settled : Nat} {key : String} {node : Node}
  {value : Json}

/-- What has been read of a status when the members of these keys have been read. -/
def Draft.of (status : Status) (read : List String) : Draft where
  phase := if "phase" ∈ read then some status.phase else none
  message := if "message" ∈ read then some status.message else none
  databaseNeedsUpgrade :=
    if "databaseNeedsUpgrade" ∈ read then some status.databaseNeedsUpgrade else none
  upgradeDecision := if "upgradeDecision" ∈ read then some status.upgradeDecision else none
  lastResolutionTime := if "lastResolutionTime" ∈ read then some status.lastResolutionTime else none

theorem mem_textMember {name : String} {said : Option String} :
    (key, value) ∈ textMember name said ↔ ∃ text, said = some text ∧ key = name ∧ value = .text text := by
  cases said with
  | none => simp [textMember]
  | some text => simp [textMember]

theorem readOption_text {α : Type} {take : Node → Except Schema.Complaint α} {text : String}
    (hvalue : node.value depth = .ok (.text text)) : readOption take node = (take node).map some := by
  cases Json.Node.holds_of_value hvalue
  rfl

theorem readText_text {text : String} (hvalue : node.value depth = .ok (.text text)) :
    Schema.readText node = .ok text := by
  cases Json.Node.holds_of_value hvalue
  rfl

theorem readPhase_text {phase : Phase} {left : Nat} (hvalue : node.value depth = .ok (.text phase.name)) :
    readPhase left node = .ok phase := by
  cases Json.Node.holds_of_value hvalue
  cases phase <;> rfl

/-- A member is read into the field of its key. -/
theorem Draft.take_of (hmem : (key, value) ∈ status.members) (hnew : key ∉ read)
    (hvalue : node.value depth = .ok value) :
    (Draft.of status read).take depth key settled node = .ok (Draft.of status (key :: read)) := by
  simp only [members, List.mem_append, mem_textMember, List.mem_singleton, Prod.mk.injEq,
    Option.map_eq_some_iff] at hmem
  rcases hmem with (((⟨_, ⟨phase, hsaid, rfl⟩, rfl, rfl⟩ | ⟨text, hsaid, rfl, rfl⟩) | ⟨rfl, rfl⟩)
    | ⟨text, hsaid, rfl, rfl⟩) | ⟨text, hsaid, rfl, rfl⟩
  · simp [Draft.take, Draft.of, hnew, hsaid, readOption_text hvalue, readPhase_text hvalue, Except.map]
  · simp [Draft.take, Draft.of, hnew, hsaid, readOption_text hvalue, readText_text hvalue, Except.map]
  · cases Json.Node.holds_of_value hvalue
    simp [Draft.take, Draft.of, hnew, Schema.readFlag, Except.map]
  · simp [Draft.take, Draft.of, hnew, hsaid, readOption_text hvalue, readText_text hvalue, Except.map]
  · simp [Draft.take, Draft.of, hnew, hsaid, readOption_text hvalue, readText_text hvalue, Except.map]

theorem Draft.foldMembers_of : (members : Members) → {values : List (String × Json)} →
    members.values depth = .ok values → (∀ member ∈ values, member ∈ status.members) →
    (values.map Prod.fst).Nodup → {read : List String} → (∀ member ∈ values, member.1 ∉ read) →
    Schema.foldMembers (Draft.take depth) (Draft.of status read) members
      = .ok (Draft.of status ((values.map Prod.fst).reverse ++ read))
  | .close _, _, hvalues, _, _, _, _ => by
      cases hvalues
      rfl
  | .fault _ _, _, hvalues, _, _, _, _ => by cases hvalues
  | .member key settled node rest, _, hvalues, hmembers, hnodup, read, hnew => by
      obtain ⟨name, value, others, rfl, hvalue, hothers, rfl⟩ :=
        Json.values_member_eq_ok_iff.mp hvalues
      obtain ⟨hmember, hmembers⟩ := List.forall_mem_cons.mp hmembers
      obtain ⟨hname, hnew⟩ := List.forall_mem_cons.mp hnew
      obtain ⟨hfirst, hnodup⟩ := List.nodup_cons.mp hnodup
      have hrest : ∀ member ∈ others, member.1 ∉ name :: read := by
        intro member hmem
        rw [List.mem_cons, not_or]
        exact ⟨fun hsame => hfirst (List.mem_map.mpr ⟨member, hmem, hsame⟩), hnew member hmem⟩
      rw [List.map_cons, List.reverse_cons, List.append_assoc]
      exact Schema.foldMembers_member_eq_ok_iff.mpr ⟨name, _, rfl, Draft.take_of hmember hname hvalue,
        Draft.foldMembers_of rest hothers hmembers hnodup hrest⟩

theorem join_ite {α : Type} {name : String} {said : Option α}
    (hread : ∀ a, said = some a → name ∈ read) :
    (if name ∈ read then some said else none).join = said := by
  cases said with
  | none => split <;> rfl
  | some a => exact congrArg Option.join (if_pos (hread a rfl))

/-- When all members have been read, what none of them says is nothing. -/
theorem Draft.complete_of (hread : ∀ member ∈ status.members, member.1 ∈ read) :
    (Draft.of status read).complete = status := by
  have hphase : ∀ phase, status.phase = some phase → "phase" ∈ read := fun phase hsaid =>
    hread ("phase", .text phase.name) (by simp [members, mem_textMember, hsaid])
  have hmessage : ∀ text, status.message = some text → "message" ∈ read := fun text hsaid =>
    hread ("message", .text text) (by simp [members, mem_textMember, hsaid])
  have hflag : "databaseNeedsUpgrade" ∈ read :=
    hread ("databaseNeedsUpgrade", .flag status.databaseNeedsUpgrade) (by simp [members])
  have hdecision : ∀ text, status.upgradeDecision = some text → "upgradeDecision" ∈ read :=
    fun text hsaid => hread ("upgradeDecision", .text text) (by simp [members, mem_textMember, hsaid])
  have htime : ∀ text, status.lastResolutionTime = some text → "lastResolutionTime" ∈ read :=
    fun text hsaid => hread ("lastResolutionTime", .text text) (by simp [members, mem_textMember, hsaid])
  simp only [Draft.complete, Draft.of, join_ite hphase, join_ite hmessage, if_pos hflag,
    join_ite hdecision, join_ite htime]
  rfl

/-- A status is read back from a node with its members, in whichever order they stand. -/
theorem readNode_of_value {members : List (String × Json)} (hperm : members.Perm status.members)
    (hvalue : node.value depth = .ok (.object members)) : readNode depth node = .ok status := by
  cases Json.Node.holds_of_value hvalue with
  | @object depth start written _ hmembers =>
      have hsame : ∀ member ∈ members, member ∈ status.members := fun _ hmem => hperm.mem_iff.mp hmem
      have hnodup : (members.map Prod.fst).Nodup := (hperm.map Prod.fst).nodup_iff.mpr status.nodup_members
      have hnone : ∀ member ∈ members, member.1 ∉ ([] : List String) := fun _ _ => List.not_mem_nil
      have hfold := Draft.foldMembers_of written hmembers hsame hnodup hnone
      have hread : ∀ member ∈ status.members, member.1 ∈ (members.map Prod.fst).reverse ++ [] := by
        intro member hmem
        rw [List.append_nil, List.mem_reverse]
        exact List.mem_map_of_mem (hperm.mem_iff.mpr hmem)
      change (Schema.foldMembers (Draft.take depth) (Draft.of status []) written).bind
        (fun draft => .ok draft.complete) = .ok status
      rw [hfold]
      exact congrArg Except.ok (Draft.complete_of hread)

/-! ### Canonical order -/

theorem leaf_of_mem (hmem : (key, value) ∈ status.members) :
    (∃ text, value = .text text) ∨ ∃ on, value = .flag on := by
  simp only [members, List.mem_append, mem_textMember, List.mem_singleton, Prod.mk.injEq] at hmem
  rcases hmem with (((⟨text, -, -, rfl⟩ | ⟨text, -, -, rfl⟩) | ⟨-, rfl⟩) | ⟨text, -, -, rfl⟩)
    | ⟨text, -, -, rfl⟩
  · exact .inl ⟨text, rfl⟩
  · exact .inl ⟨text, rfl⟩
  · exact .inr ⟨_, rfl⟩
  · exact .inl ⟨text, rfl⟩
  · exact .inl ⟨text, rfl⟩

theorem perm_canonicalMembers (status : Status) :
    (Json.canonicalMembers status.members).Perm status.members := by
  have hleaf : ∀ member ∈ status.members, (member.1, member.2.canonical) = id member := by
    rintro ⟨key, value⟩ hmem
    rcases leaf_of_mem hmem with ⟨text, rfl⟩ | ⟨on, rfl⟩ <;> rfl
  have hperm := Json.perm_canonicalMembers status.nodup_members
  rw [List.map_congr_left hleaf, List.map_id] at hperm
  exact hperm

end OperatorConfig.Status
