import OperatorConfig.Proofs.Schema.Leaf
import OperatorConfig.Proofs.Schema.RoundTrip
import OperatorConfig.Proofs.Success

/-!
# Members in any order

A decoder goes through the members of an object in the order in which they stand. What it makes of them
does not depend on that order as long as no two fields share a name: each field gets the one member that
is meant for it, and all that means no field may be left out (`toOption_putAll`). Everything that is
known about objects is known through `Fields.gather`.
-/

namespace OperatorConfig.Schema

/-! ### The names of fields -/

mutual
/-- No name means two fields of one record. -/
def Shape.Separate : Shape → Prop
  | .record _ fields => fields.Separate
  | _ => True
def Fields.Separate : Fields → Prop
  | .done => True
  | .field key shape rest =>
      (∀ name ∈ key.spellings, name ∉ rest.spellings) ∧ shape.Separate ∧ rest.Separate
end

mutual
def Shape.decideSeparate : (shape : Shape) → Decidable shape.Separate
  | .record _ fields => fields.decideSeparate
  | .text => isTrue trivial
  | .flag => isTrue trivial
  | .integer => isTrue trivial
  | .texts => isTrue trivial
  | .table => isTrue trivial
def Fields.decideSeparate : (fields : Fields) → Decidable fields.Separate
  | .done => isTrue trivial
  | .field key shape rest =>
      have := shape.decideSeparate
      have := rest.decideSeparate
      inferInstanceAs (Decidable
        ((∀ name ∈ key.spellings, name ∉ rest.spellings) ∧ shape.Separate ∧ rest.Separate))
end

instance (shape : Shape) : Decidable shape.Separate := shape.decideSeparate

theorem Key.names_iff {key : Key} {name : String} :
    key.names name = true ↔ name ∈ key.spellings := by
  unfold Key.names Key.spellings
  rw [Bool.or_eq_true, decide_eq_true_eq, decide_eq_true_eq, List.mem_cons, Option.mem_toList]

def Key.meant (key : Key) (members : List (String × Json)) : List (String × Json) :=
  members.filter (key.names ·.1)

/-! ### Objects, one field after the other -/

section Members

variable {surplus : Surplus}

/-- What a field takes of the members that are meant for it. There may be one at most. -/
def Shape.single (surplus : Surplus) (shape : Shape) : List (String × Json) → Option shape.Value
  | [] => some shape.unset
  | [member] => (shape.decode surplus member.2).toOption
  | _ :: _ :: _ => none

def Fields.Values.cons {key : Key} {shape : Shape} {rest : Fields} (value : shape.Value)
    (values : rest.Values) : (Fields.field key shape rest).Values := (value, values)

/-- What fields take of members, each on its own. -/
def Fields.gather (surplus : Surplus) : (fields : Fields) → List (String × Json) → Option fields.Values
  | .done, _ => some ()
  | .field key shape rest, members =>
      (shape.single surplus (key.meant members)).bind fun value =>
        (rest.gather surplus members).map (Fields.Values.cons value)

def Fields.decodeMembers (surplus : Surplus) (fields : Fields) (members : List (String × Json)) :
    Except Mismatch fields.Values :=
  (fields.putAll surplus fields.unread members).bind fun read => .ok (fields.complete read)

/-- The members that are meant for a field, put into it one after the other. -/
def Shape.takeEach (surplus : Surplus) (shape : Shape) :
    Option shape.Value → List (String × Json) → Option (Option shape.Value)
  | held, [] => some held
  | some _, _ :: _ => none
  | none, member :: rest =>
      (shape.decode surplus member.2).toOption.bind fun value =>
        shape.takeEach surplus (some value) rest

theorem map_takeEach (shape : Shape) (members : List (String × Json)) :
    (shape.takeEach surplus none members).map (·.getD shape.unset) = shape.single surplus members := by
  match members with
  | [] => rfl
  | member :: rest =>
      rw [Shape.takeEach]
      cases hread : (shape.decode surplus member.2).toOption with
      | none => cases rest <;> simp [Shape.single, hread]
      | some value => cases rest <;> simp [Shape.single, Shape.takeEach, hread]

theorem put_of_not_mem {fields : Fields} {name : String} (hname : name ∉ fields.spellings)
    (read : fields.Partial) (value : Json) : fields.put surplus read name value = .ok read := by
  induction fields using Fields.names.induct with
  | case1 => rfl
  | case2 key shape rest ih =>
      obtain ⟨held, read⟩ := read
      rw [Fields.spellings, List.mem_append, not_or] at hname
      have hkey : key.names name = false := by
        rw [← Bool.not_eq_true, Key.names_iff]
        exact hname.1
      simp only [Fields.put, hkey, ih hname.2 read]
      rfl

/-- Replaying the known members among those that have been buffered is reading them all as they come. -/
theorem replay_eq_putAll (fields : Fields) (read : fields.Partial) (buffered : List (String × Json)) :
    fields.replay fields.spellings read buffered = fields.putAll .compared read buffered := by
  induction buffered generalizing read with
  | nil => rfl
  | cons head rest ih =>
      obtain ⟨name, value⟩ := head
      rw [Fields.replay, putAll_cons]
      by_cases hname : name ∈ fields.spellings
      · rw [if_pos (List.contains_iff_mem.mpr hname)]
        exact congrArg _ (funext ih)
      · rw [if_neg (mt List.contains_iff_mem.mp hname), ih, put_of_not_mem hname]
        rfl

theorem Shape.decodeWithin_object {outer : String} {shape : Shape} (hrecord : shape.isRecord = true)
    {members : List (String × Json)} :
    shape.decodeWithin outer (.object members) = shape.decode .compared (.object members) := by
  cases shape with
  | record name fields =>
      change (fields.replay fields.spellings fields.unread members).bind
        (fun read => .ok (fields.complete read)) = _
      rw [replay_eq_putAll]
      rfl
  | _ => cases hrecord

/-- Members that mean none of the fields may be left out. -/
theorem putAll_filter {fields : Fields} {keep : String × Json → Bool} (read : fields.Partial)
    {members : List (String × Json)}
    (hkeep : ∀ member ∈ members, keep member = false → member.1 ∉ fields.spellings) :
    fields.putAll surplus read (members.filter keep) = fields.putAll surplus read members := by
  induction members generalizing read with
  | nil => rfl
  | cons head rest ih =>
      obtain ⟨hhead, hrest⟩ := List.forall_mem_cons.mp hkeep
      rw [List.filter_cons, putAll_cons]
      cases hkept : keep head with
      | true =>
          rw [if_pos rfl, putAll_cons]
          exact congrArg _ (funext fun read => ih read hrest)
      | false =>
          rw [if_neg (by simp), put_of_not_mem (hhead hkept), ih read hrest]
          rfl

variable {key : Key} {shape : Shape} {rest : Fields}

open Fields.Partial (cons)

/-- A field and those behind it take their members independently of each other. -/
theorem toOption_putAll_field (held : Option shape.Value) (read : rest.Partial)
    (members : List (String × Json)) :
    ((Fields.field key shape rest).putAll surplus (cons held read) members).toOption
      = (shape.takeEach surplus held (key.meant members)).bind fun held =>
          (rest.putAll surplus read (members.filter (!key.names ·.1))).toOption.map (cons held) := by
  induction members generalizing held read with
  | nil => rfl
  | cons head members ih =>
      rw [putAll_cons, toOption_bind, Key.meant, List.filter_cons, List.filter_cons]
      cases hname : key.names head.1 with
      | true =>
          rw [if_pos rfl, if_neg (by simp)]
          cases held with
          | some value =>
              simp only [Fields.put, cons, hname]
              rfl
          | none =>
              simp only [Fields.put, cons, hname]
              rw [Shape.takeEach]
              cases shape.decode surplus head.2 with
              | error mismatch => rfl
              | ok value => exact ih (some value) read
      | false =>
          rw [if_neg Bool.false_ne_true, if_pos Bool.not_false, putAll_cons, toOption_bind]
          cases hput : rest.put surplus read head.1 head.2 with
          | error mismatch =>
              have hfailed : (Fields.field key shape rest).put surplus (cons held read) head.1 head.2
                  = .error mismatch := by
                simp only [Fields.put, cons, hname, hput]
                rfl
              rw [hfailed]
              cases shape.takeEach surplus held (members.filter (key.names ·.1)) <;> rfl
          | ok next =>
              rw [put_of_not_names hname held hput]
              exact ih held next

theorem putAll_done (members : List (String × Json)) :
    Fields.done.putAll surplus Fields.done.unread members = .ok () := by
  induction members with
  | nil => rfl
  | cons head members ih => exact ih

/-- What an object comes to does not depend on the order of its members. -/
theorem toOption_decodeMembers {fields : Fields} (hseparate : fields.Separate)
    (members : List (String × Json)) :
    (fields.decodeMembers surplus members).toOption = fields.gather surplus members := by
  have hread : ∀ fields : Fields, (fields.decodeMembers surplus members).toOption
      = (fields.putAll surplus fields.unread members).toOption.map fields.complete := by
    intro fields
    rw [Fields.decodeMembers, toOption_bind]
    cases (fields.putAll surplus fields.unread members).toOption <;> rfl
  induction fields using Fields.names.induct with
  | case1 =>
      rw [hread, putAll_done]
      rfl
  | case2 key shape rest ih =>
      obtain ⟨hkey, -, hrest⟩ := hseparate
      have hothers : rest.putAll surplus rest.unread (members.filter (!key.names ·.1))
          = rest.putAll surplus rest.unread members := by
        refine putAll_filter rest.unread fun member _ hkept => ?_
        exact hkey member.1 (Key.names_iff.mp (by simpa using hkept))
      rw [hread, Fields.gather, ← ih hrest, hread, ← map_takeEach]
      change Option.map _ ((Fields.field key shape rest).putAll surplus (cons none rest.unread)
        members).toOption = _
      rw [toOption_putAll_field, hothers]
      cases shape.takeEach surplus none (key.meant members) with
      | none => rfl
      | some held => cases (rest.putAll surplus rest.unread members).toOption <;> rfl

theorem decodeMembers_eq_ok_iff {fields : Fields} (hseparate : fields.Separate)
    {members : List (String × Json)} {values : fields.Values} :
    fields.decodeMembers surplus members = .ok values ↔ fields.gather surplus members = some values := by
  rw [← toOption_eq_some_iff, toOption_decodeMembers hseparate]

theorem gather_field_eq_some_iff {members : List (String × Json)}
    {values : (Fields.field key shape rest).Values} :
    (Fields.field key shape rest).gather surplus members = some values ↔
      ∃ value others, shape.single surplus (key.meant members) = some value ∧
        rest.gather surplus members = some others ∧ .cons value others = values := by
  rw [Fields.gather]
  simp only [Option.bind_eq_some_iff, Option.map_eq_some_iff]
  constructor
  · rintro ⟨value, hvalue, others, hothers, hcons⟩
    exact ⟨value, others, hvalue, hothers, hcons⟩
  · rintro ⟨value, others, hvalue, hothers, hcons⟩
    exact ⟨value, hvalue, others, hothers, hcons⟩

theorem single_eq_some_iff {members : List (String × Json)} {value : shape.Value} :
    shape.single surplus members = some value ↔
      members = [] ∧ value = shape.unset ∨
        ∃ member, members = [member] ∧ shape.decode surplus member.2 = .ok value := by
  match members with
  | [] => simp [Shape.single, eq_comm]
  | [member] => simp [Shape.single, toOption_eq_some_iff]
  | member :: next :: others => simp [Shape.single]

end Members

/-! ### Arrays -/

section Items

variable {surplus : Surplus} {key : Key} {shape : Shape} {rest : Fields} {count size : Nat}

theorem decode_array (name : String) (fields : Fields) (items : List Json) :
    (Shape.record name fields).decode surplus (.array items)
      = fields.decodeItems surplus items.length fields.count items := rfl

theorem decodeItems_field_nil :
    (Fields.field key shape rest).decodeItems surplus count size []
      = .ok (.cons shape.unset rest.unset) := rfl

theorem decodeItems_field_cons_eq_ok_iff {item : Json} {items : List Json}
    {values : (Fields.field key shape rest).Values} :
    (Fields.field key shape rest).decodeItems surplus count size (item :: items) = .ok values ↔
      ∃ value others, shape.decode surplus item = .ok value ∧
        rest.decodeItems surplus count size items = .ok others ∧ .cons value others = values := by
  have hread : (Fields.field key shape rest).decodeItems surplus count size (item :: items)
      = (shape.decode surplus item).bind fun value =>
          (rest.decodeItems surplus count size items).map (Fields.Values.cons value) := by
    change Except.bind _ _ = _
    cases shape.decode surplus item with
    | error mismatch => rfl
    | ok value => cases rest.decodeItems surplus count size items <;> rfl
  rw [hread]
  cases shape.decode surplus item with
  | error mismatch => simp [Except.bind]
  | ok value => cases rest.decodeItems surplus count size items <;> simp [Except.bind, Except.map]

end Items

end OperatorConfig.Schema
