import OperatorConfig.Proofs.Schema.Leaf
import OperatorConfig.Proofs.Table
import OperatorConfig.Schema.Decode
import OperatorConfig.Schema.Encode

/-!
# Settings survive their JSON form

The members of an object may be read in any order, as long as each is meant for one field only. Shapes
are such that what they write is (`Shape.Distinct`), so the canonical form of written settings, in which
the members are sorted, is read back as the same settings.
-/

namespace OperatorConfig

/-! ### Canonical forms -/

namespace Json

theorem perm_placeMember {key : String} {members : List (String × Json)}
    (hnew : key ∉ members.map Prod.fst) (value : Json) :
    (placeMember key value members).Perm ((key, value) :: members) := by
  induction members with
  | nil => exact .refl _
  | cons head rest ih =>
      obtain ⟨other, held⟩ := head
      simp only [List.map_cons, List.mem_cons, not_or] at hnew
      unfold placeMember
      split
      · exact .refl _
      · rw [if_neg hnew.1]
        exact ((ih hnew.2).cons _).trans (.swap _ _ _)

/-- Members with different keys are only put in another order. -/
theorem perm_canonicalMembers {members : List (String × Json)}
    (hnodup : (members.map Prod.fst).Nodup) :
    (canonicalMembers members).Perm (members.map fun member => (member.1, member.2.canonical)) := by
  induction members with
  | nil => exact .refl _
  | cons head rest ih =>
      obtain ⟨key, value⟩ := head
      obtain ⟨hnew, hrest⟩ := List.nodup_cons.mp hnodup
      have hperm := ih hrest
      have hkeys : key ∉ (canonicalMembers rest).map Prod.fst := by
        intro hmem
        have hmem := (hperm.map Prod.fst).subset hmem
        rw [List.map_map] at hmem
        exact hnew hmem
      exact (perm_placeMember hkeys value.canonical).trans (hperm.cons _)

theorem canonicalItems_texts (values : List String) :
    canonicalItems (values.map .text) = values.map .text := by
  induction values with
  | nil => rfl
  | cons head rest ih => exact congrArg (Json.text head :: ·) ih

/-- The members of a table stand in their order already. -/
theorem canonicalMembers_texts {entries : List (String × String)} (hordered : Table.Ordered entries) :
    canonicalMembers (entries.map fun entry => (entry.1, .text entry.2))
      = entries.map fun entry => (entry.1, .text entry.2) := by
  induction entries with
  | nil => rfl
  | cons head rest ih =>
      obtain ⟨hhead, hrest⟩ := List.pairwise_cons.mp hordered
      rw [List.map_cons, canonicalMembers, ih hrest]
      cases rest with
      | nil => rfl
      | cons next rest => exact if_pos (hhead next List.mem_cons_self)

end Json

namespace Schema

/-! ### Scalars -/

theorem int32?_toInt (value : Int32) : int32? value.toInt = .ok value := by
  have hle := value.le_toInt
  have hlt := value.toInt_lt
  unfold int32?
  rw [if_pos (by omega), Int32.ofInt_toInt]

theorem decodeTexts_texts (values : List String) :
    decodeTexts (values.map .text) = .ok values := by
  induction values with
  | nil => rfl
  | cons head rest ih =>
      rw [List.map_cons, decodeTexts, ih]
      rfl

theorem decodeEntries_texts (entries : List (String × String)) (table : Table) :
    decodeEntries table (entries.map fun entry => (entry.1, .text entry.2))
      = .ok (entries.foldl (fun table entry => table.insert entry.1 entry.2) table) := by
  induction entries generalizing table with
  | nil => rfl
  | cons head rest ih => exact ih (table.insert head.1 head.2)

/-! ### Records -/

/-- The names under which fields are written. -/
def Fields.names : Fields → List String
  | .done => []
  | .field key _ rest => key.name :: rest.names

mutual
/-- What is written of a field is meant for no field before it. -/
def Shape.Distinct : Shape → Prop
  | .record _ fields => fields.Distinct
  | _ => True
def Fields.Distinct : Fields → Prop
  | .done => True
  | .field key shape rest =>
      (∀ name ∈ rest.names, key.names name = false) ∧ shape.Distinct ∧ rest.Distinct
end

mutual
def Shape.decideDistinct : (shape : Shape) → Decidable shape.Distinct
  | .record _ fields => fields.decideDistinct
  | .text => isTrue trivial
  | .flag => isTrue trivial
  | .integer => isTrue trivial
  | .texts => isTrue trivial
  | .table => isTrue trivial
def Fields.decideDistinct : (fields : Fields) → Decidable fields.Distinct
  | .done => isTrue trivial
  | .field key shape rest =>
      have := shape.decideDistinct
      have := rest.decideDistinct
      inferInstanceAs (Decidable
        ((∀ name ∈ rest.names, key.names name = false) ∧ shape.Distinct ∧ rest.Distinct))
end

instance (shape : Shape) : Decidable shape.Distinct := shape.decideDistinct

theorem Slot.distinct {fields : Fields} {shape : Shape} (slot : Slot fields shape)
    (h : fields.Distinct) : shape.Distinct := by
  induction slot with
  | here => exact h.2.1
  | there slot ih => exact ih h.2.2

def Fields.filled : (fields : Fields) → fields.Values → fields.Partial
  | .done, _ => ()
  | .field _ _ rest, (value, values) => (some value, rest.filled values)

theorem Fields.complete_filled : (fields : Fields) → (values : fields.Values) →
    fields.complete (fields.filled values) = values
  | .done, _ => rfl
  | .field _ _ rest, (value, values) => congrArg (value, ·) (rest.complete_filled values)

theorem Key.names_name (key : Key) : key.names key.name = true := by
  simp [Key.names]

theorem Fields.map_fst_encode (fields : Fields) (values : fields.Values) :
    (fields.encode values).map Prod.fst = fields.names := by
  induction fields using Fields.names.induct with
  | case1 => rfl
  | case2 key shape rest ih => exact congrArg (key.name :: ·) (ih values.2)

theorem Fields.Distinct.nodup {fields : Fields} (h : fields.Distinct) : fields.names.Nodup := by
  induction fields using Fields.names.induct with
  | case1 => exact List.nodup_nil
  | case2 key shape rest ih =>
      obtain ⟨hkey, -, hrest⟩ := h
      refine List.nodup_cons.mpr ⟨fun hmem => ?_, ih hrest⟩
      have hother := hkey key.name hmem
      rw [key.names_name] at hother
      cases hother

theorem Fields.nodup_encode {fields : Fields} (h : fields.Distinct) (values : fields.Values) :
    ((fields.encode values).map Prod.fst).Nodup := by
  rw [fields.map_fst_encode]
  exact h.nodup

def Fields.putAll (surplus : Surplus) (fields : Fields) (read : fields.Partial)
    (members : List (String × Json)) : Except Mismatch fields.Partial :=
  members.foldlM (fun values member => fields.put surplus values member.1 member.2) read

section Reading

variable {surplus : Surplus}

theorem putAll_cons {fields : Fields} (read : fields.Partial) (member : String × Json)
    (members : List (String × Json)) :
    fields.putAll surplus read (member :: members)
      = (fields.put surplus read member.1 member.2).bind fun read =>
          fields.putAll surplus read members := rfl

theorem putAll_append {fields : Fields} (read : fields.Partial)
    (before after : List (String × Json)) :
    fields.putAll surplus read (before ++ after)
      = (fields.putAll surplus read before).bind fun read => fields.putAll surplus read after :=
  List.foldlM_append

variable {key : Key} {shape : Shape} {rest : Fields}

def Fields.Partial.cons (held : Option shape.Value) (read : rest.Partial) :
    (Fields.field key shape rest).Partial := (held, read)

open Fields.Partial (cons)

theorem put_of_not_names {name : String} (hname : key.names name = false)
    (held : Option shape.Value) {read next : rest.Partial} {value : Json}
    (hput : rest.put surplus read name value = .ok next) :
    (Fields.field key shape rest).put surplus (cons held read) name value
      = .ok (cons held next) := by
  simp only [Fields.put, cons, hname, hput]
  rfl

theorem put_of_names {name : String} (hname : key.names name = true) {value : Json}
    {decoded : shape.Value} (hdecode : shape.decode surplus value = .ok decoded)
    (read : rest.Partial) :
    (Fields.field key shape rest).put surplus (cons none read) name value
      = .ok (cons (some decoded) read) := by
  simp only [Fields.put, cons, hname, hdecode]
  rfl

/-- Members that are not meant for a field are read into the fields behind it. -/
theorem putAll_of_not_names {members : List (String × Json)}
    (hnames : ∀ member ∈ members, key.names member.1 = false) (held : Option shape.Value)
    {read final : rest.Partial} (hrest : rest.putAll surplus read members = .ok final) :
    (Fields.field key shape rest).putAll surplus (cons held read) members
      = .ok (cons held final) := by
  induction members generalizing read with
  | nil =>
      cases hrest
      rfl
  | cons head members ih =>
      obtain ⟨hhead, hmembers⟩ := List.forall_mem_cons.mp hnames
      rw [putAll_cons] at hrest ⊢
      cases hput : rest.put surplus read head.1 head.2 with
      | error mismatch =>
          rw [hput] at hrest
          cases hrest
      | ok next =>
          rw [hput] at hrest
          rw [put_of_not_names hhead held hput]
          exact ih hmembers hrest

/-- The one member that is meant for a field is read into it, wherever it stands. -/
theorem putAll_of_names {before after : List (String × Json)} {value : Json}
    (hbefore : ∀ member ∈ before, key.names member.1 = false)
    (hafter : ∀ member ∈ after, key.names member.1 = false) {decoded : shape.Value}
    (hdecode : shape.decode surplus value = .ok decoded) {read final : rest.Partial}
    (hrest : rest.putAll surplus read (before ++ after) = .ok final) :
    (Fields.field key shape rest).putAll surplus (cons none read)
      (before ++ (key.name, value) :: after) = .ok (cons (some decoded) final) := by
  rw [putAll_append] at hrest ⊢
  cases hfirst : rest.putAll surplus read before with
  | error mismatch =>
      rw [hfirst] at hrest
      cases hrest
  | ok next =>
      rw [hfirst] at hrest
      rw [putAll_of_not_names hbefore none hfirst]
      refine (putAll_cons _ _ _).trans ?_
      rw [put_of_names key.names_name hdecode next]
      exact putAll_of_not_names hafter (some decoded) hrest

end Reading

/-! ### The round trip -/

def Fields.encodeCanonical (fields : Fields) (values : fields.Values) : List (String × Json) :=
  (fields.encode values).map fun member => (member.1, member.2.canonical)

theorem Fields.mem_names_of_mem {fields : Fields} {values : fields.Values} {member : String × Json}
    (hmem : member ∈ fields.encodeCanonical values) : member.1 ∈ fields.names := by
  rw [← fields.map_fst_encode values]
  obtain ⟨written, hwritten, rfl⟩ := List.mem_map.mp hmem
  exact List.mem_map.mpr ⟨written, hwritten, rfl⟩

theorem decode_record (surplus : Surplus) (name : String) (fields : Fields)
    (members : List (String × Json)) :
    (Shape.record name fields).decode surplus (.object members)
      = (fields.putAll surplus fields.unread members).bind fun read => .ok (fields.complete read) :=
  rfl

theorem canonical_encode_texts (values : List String) :
    (Shape.texts.encode values).canonical = .array (values.map .text) := by
  rw [Shape.encode, Json.texts, Json.canonical, Json.canonicalItems_texts]

theorem canonical_encode_table (table : Table) :
    (Shape.table.encode table).canonical
      = .object (table.entries.map fun entry => (entry.1, .text entry.2)) := by
  rw [Shape.encode, encodeTable, Json.canonical, Json.canonicalMembers_texts table.ordered]

theorem canonical_encode_record (name : String) (fields : Fields) (values : fields.Values) :
    ((Shape.record name fields).encode values).canonical
      = .object (Json.canonicalMembers (fields.encode values)) := by
  change (Json.object (fields.encode values)).canonical = _
  rw [Json.canonical]

mutual
/-- The canonical form of a written value is read back as the value. -/
theorem Shape.decode_encode (surplus : Surplus) : (shape : Shape) → shape.Distinct →
    (value : shape.Value) → shape.decode surplus (shape.encode value).canonical = .ok value
  | .text, _, _ => rfl
  | .flag, _, _ => rfl
  | .integer, _, value => int32?_toInt value
  | .texts, _, values => by
      refine (congrArg (Shape.texts.decode surplus) (canonical_encode_texts values)).trans ?_
      exact decodeTexts_texts values
  | .table, _, table => by
      refine (congrArg (Shape.table.decode surplus) (canonical_encode_table table)).trans ?_
      refine (decodeEntries_texts (Table.entries table) Table.empty).trans ?_
      exact congrArg Except.ok (Table.empty_overlay table)
  | .record name fields, hdistinct, values => by
      have hread := Fields.putAll_encode surplus fields hdistinct values
        (Json.perm_canonicalMembers (Fields.nodup_encode hdistinct values))
      refine (congrArg _ (canonical_encode_record name fields values)).trans ?_
      rw [decode_record, hread]
      exact congrArg Except.ok (fields.complete_filled values)
/-- Members for all fields are read into them in any order. -/
theorem Fields.putAll_encode (surplus : Surplus) : (fields : Fields) → fields.Distinct →
    (values : fields.Values) → {members : List (String × Json)} →
    members.Perm (fields.encodeCanonical values) →
    fields.putAll surplus fields.unread members = .ok (fields.filled values)
  | .done, _, _, _, hperm => by
      cases hperm.eq_nil
      rfl
  | .field key shape rest, ⟨hkey, hshape, hrest⟩, (value, values), members, hperm => by
      -- The member of the first field splits the others, which are those of the fields behind it.
      obtain ⟨before, after, rfl⟩ := List.append_of_mem (hperm.symm.subset List.mem_cons_self)
      have hothers : (before ++ after).Perm (rest.encodeCanonical values) :=
        (List.perm_middle.symm.trans hperm).cons_inv
      have hnames : ∀ member ∈ before ++ after, key.names member.1 = false := fun member hmem =>
        hkey _ (rest.mem_names_of_mem (hothers.subset hmem))
      exact putAll_of_names (fun member hmem => hnames member (List.mem_append_left _ hmem))
        (fun member hmem => hnames member (List.mem_append_right _ hmem))
        (Shape.decode_encode surplus shape hshape value)
        (Fields.putAll_encode surplus rest hrest values hothers)
end

/-- Settings are read back from their canonical form. -/
theorem decode_toJson {α : Type} [Shaped α] (hdistinct : (Shaped.shape α).Distinct) (a : α) :
    decode (toJson a) = .ok a := by
  rw [decode, toJson, encode, Shape.decode_encode .counted _ hdistinct]
  exact congrArg Except.ok (Shaped.ofValue_toValue a)

end Schema

end OperatorConfig
