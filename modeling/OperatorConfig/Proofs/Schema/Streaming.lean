import OperatorConfig.Proofs.Schema.Members
import OperatorConfig.Schema.Read

/-!
# Settings from texts and from values

A reader of a text makes the same of it as a decoder makes of the value of the text, with all members as
they are written: it complains in other words, and earlier, but it succeeds where the decoder does
(`Shape.toOption_read`). What the reader skips can be left aside, because a text with a value has nothing
wrong in it anywhere.
-/

namespace OperatorConfig

namespace Json

/-! ### Trees with a value -/

/-- The tree of a value that nests no deeper than allowed. -/
inductive Node.Holds : Nat → Node → Json → Prop
  | null {depth : Nat} {span : Span} : Holds depth (.null span) .null
  | flag {depth : Nat} {on : Bool} {span : Span} : Holds depth (.flag on span) (.flag on)
  | number {depth : Nat} {n : Number} {span : Span} : Holds depth (.number (.ok n) span) (.number n)
  | text {depth : Nat} {text : String} {span : Span} : Holds depth (.text (.ok text) span) (.text text)
  | array {depth start : Nat} {items : Items} {values : List Json}
      (hitems : items.values depth = .ok values) :
      Holds (depth + 1) (.array start items) (.array values)
  | object {depth start : Nat} {members : Members} {values : List (String × Json)}
      (hmembers : members.values depth = .ok values) :
      Holds (depth + 1) (.object start members) (.object values)

variable {depth : Nat}

theorem Node.holds_of_value {node : Node} {value : Json} (hvalue : node.value depth = .ok value) :
    node.Holds depth value := by
  cases node with
  | null span =>
      cases hvalue
      exact .null
  | flag on span =>
      cases hvalue
      exact .flag
  | number n span =>
      cases n with
      | error fault => cases hvalue
      | ok n =>
          cases hvalue
          exact .number
  | text content span =>
      cases content with
      | error fault => cases hvalue
      | ok text =>
          cases hvalue
          exact .text
  | array start items =>
      rw [Node.value] at hvalue
      obtain ⟨left, hleft, hvalue⟩ := bind_eq_ok_iff.mp hvalue
      obtain ⟨values, hitems, hvalue⟩ := bind_eq_ok_iff.mp hvalue
      cases hvalue
      cases depth with
      | zero => cases hleft
      | succ depth =>
          cases hleft
          exact .array hitems
  | object start members =>
      rw [Node.value] at hvalue
      obtain ⟨left, hleft, hvalue⟩ := bind_eq_ok_iff.mp hvalue
      obtain ⟨values, hmembers, hvalue⟩ := bind_eq_ok_iff.mp hvalue
      cases hvalue
      cases depth with
      | zero => cases hleft
      | succ depth =>
          cases hleft
          exact .object hmembers
  | broken start strict skipped => cases hvalue

theorem values_item_eq_ok_iff {node : Node} {rest : Items} {values : List Json} :
    (Items.item node rest).values depth = .ok values ↔
      ∃ value others, node.value depth = .ok value ∧ rest.values depth = .ok others ∧
        value :: others = values := by
  rw [Items.values]
  cases node.value depth with
  | error fault => simp [bind, Except.bind]
  | ok value => cases rest.values depth <;> simp [bind, Except.bind, pure, Except.pure]

theorem values_member_eq_ok_iff {key : Except Fault String} {settled : Nat} {node : Node}
    {rest : Members} {values : List (String × Json)} :
    (Members.member key settled node rest).values depth = .ok values ↔
      ∃ name value others, key = .ok name ∧ node.value depth = .ok value ∧
        rest.values depth = .ok others ∧ (name, value) :: others = values := by
  rw [Members.values]
  cases key with
  | error fault => simp [bind, Except.bind]
  | ok name =>
      cases node.value depth with
      | error fault => simp [bind, Except.bind]
      | ok value => cases rest.values depth <;> simp [bind, Except.bind, pure, Except.pure]

mutual
/-- In a text with a value nothing is wrong for a reader who skips it. -/
theorem Node.skip_of_value : (node : Node) → {depth : Nat} → {value : Json} →
    node.value depth = .ok value → node.skip = .ok ()
  | .null _, _, _, _ => rfl
  | .flag _ _, _, _, _ => rfl
  | .number _ _, _, _, _ => rfl
  | .text _ _, _, _, _ => rfl
  | .array start items, _, _, hvalue => by
      cases Node.holds_of_value hvalue with
      | array hitems => exact items.skip_of_values hitems
  | .object start members, _, _, hvalue => by
      cases Node.holds_of_value hvalue with
      | object hmembers => exact members.skip_of_values hmembers
  | .broken _ _ _, _, _, hvalue => by cases hvalue
theorem Items.skip_of_values : (items : Items) → {depth : Nat} → {values : List Json} →
    items.values depth = .ok values → items.skip = .ok ()
  | .close _, _, _, _ => rfl
  | .fault _ _ _, _, _, hvalues => by cases hvalues
  | .item node rest, _, _, hvalues => by
      obtain ⟨value, others, hvalue, hothers, -⟩ := values_item_eq_ok_iff.mp hvalues
      rw [Items.skip, node.skip_of_value hvalue]
      exact rest.skip_of_values hothers
theorem Members.skip_of_values : (members : Members) → {depth : Nat} →
    {values : List (String × Json)} → members.values depth = .ok values → members.skip = .ok ()
  | .close _, _, _, _ => rfl
  | .fault _ _, _, _, hvalues => by cases hvalues
  | .member key settled node rest, _, _, hvalues => by
      obtain ⟨name, value, others, -, hvalue, hothers, -⟩ := values_member_eq_ok_iff.mp hvalues
      rw [Members.skip, node.skip_of_value hvalue]
      exact rest.skip_of_values hothers
end

end Json

namespace Schema

open Json (Node Items Members)

variable {depth : Nat} {node : Node} {value : Json}

/-! ### Leaves -/

theorem toOption_unwanted {α : Type} (wanted : String) (node : Node) :
    (unwanted wanted node : Except Complaint α).toOption = none := by
  cases node with
  | number n span => cases n <;> rfl
  | text content span => cases content <;> rfl
  | _ => rfl

theorem unwanted_ne_ok {α : Type} (wanted : String) (node : Node) (a : α) :
    (unwanted wanted node : Except Complaint α) ≠ .ok a := by
  intro hread
  have hnone := @toOption_unwanted α wanted node
  rw [hread] at hnone
  cases hnone

theorem toOption_readText (hvalue : node.value depth = .ok value) :
    (readText node).toOption = (decodeText value).toOption := by
  cases Node.holds_of_value hvalue <;> rfl

theorem toOption_readFlag (surplus : Surplus) (hvalue : node.value depth = .ok value) :
    (readFlag node).toOption = (Shape.flag.decode surplus value).toOption := by
  cases Node.holds_of_value hvalue <;> rfl

theorem toOption_readInt32 (surplus : Surplus) (hvalue : node.value depth = .ok value) :
    (readInt32 node).toOption = (Shape.integer.decode surplus value).toOption := by
  cases Node.holds_of_value hvalue with
  | @number _ n span =>
      cases n with
      | float x => rfl
      | integer n =>
          have hread : (readInt32 (.number (.ok (.integer n)) span)).toOption = (int32? n).toOption := by
            cases hn : int32? n <;> simp only [readInt32, faultless, bind, Except.bind, hn] <;> rfl
          exact hread
  | _ => rfl

theorem toOption_readTexts : (items : Items) → {values : List Json} →
    items.values depth = .ok values → (readTexts items).toOption = (decodeTexts values).toOption
  | .close _, _, hvalues => by
      cases hvalues
      rfl
  | .fault _ _ _, _, hvalues => by cases hvalues
  | .item node rest, values, hvalues => by
      obtain ⟨value, others, hvalue, hothers, rfl⟩ := Json.values_item_eq_ok_iff.mp hvalues
      have htext := toOption_readText hvalue
      have hrest := toOption_readTexts rest hothers
      rw [readTexts, decodeTexts]
      change (Except.bind _ _).toOption = (Except.bind _ _).toOption
      rw [toOption_bind, toOption_bind, htext]
      refine congrArg _ (funext fun text => ?_)
      change (Except.bind _ _).toOption = (Except.bind _ _).toOption
      rw [toOption_bind, toOption_bind, hrest]
      rfl

/-! ### Members -/

/-- Taking in members comes to the same where taking in each of them does. -/
theorem toOption_foldMembers {α : Type} {read : α → String → Nat → Node → Except Complaint α}
    {decode : α → String × Json → Except Mismatch α}
    (hstep : ∀ held name settled node value, node.value depth = .ok value →
      (read held name settled node).toOption = (decode held (name, value)).toOption) :
    (members : Members) → {values : List (String × Json)} → members.values depth = .ok values →
    (held : α) → (foldMembers read held members).toOption = (values.foldlM decode held).toOption
  | .close _, _, hvalues, _ => by
      cases hvalues
      rfl
  | .fault _ _, _, hvalues, _ => by cases hvalues
  | .member key settled node rest, values, hvalues, held => by
      obtain ⟨name, value, others, rfl, hvalue, hothers, rfl⟩ :=
        Json.values_member_eq_ok_iff.mp hvalues
      change (Except.bind (read held name settled node) fun held =>
        foldMembers read held rest).toOption
          = (Except.bind (decode held (name, value)) fun held => others.foldlM decode held).toOption
      rw [toOption_bind, toOption_bind, hstep held name settled node value hvalue]
      exact congrArg _ (funext fun held => toOption_foldMembers hstep rest hothers held)

theorem faultless_eq_ok_iff {α : Type} {read : Except Json.Fault α} {a : α} :
    faultless read = .ok a ↔ read = .ok a := by
  cases read <;> simp [faultless]

theorem foldMembers_member_eq_ok_iff {α : Type} {read : α → String → Nat → Node → Except Complaint α}
    {held after : α} {key : Except Json.Fault String} {settled : Nat} {rest : Members} :
    foldMembers read held (.member key settled node rest) = .ok after ↔
      ∃ name next, key = .ok name ∧ read held name settled node = .ok next ∧
        foldMembers read next rest = .ok after := by
  cases key with
  | error fault => simp [foldMembers, faultless, bind, Except.bind]
  | ok name =>
      change Except.bind (read held name settled node) (fun next => foldMembers read next rest) = _ ↔ _
      cases htaken : read held name settled node <;> simp [Except.bind, htaken]

theorem decodeEntries_eq_foldlM (table : Table) (members : List (String × Json)) :
    decodeEntries table members
      = members.foldlM (fun table member => (decodeText member.2).map (table.insert member.1)) table := by
  induction members generalizing table with
  | nil => rfl
  | cons head rest ih =>
      rw [decodeEntries, List.foldlM_cons]
      cases decodeText head.2 with
      | error mismatch => rfl
      | ok text => exact ih _

mutual
/-- A reader reads from a text what a decoder reads from its value. -/
theorem Shape.toOption_read (surplus : Surplus) : (shape : Shape) → {depth : Nat} → {node : Node} →
    {value : Json} → node.value depth = .ok value →
    (shape.read depth node).toOption = (shape.decode surplus value).toOption
  | .text, _, _, _, hvalue => toOption_readText hvalue
  | .flag, _, _, _, hvalue => toOption_readFlag surplus hvalue
  | .integer, _, _, _, hvalue => toOption_readInt32 surplus hvalue
  | .texts, _, _, _, hvalue => by
      cases Node.holds_of_value hvalue with
      | array hitems => exact toOption_readTexts _ hitems
      | _ => rfl
  | .table, _, _, _, hvalue => by
      cases Node.holds_of_value hvalue with
      | object hmembers =>
          refine (toOption_foldMembers ?_ _ hmembers Table.empty).trans
            (congrArg _ (decodeEntries_eq_foldlM Table.empty _).symm)
          intro table name settled node value hvalue
          change (Except.bind (readText node) fun text => .ok (table.insert name text)).toOption = _
          rw [toOption_bind, toOption_readText hvalue]
          cases decodeText value <;> rfl
      | _ => rfl
  | .record name fields, _, _, _, hvalue => by
      cases Node.holds_of_value hvalue with
      | @object depth _ members values hmembers =>
          change (Except.bind (foldMembers (fields.take depth) fields.unread members) fun read =>
              .ok (fields.complete read)).toOption
            = (Except.bind (fields.putAll surplus fields.unread values) fun read =>
              .ok (fields.complete read)).toOption
          rw [toOption_bind, toOption_bind]
          refine congrArg (Option.bind · _) (toOption_foldMembers ?_ members hmembers _)
          intro read name settled node value hvalue
          exact Fields.toOption_take surplus fields read name settled hvalue
      | array hitems => exact Fields.toOption_readItems surplus fields _ hitems
      | _ => rfl
theorem Fields.toOption_take (surplus : Surplus) : (fields : Fields) → {depth : Nat} →
    (read : fields.Partial) → (name : String) → (settled : Nat) → {node : Node} → {value : Json} →
    node.value depth = .ok value →
    (fields.take depth read name settled node).toOption
      = (fields.put surplus read name value).toOption
  | .done, _, _, _, _, node, _, hvalue => by
      rw [Fields.take, node.skip_of_value hvalue]
      rfl
  | .field key shape rest, depth, (held, read), name, settled, node, value, hvalue => by
      have hshape := Shape.toOption_read surplus shape hvalue
      have hrest := Fields.toOption_take surplus rest read name settled hvalue
      simp only [Fields.take, Fields.put]
      cases hname : key.names name with
      | true =>
          cases held with
          | some held => rfl
          | none =>
              change (Except.bind (shape.read depth node) fun value => .ok (some value, read)).toOption
                = (Except.bind (shape.decode surplus value) fun value =>
                  .ok (some value, read)).toOption
              rw [toOption_bind, toOption_bind, hshape]
              rfl
      | false =>
          change (Except.bind (rest.take depth read name settled node) fun read =>
              .ok (held, read)).toOption
            = (Except.bind (rest.put surplus read name value) fun read => .ok (held, read)).toOption
          rw [toOption_bind, toOption_bind, hrest]
          rfl
theorem Fields.toOption_readItems (surplus : Surplus) : (fields : Fields) → {depth : Nat} →
    {count size : Nat} → (items : Items) → {values : List Json} → items.values depth = .ok values →
    (fields.readItems depth items).toOption
      = (fields.decodeItems surplus count size values).toOption
  | .done, _, _, _, .close _, _, hvalues => by
      cases hvalues
      rfl
  | .done, _, _, _, .item _ _, _, hvalues => by
      obtain ⟨value, others, -, -, rfl⟩ := Json.values_item_eq_ok_iff.mp hvalues
      rfl
  | .field _ _ _, _, _, _, .close _, _, hvalues => by
      cases hvalues
      rfl
  | .field key shape rest, depth, count, size, .item node items, _, hvalues => by
      obtain ⟨value, others, hvalue, hothers, rfl⟩ := Json.values_item_eq_ok_iff.mp hvalues
      have hshape := Shape.toOption_read surplus shape hvalue
      have hrest := @Fields.toOption_readItems surplus rest _ count size items _ hothers
      change (Except.bind (shape.read depth node) fun value =>
          Except.bind (rest.readItems depth items) fun others => .ok (value, others)).toOption
        = (Except.bind (shape.decode surplus value) fun value =>
          Except.bind (rest.decodeItems surplus count size _) fun others => .ok (value, others)).toOption
      rw [toOption_bind, toOption_bind, hshape]
      refine congrArg _ (funext fun value => ?_)
      rw [toOption_bind, toOption_bind, hrest]
      rfl
  | .done, _, _, _, .fault _ _ _, _, hvalues => by cases hvalues
  | .field _ _ _, _, _, _, .fault _ _ _, _, hvalues => by cases hvalues
end

end Schema

end OperatorConfig
