import Mathlib.Algebra.Group.Int.Defs
import Mathlib.Data.Set.List
import OperatorConfig.Proofs.Schema.Members

/-!
# The values that a shape accepts

Which values a decoder accepts is said by recursion on the shape (`Shape.WellTyped`), and what it makes
of them is said leaf by leaf (`Leaf.Gives`): a leaf has what the value gives for it, by name or by
position, and is unset where the value gives nothing.
-/

namespace OperatorConfig.Schema

/-! ### Well-typed values -/

mutual
/-- The JSON value is one for the shape. -/
def Shape.WellTyped : Shape → Json → Prop
  | .text, value => ∃ text, value = .text text
  | .flag, value => ∃ on, value = .flag on
  | .integer, value => ∃ n : Int, value = .integer n ∧ -2 ^ 31 ≤ n ∧ n ≤ 2 ^ 31 - 1
  | .texts, value => ∃ items, value = .array items ∧ ∀ item ∈ items, ∃ text, item = .text text
  | .table, value =>
      ∃ members, value = .object members ∧ ∀ member ∈ members, ∃ text, member.2 = .text text
  | .record _ fields, value =>
      match value with
      | .object members => fields.MembersTyped members
      | .array items => fields.ItemsTyped items
      | _ => False
/-- Each field is meant by one member at most, which has a value for it. Members that mean no field may
have any value. -/
def Fields.MembersTyped : Fields → List (String × Json) → Prop
  | .done, _ => True
  | .field key shape rest, members =>
      ((key.meant members).length ≤ 1 ∧ ∀ member ∈ key.meant members, shape.WellTyped member.2) ∧
        rest.MembersTyped members
/-- There are no more items than fields, and each is a value for the field in its place. -/
def Fields.ItemsTyped : Fields → List Json → Prop
  | .done, items => items = []
  | .field _ shape rest, items =>
      match items with
      | [] => True
      | item :: items => shape.WellTyped item ∧ rest.ItemsTyped items
end

/-- Null is a value for no shape. -/
theorem not_wellTyped_null (shape : Shape) : ¬ shape.WellTyped .null := by
  cases shape <;> simp [Shape.WellTyped]

/-! ### Leaves -/

/-- The JSON value stands for a value without fields. -/
def Shape.Says : (kind : Shape) → Json → kind.Value → Prop
  | .text, json, (x : String) => json = .text x
  | .flag, json, (x : Bool) => json = .flag x
  | .integer, json, (x : Int32) => json = .integer x.toInt
  | .texts, json, (x : List String) => json = .texts x
  | .table, json, (x : Table) =>
      ∃ entries : List (String × String),
        json = .object (entries.map fun entry => (entry.1, .text entry.2)) ∧ x = Table.ofList entries
  | .record _ _, _, _ => False

theorem decodeText_eq_ok_iff {value : Json} {text : String} :
    decodeText value = .ok text ↔ value = .text text := by
  cases value <;> simp [decodeText]

theorem int32?_eq_ok_iff {n : Int} {value : Int32} : int32? n = .ok value ↔ n = value.toInt := by
  constructor
  · intro hread
    unfold int32? at hread
    split at hread
    next hbounds =>
      cases hread
      exact (Int32.toInt_ofInt_of_le (by omega) (by omega)).symm
    next => cases hread
  · rintro rfl
    exact int32?_toInt value

theorem decodeTexts_eq_ok_iff {items : List Json} {texts : List String} :
    decodeTexts items = .ok texts ↔ items = texts.map .text := by
  constructor
  · intro hread
    induction items generalizing texts with
    | nil =>
        cases hread
        rfl
    | cons item items ih =>
        obtain ⟨text, htext, hread⟩ := bind_eq_ok_iff.mp hread
        obtain ⟨rest, hrest, hread⟩ := bind_eq_ok_iff.mp hread
        cases hread
        rw [List.map_cons, ← ih hrest, decodeText_eq_ok_iff.mp htext]
  · rintro rfl
    exact decodeTexts_texts texts

theorem decodeEntries_eq_ok_iff {members : List (String × Json)} {table result : Table} :
    decodeEntries table members = .ok result ↔
      ∃ entries : List (String × String),
        members = entries.map (fun entry => (entry.1, .text entry.2)) ∧
          result = entries.foldl (fun table entry => table.insert entry.1 entry.2) table := by
  constructor
  · intro hread
    induction members generalizing table with
    | nil =>
        cases hread
        exact ⟨[], rfl, rfl⟩
    | cons member members ih =>
        obtain ⟨name, value⟩ := member
        obtain ⟨text, htext, hread⟩ := bind_eq_ok_iff.mp hread
        obtain ⟨entries, rfl, hresult⟩ := ih hread
        exact ⟨(name, text) :: entries, by rw [decodeText_eq_ok_iff.mp htext]; rfl, hresult⟩
  · rintro ⟨entries, rfl, rfl⟩
    exact decodeEntries_texts entries table

/-- A value without fields is read where the JSON value stands for it. -/
theorem decode_eq_ok_iff_of_scalar {surplus : Surplus} {shape : Shape} (hscalar : shape.isRecord = false)
    {value : Json} {x : shape.Value} : shape.decode surplus value = .ok x ↔ shape.Says value x := by
  cases shape with
  | text => exact @decodeText_eq_ok_iff value x
  | flag =>
      constructor
      · intro hread
        cases value with
        | flag on => exact congrArg Json.flag (Except.ok.inj hread)
        | _ => cases hread
      · rintro rfl
        rfl
  | integer =>
      constructor
      · intro hread
        cases value with
        | number n =>
            cases n with
            | integer n => exact congrArg Json.integer (int32?_eq_ok_iff.mp hread)
            | float d => cases hread
        | _ => cases hread
      · rintro rfl
        exact int32?_toInt x
  | texts =>
      constructor
      · intro hread
        cases value with
        | array items => exact congrArg Json.array (decodeTexts_eq_ok_iff.mp hread)
        | _ => cases hread
      · rintro rfl
        exact decodeTexts_texts x
  | table =>
      constructor
      · intro hread
        cases value with
        | object members =>
            obtain ⟨entries, rfl, hresult⟩ := decodeEntries_eq_ok_iff.mp hread
            exact ⟨entries, rfl, hresult⟩
        | _ => cases hread
      · rintro ⟨entries, rfl, rfl⟩
        exact decodeEntries_texts entries Table.empty
  | record name fields => cases hscalar

/-- A JSON value stands for one value at most. -/
theorem Shape.Says.unique {kind : Shape} {json : Json} {x y : kind.Value} (hx : kind.Says json x)
    (hy : kind.Says json y) : x = y := by
  cases kind with
  | record name fields => cases hx
  | _ =>
      have hread := (@decode_eq_ok_iff_of_scalar .counted _ rfl _ _).mpr hx
      exact Except.ok.inj (hread.symm.trans ((decode_eq_ok_iff_of_scalar rfl).mpr hy))

/-- A list of values of a form is the image of the list of what they are made of. -/
theorem exists_map_eq {α β : Type} {f : α → β} {values : List β} (h : ∀ value ∈ values, ∃ a, value = f a) :
    ∃ list : List α, values = list.map f := by
  have hrange : values ∈ Set.range (List.map f) := by
    rw [Set.range_list_map]
    intro value hmem
    obtain ⟨a, rfl⟩ := h value hmem
    exact ⟨a, rfl⟩
  obtain ⟨list, hlist⟩ := hrange
  exact ⟨list, hlist.symm⟩

theorem wellTyped_iff_exists {shape : Shape} (hscalar : shape.isRecord = false) {value : Json} :
    shape.WellTyped value ↔ ∃ x, shape.Says value x := by
  cases shape with
  | text => exact Iff.rfl
  | flag => exact Iff.rfl
  | integer =>
      constructor
      · rintro ⟨n, rfl, hlow, hhigh⟩
        have hread : (Int32.ofInt n).toInt = n := Int32.toInt_ofInt_of_le (by omega) (by omega)
        exact ⟨Int32.ofInt n, congrArg Json.integer hread.symm⟩
      · rintro ⟨x, rfl⟩
        have hlow := Int32.le_toInt x
        have hhigh := Int32.toInt_lt x
        exact ⟨Int32.toInt x, rfl, by omega, by omega⟩
  | texts =>
      constructor
      · rintro ⟨items, rfl, hitems⟩
        obtain ⟨texts, rfl⟩ := exists_map_eq hitems
        exact ⟨texts, rfl⟩
      · rintro ⟨x, rfl⟩
        refine ⟨_, rfl, fun item hmem => ?_⟩
        obtain ⟨text, -, rfl⟩ := List.mem_map.mp hmem
        exact ⟨text, rfl⟩
  | table =>
      constructor
      · rintro ⟨members, rfl, hmembers⟩
        have hform : ∀ member ∈ members, ∃ entry : String × String,
            member = (entry.1, Json.text entry.2) := by
          intro member hmem
          obtain ⟨text, htext⟩ := hmembers member hmem
          exact ⟨(member.1, text), Prod.ext rfl htext⟩
        obtain ⟨entries, rfl⟩ := exists_map_eq hform
        exact ⟨Table.ofList entries, entries, rfl, rfl⟩
      · rintro ⟨x, entries, rfl, -⟩
        refine ⟨_, rfl, fun member hmem => ?_⟩
        obtain ⟨entry, -, rfl⟩ := List.mem_map.mp hmem
        exact ⟨entry.2, rfl⟩
  | record name fields => cases hscalar

/-! ### Acceptance -/

theorem wellTyped_iff_of_scalar {surplus : Surplus} {shape : Shape} (hscalar : shape.isRecord = false)
    {value : Json} : shape.WellTyped value ↔ ∃ x, shape.decode surplus value = .ok x := by
  simp only [decode_eq_ok_iff_of_scalar hscalar]
  exact wellTyped_iff_exists hscalar

mutual
/-- The well-typed values are those that are accepted. -/
theorem Shape.wellTyped_iff (surplus : Surplus) : (shape : Shape) → shape.Separate → (value : Json) →
    (shape.WellTyped value ↔ ∃ x, shape.decode surplus value = .ok x)
  | .text, _, _ => wellTyped_iff_of_scalar rfl
  | .flag, _, _ => wellTyped_iff_of_scalar rfl
  | .integer, _, _ => wellTyped_iff_of_scalar rfl
  | .texts, _, _ => wellTyped_iff_of_scalar rfl
  | .table, _, _ => wellTyped_iff_of_scalar rfl
  | .record name fields, hseparate, value => by
      cases value with
      | object members => exact fields.membersTyped_iff surplus hseparate members
      | array items => exact fields.itemsTyped_iff surplus hseparate items.length fields.count items
      | _ =>
          constructor
          · intro htyped
            cases htyped
          · rintro ⟨x, hread⟩
            cases hread
theorem Fields.membersTyped_iff (surplus : Surplus) : (fields : Fields) → fields.Separate →
    (members : List (String × Json)) →
    (fields.MembersTyped members ↔ ∃ values, fields.decodeMembers surplus members = .ok values)
  | .done, hseparate, members => by
      have hread : Fields.done.decodeMembers surplus members = .ok () :=
        (decodeMembers_eq_ok_iff hseparate).mpr rfl
      exact ⟨fun _ => ⟨(), hread⟩, fun _ => trivial⟩
  | .field key shape rest, hseparate, members => by
      have hfield := fun member : String × Json =>
        Shape.wellTyped_iff surplus shape hseparate.2.1 member.2
      have hothers := Fields.membersTyped_iff surplus rest hseparate.2.2 members
      simp only [decodeMembers_eq_ok_iff hseparate, gather_field_eq_some_iff]
      simp only [decodeMembers_eq_ok_iff hseparate.2.2] at hothers
      rw [Fields.MembersTyped, hothers]
      constructor
      · rintro ⟨⟨hcount, hmeant⟩, others, hgather⟩
        have hsingle : ∃ value, shape.single surplus (key.meant members) = some value := by
          match hmembers : key.meant members with
          | [] => exact ⟨_, rfl⟩
          | [member] =>
              obtain ⟨value, hread⟩ := (hfield member).mp (hmeant member (by simp [hmembers]))
              exact ⟨value, toOption_eq_some_iff.mpr hread⟩
          | member :: next :: _ => simp [hmembers] at hcount
        obtain ⟨value, hvalue⟩ := hsingle
        exact ⟨_, value, others, hvalue, hgather, rfl⟩
      · rintro ⟨values, value, others, hsingle, hgather, -⟩
        refine ⟨?_, others, hgather⟩
        rcases single_eq_some_iff.mp hsingle with ⟨hmembers, -⟩ | ⟨member, hmembers, hread⟩
        · simp [hmembers]
        · rw [hmembers]
          refine ⟨by simp, fun other hmem => ?_⟩
          rw [List.mem_singleton.mp hmem]
          exact (hfield member).mpr ⟨value, hread⟩
theorem Fields.itemsTyped_iff (surplus : Surplus) : (fields : Fields) → fields.Separate →
    (count size : Nat) → (items : List Json) →
    (fields.ItemsTyped items ↔ ∃ values, fields.decodeItems surplus count size items = .ok values)
  | .done, _, _, _, [] => ⟨fun _ => ⟨(), rfl⟩, fun _ => rfl⟩
  | .done, _, _, _, _ :: _ => by
      constructor
      · intro htyped
        cases htyped
      · rintro ⟨values, hread⟩
        cases hread
  | .field _ _ _, _, _, _, [] => ⟨fun _ => ⟨_, decodeItems_field_nil⟩, fun _ => trivial⟩
  | .field key shape rest, hseparate, count, size, item :: items => by
      have hitem := Shape.wellTyped_iff surplus shape hseparate.2.1 item
      have hothers := Fields.itemsTyped_iff surplus rest hseparate.2.2 count size items
      simp only [decodeItems_field_cons_eq_ok_iff]
      change shape.WellTyped item ∧ rest.ItemsTyped items ↔ _
      rw [hitem, hothers]
      constructor
      · rintro ⟨⟨value, hvalue⟩, others, hothers⟩
        exact ⟨_, value, others, hvalue, hothers, rfl⟩
      · rintro ⟨values, value, others, hvalue, hothers, -⟩
        exact ⟨⟨value, hvalue⟩, others, hothers⟩
end

/-! ### What is given for a leaf -/

namespace Slot

variable {fields : Fields} {shape : Shape}

def key {fields : Fields} {shape : Shape} : Slot fields shape → Key
  | @Slot.here key _ _ => key
  | .there slot => slot.key

def index {fields : Fields} {shape : Shape} : Slot fields shape → Nat
  | .here => 0
  | .there slot => slot.index + 1

/-- What a JSON value gives for the field, by name or by position. -/
def given (slot : Slot fields shape) : Json → Option Json
  | .object members => (slot.key.meant members).head?.map Prod.snd
  | .array items => items[slot.index]?
  | _ => none

theorem separate (slot : Slot fields shape) (hseparate : fields.Separate) : shape.Separate := by
  induction slot with
  | here => exact hseparate.2.1
  | there slot ih => exact ih hseparate.2.2

variable {surplus : Surplus}

theorem single_of_gather (slot : Slot fields shape) {members : List (String × Json)}
    {values : fields.Values} (hgather : fields.gather surplus members = some values) :
    shape.single surplus (slot.key.meant members) = some (slot.get values) := by
  induction slot with
  | here =>
      obtain ⟨value, others, hvalue, -, rfl⟩ := gather_field_eq_some_iff.mp hgather
      exact hvalue
  | there slot ih =>
      obtain ⟨value, others, -, hothers, rfl⟩ := gather_field_eq_some_iff.mp hgather
      exact ih hothers

theorem decode_item (slot : Slot fields shape) {count size : Nat} {items : List Json}
    {values : fields.Values} (hread : fields.decodeItems surplus count size items = .ok values) :
    match items[slot.index]? with
    | none => slot.get values = shape.unset
    | some item => shape.decode surplus item = .ok (slot.get values) := by
  induction slot generalizing items with
  | here =>
      cases items with
      | nil =>
          cases hread
          rfl
      | cons item items =>
          obtain ⟨value, others, hvalue, -, rfl⟩ := decodeItems_field_cons_eq_ok_iff.mp hread
          exact hvalue
  | there slot ih =>
      cases items with
      | nil =>
          cases hread
          exact slot.get_unset
      | cons item items =>
          obtain ⟨value, others, -, hothers, rfl⟩ := decodeItems_field_cons_eq_ok_iff.mp hread
          exact ih hothers

/-- A field has what is given for it, and is unset where nothing is given. -/
theorem decode_given (slot : Slot fields shape) {name : String} (hseparate : fields.Separate)
    {value : Json} {values : fields.Values}
    (hread : (Shape.record name fields).decode surplus value = .ok values) :
    match slot.given value with
    | none => slot.get values = shape.unset
    | some inner => shape.decode surplus inner = .ok (slot.get values) := by
  cases value with
  | object members =>
      have hgather := (decodeMembers_eq_ok_iff hseparate).mp hread
      have hsingle := slot.single_of_gather hgather
      rw [given]
      rcases single_eq_some_iff.mp hsingle with ⟨hmembers, hvalue⟩ | ⟨member, hmembers, hvalue⟩
      · rw [hmembers]
        exact hvalue
      · rw [hmembers]
        exact hvalue
  | array items => exact slot.decode_item hread
  | _ => cases hread

end Slot

/-- A way through a shape to a field at any depth, by the shape of the field. -/
inductive Place : Shape → Shape → Type
  | here {shape : Shape} : Place shape shape
  | field {name : String} {fields : Fields} {shape inner : Shape} :
      Slot fields shape → Place shape inner → Place (.record name fields) inner

def Place.given {shape inner : Shape} : Place shape inner → Json → Option Json
  | .here, value => some value
  | .field slot place, value => (slot.given value).bind place.given

theorem Place.wellTyped {shape inner : Shape} (place : Place shape inner) (hseparate : shape.Separate)
    {value held : Json} (htyped : shape.WellTyped value) (hgiven : place.given value = some held) :
    inner.WellTyped held := by
  induction place generalizing value with
  | here =>
      cases hgiven
      exact htyped
  | field slot place ih =>
      obtain ⟨outer, houter, hplace⟩ := Option.bind_eq_some_iff.mp hgiven
      obtain ⟨x, hread⟩ := (Shape.wellTyped_iff .counted _ hseparate value).mp htyped
      have hslot := slot.decode_given hseparate hread
      rw [houter] at hslot
      have hseparate := slot.separate hseparate
      exact ih hseparate ((Shape.wellTyped_iff .counted _ hseparate outer).mpr ⟨_, hslot⟩) hplace

namespace Leaf

variable {surplus : Surplus} {shape kind : Shape}

def place {shape kind : Shape} : Leaf shape kind → Place shape kind
  | .here _ => .here
  | .field slot leaf => .field slot leaf.place

/-- The JSON value gives this value for the leaf, or nothing where it is unset. -/
def Gives (leaf : Leaf shape kind) (value : Json) (x : kind.Value) : Prop :=
  match leaf.place.given value with
  | none => x = kind.unset
  | some given => kind.Says given x

theorem gives_get (leaf : Leaf shape kind) (hseparate : shape.Separate) {value : Json} {x : shape.Value}
    (hread : shape.decode surplus value = .ok x) : leaf.Gives value (leaf.get x) := by
  induction leaf generalizing value with
  | here scalar => exact (decode_eq_ok_iff_of_scalar scalar).mp hread
  | field slot leaf ih =>
      have hgiven := slot.decode_given hseparate hread
      unfold Gives
      rw [place, Place.given]
      cases hslot : slot.given value with
      | none =>
          rw [hslot] at hgiven
          exact (congrArg leaf.get hgiven).trans leaf.get_unset
      | some inner =>
          rw [hslot] at hgiven
          exact ih (slot.separate hseparate) hgiven

theorem Gives.unique {leaf : Leaf shape kind} {value : Json} {x y : kind.Value}
    (hx : leaf.Gives value x) (hy : leaf.Gives value y) : x = y := by
  unfold Gives at hx hy
  cases hgiven : leaf.place.given value with
  | none =>
      rw [hgiven] at hx hy
      exact hx.trans hy.symm
  | some given =>
      rw [hgiven] at hx hy
      exact hx.unique hy

end Leaf

/-- What is read of a value is what the value, if it is well typed, gives for each leaf. -/
theorem Shape.decode_eq_ok_iff {surplus : Surplus} {shape : Shape} (hseparate : shape.Separate)
    {value : Json} {x : shape.Value} :
    shape.decode surplus value = .ok x ↔
      shape.WellTyped value ∧ ∀ kind (leaf : Leaf shape kind), leaf.Gives value (leaf.get x) := by
  constructor
  · intro hread
    exact ⟨(shape.wellTyped_iff surplus hseparate value).mpr ⟨x, hread⟩,
      fun kind leaf => leaf.gives_get hseparate hread⟩
  · rintro ⟨htyped, hgives⟩
    obtain ⟨y, hread⟩ := (shape.wellTyped_iff surplus hseparate value).mp htyped
    have hsame : y = x := shape.ext_leaf y x fun kind leaf =>
      (leaf.gives_get hseparate hread).unique (hgives kind leaf)
    rw [hread, hsame]

/-- Both ways of counting surplus items accept the same values. -/
theorem Shape.decode_eq_ok_congr {shape : Shape} (hseparate : shape.Separate) {value : Json}
    {x : shape.Value} (surplus other : Surplus) :
    shape.decode surplus value = .ok x ↔ shape.decode other value = .ok x := by
  rw [decode_eq_ok_iff hseparate, decode_eq_ok_iff hseparate]

end OperatorConfig.Schema
