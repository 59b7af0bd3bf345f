import OperatorConfig.Schema.Merge

/-!
# Leaves of settings

Below its records, settings consist of leaves: texts, flags, integers, lists of texts and tables. A
`Leaf` is the way to one of them, of which a reader of documents sees the keys that it passes. Settings
with the same leaves are equal, and what merging does to a leaf depends on that leaf alone, so a stage of
the resolution is known once it is known what it does to each leaf.
-/

namespace OperatorConfig.Schema

def Shape.isRecord : Shape → Bool
  | .record _ _ => true
  | _ => false

/-- A field of a record, by the shape of its values. -/
inductive Slot : Fields → Shape → Type
  | here {key : Key} {shape : Shape} {rest : Fields} : Slot (.field key shape rest) shape
  | there {key : Key} {shape other : Shape} {rest : Fields} :
      Slot rest shape → Slot (.field key other rest) shape

/-- A way through a shape to a leaf, by the shape of the leaf. -/
inductive Leaf : Shape → Shape → Type
  | here {shape : Shape} (scalar : shape.isRecord = false) : Leaf shape shape
  | field {name : String} {fields : Fields} {shape kind : Shape} :
      Slot fields shape → Leaf shape kind → Leaf (.record name fields) kind

namespace Slot

variable {fields : Fields} {shape : Shape}

def name {fields : Fields} {shape : Shape} : Slot fields shape → String
  | @Slot.here key _ _ => key.name
  | .there slot => slot.name

def get {fields : Fields} {shape : Shape} : Slot fields shape → fields.Values → shape.Value
  | .here, (value, _) => value
  | .there slot, (_, values) => slot.get values

theorem get_merge (slot : Slot fields shape) (base upper : fields.Values) :
    slot.get (fields.merge base upper) = shape.merge (slot.get base) (slot.get upper) := by
  induction slot with
  | here => rfl
  | there slot ih => exact ih base.2 upper.2

theorem get_unset (slot : Slot fields shape) : slot.get fields.unset = shape.unset := by
  induction slot with
  | here => rfl
  | there slot ih => exact ih

end Slot

namespace Leaf

variable {shape kind : Shape}

/-- The keys on the way to the leaf. -/
def path {shape kind : Shape} : Leaf shape kind → List String
  | .here _ => []
  | .field slot leaf => slot.name :: leaf.path

def get {shape kind : Shape} : Leaf shape kind → shape.Value → kind.Value
  | .here _, value => value
  | .field slot leaf, values => leaf.get (slot.get values)

theorem get_merge (leaf : Leaf shape kind) (base upper : shape.Value) :
    leaf.get (shape.merge base upper) = kind.merge (leaf.get base) (leaf.get upper) := by
  induction leaf with
  | here => rfl
  | field slot leaf ih => exact (congrArg leaf.get (slot.get_merge base upper)).trans (ih _ _)

theorem get_unset (leaf : Leaf shape kind) : leaf.get shape.unset = kind.unset := by
  induction leaf with
  | here => rfl
  | field slot leaf ih => exact (congrArg leaf.get slot.get_unset).trans ih

theorem isRecord_eq_false (leaf : Leaf shape kind) : kind.isRecord = false := by
  induction leaf with
  | here scalar => exact scalar
  | field slot leaf ih => exact ih

end Leaf

mutual
theorem Shape.ext_leaf : (shape : Shape) → (a b : shape.Value) →
    (∀ kind (leaf : Leaf shape kind), leaf.get a = leaf.get b) → a = b
  | .text, _, _, h => h _ (.here rfl)
  | .flag, _, _, h => h _ (.here rfl)
  | .integer, _, _, h => h _ (.here rfl)
  | .texts, _, _, h => h _ (.here rfl)
  | .table, _, _, h => h _ (.here rfl)
  | .record _ fields, a, b, h =>
      Fields.ext_leaf fields a b fun _ slot kind leaf => h kind (.field slot leaf)
theorem Fields.ext_leaf : (fields : Fields) → (a b : fields.Values) →
    (∀ shape (slot : Slot fields shape) kind (leaf : Leaf shape kind),
      leaf.get (slot.get a) = leaf.get (slot.get b)) → a = b
  | .done, _, _, _ => rfl
  | .field _ shape rest, (_, _), (_, _), h =>
      Prod.ext (Shape.ext_leaf shape _ _ fun kind leaf => h _ .here kind leaf)
        (Fields.ext_leaf rest _ _ fun _ slot kind leaf => h _ (.there slot) kind leaf)
end

namespace Leaf

variable {α : Type} [Shaped α]

/-- What stands at a leaf of settings. -/
def of {α : Type} [Shaped α] {kind : Shape} (leaf : Leaf (Shaped.shape α) kind) (a : α) :
    kind.Value :=
  leaf.get (Shaped.toValue a)

abbrev textOf (leaf : Leaf (Shaped.shape α) .text) (a : α) : String := leaf.of a

abbrev flagOf (leaf : Leaf (Shaped.shape α) .flag) (a : α) : Bool := leaf.of a

abbrev integerOf (leaf : Leaf (Shaped.shape α) .integer) (a : α) : Int32 := leaf.of a

abbrev textsOf (leaf : Leaf (Shaped.shape α) .texts) (a : α) : List String := leaf.of a

abbrev tableOf (leaf : Leaf (Shaped.shape α) .table) (a : α) : Table := leaf.of a

/-- Settings with the same leaves are equal. -/
theorem ext_of {a b : α} (h : ∀ kind (leaf : Leaf (Shaped.shape α) kind), leaf.of a = leaf.of b) :
    a = b := by
  have hvalue : Shaped.toValue a = Shaped.toValue b := Shape.ext_leaf _ _ _ h
  rw [← Shaped.ofValue_toValue a, hvalue, Shaped.ofValue_toValue]

theorem of_merge {kind : Shape} (leaf : Leaf (Shaped.shape α) kind) (base upper : α) :
    leaf.of (merge base upper) = kind.merge (leaf.of base) (leaf.of upper) := by
  rw [of, merge, Shaped.toValue_ofValue, get_merge, of, of]

end Leaf

mutual
/-- What is unset replaces nothing. -/
theorem Shape.merge_unset : (shape : Shape) → (base : shape.Value) → shape.merge base shape.unset = base
  | .text, _ => rfl
  | .flag, base => Bool.or_false base
  | .integer, _ => rfl
  | .texts, _ => rfl
  | .table, _ => rfl
  | .record _ fields, base => fields.merge_unset base
theorem Fields.merge_unset : (fields : Fields) → (base : fields.Values) →
    fields.merge base fields.unset = base
  | .done, _ => rfl
  | .field _ shape rest, (base, bases) => Prod.ext (shape.merge_unset base) (rest.merge_unset bases)
end

/-- Settings agree at every leaf with a path other than the given ones. -/
def AgreeOff {α : Type} [Shaped α] (paths : List (List String)) (a b : α) : Prop :=
  ∀ kind (leaf : Leaf (Shaped.shape α) kind), leaf.path ∉ paths → leaf.of a = leaf.of b

/-! ### All leaves of a shape -/

mutual
/-- The property holds of each leaf, spelled out. -/
def Shape.Each : (shape : Shape) → ((kind : Shape) → Leaf shape kind → Prop) → Prop
  | .text, P => P .text (.here rfl)
  | .flag, P => P .flag (.here rfl)
  | .integer, P => P .integer (.here rfl)
  | .texts, P => P .texts (.here rfl)
  | .table, P => P .table (.here rfl)
  | .record _ fields, P => fields.Each fun _ slot kind leaf => P kind (.field slot leaf)
def Fields.Each : (fields : Fields) →
    ((shape : Shape) → Slot fields shape → (kind : Shape) → Leaf shape kind → Prop) → Prop
  | .done, _ => True
  | .field _ shape rest, P => shape.Each (P shape .here) ∧ rest.Each fun child slot => P child (.there slot)
end

mutual
theorem Shape.Each.forall : (shape : Shape) → {P : (kind : Shape) → Leaf shape kind → Prop} →
    shape.Each P → ∀ kind leaf, P kind leaf
  | .text, _, h, _, .here _ => h
  | .flag, _, h, _, .here _ => h
  | .integer, _, h, _, .here _ => h
  | .texts, _, h, _, .here _ => h
  | .table, _, h, _, .here _ => h
  | .record _ _, _, h, kind, .field slot leaf => Fields.Each.forall _ h slot kind leaf
theorem Fields.Each.forall : (fields : Fields) →
    {P : (shape : Shape) → Slot fields shape → (kind : Shape) → Leaf shape kind → Prop} →
    fields.Each P → ∀ {shape} slot kind leaf, P shape slot kind leaf
  | .field _ shape _, _, h, _, .here, kind, leaf => Shape.Each.forall shape h.1 kind leaf
  | .field _ _ rest, _, h, _, .there slot, kind, leaf => Fields.Each.forall rest h.2 slot kind leaf
end

/-! ### Leaves by their paths -/

mutual
def Shape.leafAt? : (shape : Shape) → List String → Option (Σ kind, Leaf shape kind)
  | .text, [] => some ⟨_, .here rfl⟩
  | .flag, [] => some ⟨_, .here rfl⟩
  | .integer, [] => some ⟨_, .here rfl⟩
  | .texts, [] => some ⟨_, .here rfl⟩
  | .table, [] => some ⟨_, .here rfl⟩
  | .record _ fields, name :: path =>
      (fields.leafAt? name path).map fun found => ⟨found.2.2.1, .field found.2.1 found.2.2.2⟩
  | _, _ => none
def Fields.leafAt? : (fields : Fields) → String → List String →
    Option (Σ shape, Slot fields shape × Σ kind, Leaf shape kind)
  | .done, _, _ => none
  | .field key shape rest, name, path =>
      if key.name = name then (shape.leafAt? path).map fun found => ⟨shape, .here, found⟩
      else (rest.leafAt? name path).map fun found => ⟨found.1, .there found.2.1, found.2.2⟩
end

mutual
theorem Shape.path_of_leafAt? : (shape : Shape) → {path : List String} → {kind : Shape} →
    {leaf : Leaf shape kind} → shape.leafAt? path = some ⟨kind, leaf⟩ → leaf.path = path
  | .text, [], _, _, h => by cases h; rfl
  | .flag, [], _, _, h => by cases h; rfl
  | .integer, [], _, _, h => by cases h; rfl
  | .texts, [], _, _, h => by cases h; rfl
  | .table, [], _, _, h => by cases h; rfl
  | .record _ fields, name :: path, kind, leaf, h => by
      obtain ⟨found, hfound, heq⟩ := Option.map_eq_some_iff.mp h
      cases heq
      exact fields.path_of_leafAt? hfound
theorem Fields.path_of_leafAt? : (fields : Fields) → {name : String} → {path : List String} →
    {found : Σ shape, Slot fields shape × Σ kind, Leaf shape kind} →
    fields.leafAt? name path = some found → found.2.1.name :: found.2.2.2.path = name :: path
  | .field key shape rest, name, path, found, h => by
      unfold Fields.leafAt? at h
      split at h
      next hname =>
        obtain ⟨inner, hinner, rfl⟩ := Option.map_eq_some_iff.mp h
        have hpath := shape.path_of_leafAt? hinner
        change key.name :: inner.2.path = _
        rw [hname, hpath]
      next =>
        obtain ⟨later, hlater, rfl⟩ := Option.map_eq_some_iff.mp h
        exact rest.path_of_leafAt? hlater
end

end OperatorConfig.Schema
