import OperatorConfig.Proofs.Json.Canonical

/-!
# Merging seen in documents

Merging settings has a meaning for their JSON forms that knows no structure, only the shape: objects of a
record are gone through member by member, objects of a table are united, and everything else is replaced
as a whole unless what would replace it is blank. What is written of merged settings is what the overlay
makes of that which is written of both, in the order of the fields as well as in canonical form.
-/

namespace OperatorConfig

namespace Json

/-- Whether the value says that nothing is set. -/
def isBlank : Json → Bool
  | .text value => value = ""
  | .flag value => value = false
  | .number (.integer value) => value = 0
  | .array items => items.isEmpty
  | _ => false

/-- The members of `upper`, and of those of `base` the ones whose keys `upper` does not have. -/
def unite (base upper : List (String × Json)) : List (String × Json) :=
  base.foldr (fun member members => placeMember member.1 member.2 members) upper

theorem ordered_unite {base upper : List (String × Json)} (hupper : Ordered upper) :
    Ordered (unite base upper) := by
  induction base with
  | nil => exact hupper
  | cons head rest ih => exact ordered_placeMember head.2 ih

/-- A member of `upper` comes before one of `base`. -/
theorem lookup_unite {base upper : List (String × Json)} (hbase : (base.map Prod.fst).Nodup)
    (hupper : Ordered upper) (key : String) :
    lookup key (unite base upper) = (lookup key upper).or (lookup key base) := by
  induction base generalizing key with
  | nil => exact Option.or_none.symm
  | cons head rest ih =>
      obtain ⟨other, value⟩ := head
      obtain ⟨hnew, hrest⟩ := List.nodup_cons.mp hbase
      have hother : lookup other (unite rest upper) = lookup other upper := by
        rw [ih hrest, lookup_eq_none_iff.mpr hnew]
        exact Option.or_none
      change lookup key (placeMember other value (unite rest upper)) = _
      rw [lookup_cons]
      cases hheld : lookup other upper with
      | none =>
          rw [lookup_placeMember (hother.trans hheld), ih hrest]
          by_cases heq : key = other
          · subst heq
            simp [hheld]
          · simp [heq]
      | some held =>
          rw [placeMember_of_lookup (ordered_unite hupper) (hother.trans hheld), ih hrest]
          by_cases heq : key = other
          · subst heq
            simp [hheld]
          · simp [heq]

end Json

namespace Schema

mutual
/-- The JSON form of settings over that of others, by their shape. -/
def Shape.overlay : Shape → (base upper : Json) → Json
  | .record _ fields, .object base, .object upper =>
      .object <| base.map fun member =>
        (member.1, (Json.lookup member.1 upper).elim member.2 (fields.overlay member.1 member.2))
  | .table, .object base, .object upper => .object (Json.unite base upper)
  | _, base, upper => if upper.isBlank then base else upper
def Fields.overlay : Fields → (name : String) → (base upper : Json) → Json
  | .done, _, base, _ => base
  | .field key shape rest, name, base, upper =>
      if name = key.name then shape.overlay base upper else rest.overlay name base upper
end

/-! ### Leaves -/

/-- A value that is blank exactly where it replaces nothing. -/
theorem ite_isBlank {α : Type} (write : α → Json) (unset : α) {base upper : α}
    [Decidable (upper = unset)] (hblank : (write upper).isBlank = true ↔ upper = unset) :
    (if (write upper).isBlank then write base else write upper)
      = write (if upper = unset then base else upper) := by
  by_cases hunset : upper = unset
  · rw [if_pos hunset, if_pos (hblank.mpr hunset)]
  · rw [if_neg hunset, if_neg fun hwritten => hunset (hblank.mp hwritten)]

theorem ordered_map_text (table : Table) :
    Json.Ordered (table.entries.map fun entry => (entry.1, .text entry.2)) :=
  List.pairwise_map.mpr table.ordered

theorem overlay_encodeTable (base upper : Table) :
    Shape.table.overlay (encodeTable base) (encodeTable upper) = encodeTable (base.overlay upper) := by
  have hbase := ordered_map_text base
  have hupper := ordered_map_text upper
  refine congrArg Json.object (Json.eq_of_lookup (Json.ordered_unite hupper)
    (ordered_map_text (base.overlay upper)) fun key => ?_)
  have hentry : (base.overlay upper).entries.lookup key
      = (upper.entries.lookup key).or (base.entries.lookup key) := base.get?_overlay upper key
  rw [Json.lookup_unite hbase.nodup hupper]
  simp only [Json.lookup_map_text, hentry]
  cases upper.entries.lookup key <;> rfl

theorem overlay_encode_of_scalar {kind : Shape} (hscalar : kind.isRecord = false)
    (base upper : kind.Value) :
    kind.overlay (kind.encode base) (kind.encode upper) = kind.encode (kind.merge base upper) := by
  cases kind with
  | text =>
      change String at base upper
      exact ite_isBlank Json.text "" decide_eq_true_iff
  | flag =>
      change Bool at base upper
      cases upper
      · exact congrArg Json.flag (Bool.or_false base).symm
      · exact congrArg Json.flag (Bool.or_true base).symm
  | integer =>
      change Int32 at base upper
      refine ite_isBlank (fun value : Int32 => Json.integer value.toInt) 0 ?_
      exact decide_eq_true_iff.trans (Int32.toInt_inj (y := 0))
  | texts =>
      change List String at base upper
      refine ite_isBlank Json.texts [] ?_
      exact List.isEmpty_iff.trans List.map_eq_nil_iff
  | table => exact overlay_encodeTable base upper
  | record name fields => cases hscalar

theorem canonical_encode_of_scalar {kind : Shape} (hscalar : kind.isRecord = false) (x : kind.Value) :
    (kind.encode x).canonical = kind.encode x := by
  cases kind with
  | text => rfl
  | flag => rfl
  | integer => rfl
  | texts => exact canonical_encode_texts x
  | table => exact canonical_encode_table x
  | record name fields => cases hscalar

theorem overlay_canonical_of_scalar {kind : Shape} (hscalar : kind.isRecord = false)
    (base upper : kind.Value) :
    kind.overlay (kind.encode base).canonical (kind.encode upper).canonical
      = (kind.encode (kind.merge base upper)).canonical := by
  simp only [canonical_encode_of_scalar hscalar]
  exact overlay_encode_of_scalar hscalar base upper

/-! ### Records -/

theorem lookup_map_member (change : String → Json → Json) (members : List (String × Json)) (key : String) :
    Json.lookup key (members.map fun member => (member.1, change member.1 member.2))
      = (Json.lookup key members).map (change key) := by
  induction members with
  | nil => rfl
  | cons head rest ih =>
      obtain ⟨other, value⟩ := head
      rw [List.map_cons, Json.lookup_cons, Json.lookup_cons, ih]
      by_cases heq : key = other
      · subst heq
        simp
      · simp [heq]

/-- The first field takes what stands under its name, and leaves the rest to the fields behind it. -/
theorem elim_overlay_field {key : Key} {shape : Shape} {rest : Fields} (name : String) (held value : Json)
    (others : List (String × Json)) :
    (Json.lookup name ((key.name, value) :: others)).elim held
        ((Fields.field key shape rest).overlay name held)
      = if name = key.name then shape.overlay held value
        else (Json.lookup name others).elim held (rest.overlay name held) := by
  rw [Json.lookup_cons]
  by_cases heq : name = key.name
  · rw [if_pos heq, if_pos heq]
    exact if_pos heq
  · rw [if_neg heq, if_neg heq]
    cases Json.lookup name others with
    | none => rfl
    | some upper => exact if_neg heq

mutual
/-- What is written of merged settings, field by field in their order. -/
theorem Shape.overlay_encode : (shape : Shape) → shape.Distinct → (base upper : shape.Value) →
    shape.overlay (shape.encode base) (shape.encode upper) = shape.encode (shape.merge base upper)
  | .text, _, base, upper => overlay_encode_of_scalar rfl base upper
  | .flag, _, base, upper => overlay_encode_of_scalar rfl base upper
  | .integer, _, base, upper => overlay_encode_of_scalar rfl base upper
  | .texts, _, base, upper => overlay_encode_of_scalar rfl base upper
  | .table, _, base, upper => overlay_encode_of_scalar rfl base upper
  | .record _ fields, hdistinct, base, upper =>
      congrArg Json.object (Fields.overlay_encode fields hdistinct base upper)
theorem Fields.overlay_encode : (fields : Fields) → fields.Distinct → (base upper : fields.Values) →
    ((fields.encode base).map fun member =>
        (member.1, (Json.lookup member.1 (fields.encode upper)).elim member.2
          (fields.overlay member.1 member.2)))
      = fields.encode (fields.merge base upper)
  | .done, _, _, _ => rfl
  | .field key shape rest, hdistinct, (base, bases), (upper, uppers) => by
      have hvalue := Shape.overlay_encode shape hdistinct.2.1 base upper
      have hrest := Fields.overlay_encode rest hdistinct.2.2 bases uppers
      have hnew : key.name ∉ rest.names := (List.nodup_cons.mp hdistinct.nodup).1
      refine congrArg₂ List.cons (congrArg (key.name, ·) ?head) (Eq.trans ?tail hrest)
      case head => rw [Fields.encode, elim_overlay_field, if_pos rfl, hvalue]
      case tail =>
        refine List.map_congr_left fun member hmem => congrArg (member.1, ·) ?_
        have hname : member.1 ∈ rest.names := by
          rw [← rest.map_fst_encode bases]
          exact List.mem_map_of_mem hmem
        have hne : member.1 ≠ key.name := fun heq => hnew (heq ▸ hname)
        rw [Fields.encode, elim_overlay_field, if_neg hne]
end

mutual
/-- What is written of merged settings, in canonical form. -/
theorem Shape.overlay_canonical : (shape : Shape) → shape.Distinct → (base upper : shape.Value) →
    shape.overlay (shape.encode base).canonical (shape.encode upper).canonical
      = (shape.encode (shape.merge base upper)).canonical
  | .text, _, base, upper => overlay_canonical_of_scalar rfl base upper
  | .flag, _, base, upper => overlay_canonical_of_scalar rfl base upper
  | .integer, _, base, upper => overlay_canonical_of_scalar rfl base upper
  | .texts, _, base, upper => overlay_canonical_of_scalar rfl base upper
  | .table, _, base, upper => overlay_canonical_of_scalar rfl base upper
  | .record name fields, hdistinct, base, upper => by
      have hbase := canonical_encode_record name fields base
      have hupper := canonical_encode_record name fields upper
      have hmerged := canonical_encode_record name fields (fields.merge base upper)
      refine (congrArg₂ (Shape.record name fields).overlay hbase hupper).trans (Eq.trans ?_ hmerged.symm)
      refine congrArg Json.object
        (Json.eq_of_lookup ?ordered (Json.ordered_canonicalMembers _) fun key => ?_)
      case ordered => exact List.pairwise_map.mpr (Json.ordered_canonicalMembers (fields.encode base))
      rw [lookup_map_member fun name held =>
        (Json.lookup name (Json.canonicalMembers (fields.encode upper))).elim held (fields.overlay name held)]
      have hlookup (values : fields.Values) (key : String) :=
        Json.lookup_canonicalMembers (Fields.nodup_encode hdistinct values) key
      rw [hlookup base, hlookup upper, hlookup (fields.merge base upper)]
      exact Fields.overlay_canonical fields hdistinct base upper key
theorem Fields.overlay_canonical : (fields : Fields) → fields.Distinct → (base upper : fields.Values) →
    (name : String) →
    (((Json.lookup name (fields.encode base)).map Json.canonical).map fun held =>
        ((Json.lookup name (fields.encode upper)).map Json.canonical).elim held (fields.overlay name held))
      = (Json.lookup name (fields.encode (fields.merge base upper))).map Json.canonical
  | .done, _, _, _, _ => rfl
  | .field key shape rest, hdistinct, (base, bases), (upper, uppers), name => by
      have hvalue := Shape.overlay_canonical shape hdistinct.2.1 base upper
      have hrest := Fields.overlay_canonical rest hdistinct.2.2 bases uppers name
      by_cases heq : name = key.name
      · subst heq
        simp only [Fields.encode, Fields.merge, Json.lookup_cons, if_true, Option.map_some]
        exact congrArg some ((if_pos rfl).trans hvalue)
      · simp only [Fields.encode, Fields.merge, Json.lookup_cons, if_neg heq]
        refine Eq.trans (congrArg (Option.map · _) (funext fun held => ?_)) hrest
        cases Json.lookup name (rest.encode uppers) with
        | none => rfl
        | some upper => exact if_neg heq
end

/-! ### Leaves in documents -/

theorem Slot.lookup_encode {fields : Fields} {shape : Shape} (slot : Slot fields shape)
    (hdistinct : fields.Distinct) (values : fields.Values) :
    Json.lookup slot.name (fields.encode values) = some (shape.encode (slot.get values)) := by
  induction slot with
  | here => exact if_pos rfl
  | @there key shape other rest slot ih =>
      have hfound := ih hdistinct.2.2 values.2
      have hmem : slot.name ∈ rest.names := by
        rw [← rest.map_fst_encode values.2]
        by_contra hnot
        rw [Json.lookup_eq_none_iff.mpr hnot] at hfound
        cases hfound
      have hne : slot.name ≠ key.name := fun heq =>
        (List.nodup_cons.mp hdistinct.nodup).1 (heq ▸ hmem)
      exact (if_neg hne).trans hfound

theorem Leaf.at?_encode {shape kind : Shape} (leaf : Leaf shape kind) (hdistinct : shape.Distinct)
    (x : shape.Value) :
    (shape.encode x).canonical.at? leaf.path = some (kind.encode (leaf.get x)).canonical := by
  induction leaf with
  | here scalar => rfl
  | @field name fields shape kind slot leaf ih =>
      have hslot : Json.lookup slot.name (Json.canonicalMembers (fields.encode x))
          = some (shape.encode (slot.get x)).canonical := by
        rw [Json.lookup_canonicalMembers (Fields.nodup_encode hdistinct x),
          slot.lookup_encode hdistinct x]
        rfl
      refine (congrArg (Json.at? · (slot.name :: leaf.path)) (canonical_encode_record name fields x)).trans ?_
      refine (congrArg (Option.bind · (Json.at? · leaf.path)) hslot).trans ?_
      exact ih (slot.distinct hdistinct) (slot.get x)

/-! ### All settings -/

section Settings

variable {α : Type} [Shaped α]

theorem encode_merge (hdistinct : (Shaped.shape α).Distinct) (base upper : α) :
    encode (merge base upper) = (Shaped.shape α).overlay (encode base) (encode upper) := by
  rw [encode, merge, Shaped.toValue_ofValue]
  exact (Shape.overlay_encode _ hdistinct _ _).symm

theorem toJson_merge (hdistinct : (Shaped.shape α).Distinct) (base upper : α) :
    toJson (merge base upper) = (Shaped.shape α).overlay (toJson base) (toJson upper) := by
  rw [toJson, encode, merge, Shaped.toValue_ofValue]
  exact (Shape.overlay_canonical _ hdistinct _ _).symm

theorem Leaf.at?_toJson {kind : Shape} (leaf : Leaf (Shaped.shape α) kind)
    (hdistinct : (Shaped.shape α).Distinct) (a : α) :
    (toJson a).at? leaf.path = some (kind.encode (leaf.of a)).canonical :=
  leaf.at?_encode hdistinct (Shaped.toValue a)

end Settings

end Schema

end OperatorConfig
