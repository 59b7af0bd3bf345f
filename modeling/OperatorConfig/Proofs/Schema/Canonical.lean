import OperatorConfig.Proofs.Json.Canonical
import OperatorConfig.Proofs.Schema.Grammar

/-!
# Settings from values as they are written

Members may be written in any order, and some may be written again under the same key. What is read of a
value with all its members is also read of its canonical form, which keeps the last member of each key
(`Shape.decode_canonical`). The other way round, the canonical form may be readable where the value is
not, because it repeats a field; without repeated keys both are the same (`Shape.decode_canonical_iff`).
-/

namespace OperatorConfig.Schema

variable {surplus : Surplus}

theorem meant_canonicalMembers (key : Key) (members : List (String × Json)) :
    key.meant (Json.canonicalMembers members) = Json.canonicalMembers (key.meant members) :=
  Json.filter_canonicalMembers key.names members

/-! ### From the value to its canonical form -/

theorem Shape.Says.canonical {kind : Shape} {value : Json} {x : kind.Value} (h : kind.Says value x) :
    kind.Says value.canonical x := by
  cases kind with
  | text => exact Json.canonical_eq_text_iff.mpr h
  | flag => exact Json.canonical_eq_flag_iff.mpr h
  | integer => exact Json.canonical_eq_number_iff.mpr h
  | texts =>
      exact Json.canonical_eq_array_iff.mpr ⟨_, h, Json.canonicalItems_texts x⟩
  | table =>
      obtain ⟨entries, rfl, rfl⟩ := h
      refine ⟨(Table.ofList entries).entries, ?_, (Table.empty_overlay (Table.ofList entries)).symm⟩
      rw [← Json.canonicalMembers_map_text, Json.canonical]
  | record name fields => cases h

theorem decode_canonical_of_scalar {shape : Shape} (hscalar : shape.isRecord = false) {value : Json}
    {x : shape.Value} (hread : shape.decode surplus value = .ok x) :
    shape.decode surplus value.canonical = .ok x := by
  rw [decode_eq_ok_iff_of_scalar hscalar] at hread ⊢
  exact hread.canonical

mutual
/-- What is read of a value is read of its canonical form. -/
theorem Shape.decode_canonical : (shape : Shape) → shape.Separate → {value : Json} →
    {x : shape.Value} → shape.decode surplus value = .ok x →
    shape.decode surplus value.canonical = .ok x
  | .text, _, _, _, hread => decode_canonical_of_scalar rfl hread
  | .flag, _, _, _, hread => decode_canonical_of_scalar rfl hread
  | .integer, _, _, _, hread => decode_canonical_of_scalar rfl hread
  | .texts, _, _, _, hread => decode_canonical_of_scalar rfl hread
  | .table, _, _, _, hread => decode_canonical_of_scalar rfl hread
  | .record name fields, hseparate, value, x, hread => by
      cases value with
      | object members =>
          rw [Json.canonical]
          exact (decodeMembers_eq_ok_iff hseparate).mpr
            (fields.gather_canonical hseparate ((decodeMembers_eq_ok_iff hseparate).mp hread))
      | array items =>
          have hitems := fields.decodeItems_canonical hseparate hread
          rw [← Json.length_canonicalItems] at hitems
          rw [Json.canonical]
          exact hitems
      | _ => cases hread
theorem Fields.gather_canonical : (fields : Fields) → fields.Separate →
    {members : List (String × Json)} → {values : fields.Values} →
    fields.gather surplus members = some values →
    fields.gather surplus (Json.canonicalMembers members) = some values
  | .done, _, _, _, _ => rfl
  | .field key shape rest, hseparate, members, values, hgather => by
      obtain ⟨value, others, hsingle, hothers, rfl⟩ := gather_field_eq_some_iff.mp hgather
      refine gather_field_eq_some_iff.mpr
        ⟨value, others, ?_, rest.gather_canonical hseparate.2.2 hothers, rfl⟩
      rw [meant_canonicalMembers]
      rcases single_eq_some_iff.mp hsingle with ⟨hmembers, hvalue⟩ | ⟨member, hmembers, hread⟩
      · rw [hmembers]
        exact single_eq_some_iff.mpr (.inl ⟨rfl, hvalue⟩)
      · rw [hmembers]
        exact single_eq_some_iff.mpr
          (.inr ⟨_, rfl, Shape.decode_canonical shape hseparate.2.1 hread⟩)
theorem Fields.decodeItems_canonical : (fields : Fields) → fields.Separate → {count size : Nat} →
    {items : List Json} → {values : fields.Values} →
    fields.decodeItems surplus count size items = .ok values →
    fields.decodeItems surplus count size (Json.canonicalItems items) = .ok values
  | .done, _, _, _, [], _, hread => hread
  | .done, _, _, _, _ :: _, _, hread => by cases hread
  | .field key shape rest, _, _, _, [], _, hread => hread
  | .field key shape rest, hseparate, count, size, item :: items, values, hread => by
      obtain ⟨value, others, hvalue, hothers, rfl⟩ := decodeItems_field_cons_eq_ok_iff.mp hread
      exact decodeItems_field_cons_eq_ok_iff.mpr ⟨value, others,
        Shape.decode_canonical shape hseparate.2.1 hvalue,
        rest.decodeItems_canonical hseparate.2.2 hothers, rfl⟩
end

/-! ### Back to the value -/

theorem Shape.Says.of_canonical {kind : Shape} {value : Json} {x : kind.Value} (honce : value.KeysOnce)
    (h : kind.Says value.canonical x) : kind.Says value x := by
  cases kind with
  | text => exact Json.canonical_eq_text_iff.mp h
  | flag => exact Json.canonical_eq_flag_iff.mp h
  | integer => exact Json.canonical_eq_number_iff.mp h
  | texts =>
      obtain ⟨items, rfl, hitems⟩ := Json.canonical_eq_array_iff.mp h
      exact congrArg Json.array (Json.canonicalItems_eq_map_text_iff.mp hitems)
  | table =>
      obtain ⟨entries, hvalue, rfl⟩ := h
      obtain ⟨members, rfl, hmembers⟩ := Json.canonical_eq_object_iff.mp hvalue
      have htext : ∀ member ∈ members, ∃ entry : String × String,
          member = (entry.1, Json.text entry.2) := by
        intro member hmem
        have hfound := Json.mem_canonicalMembers honce.1 hmem
        rw [hmembers] at hfound
        obtain ⟨entry, -, hentry⟩ := List.mem_map.mp hfound
        obtain ⟨hname, htext⟩ := Prod.mk.inj hentry
        exact ⟨entry, Prod.ext hname.symm (Json.canonical_eq_text_iff.mp htext.symm)⟩
      obtain ⟨written, rfl⟩ := exists_map_eq htext
      refine ⟨written, rfl, ?_⟩
      rw [Json.canonicalMembers_map_text] at hmembers
      have hinjective : Function.Injective fun entry : String × String =>
          (entry.1, Json.text entry.2) := by
        rintro ⟨name, text⟩ ⟨other, held⟩ hsame
        simpa using hsame
      have hentries := List.map_injective_iff.mpr hinjective hmembers
      rw [← hentries]
      exact Table.empty_overlay (Table.ofList written)
  | record name fields => cases h

theorem decode_of_canonical_of_scalar {shape : Shape} (hscalar : shape.isRecord = false) {value : Json}
    (honce : value.KeysOnce) {x : shape.Value} (hread : shape.decode surplus value.canonical = .ok x) :
    shape.decode surplus value = .ok x := by
  rw [decode_eq_ok_iff_of_scalar hscalar] at hread ⊢
  exact hread.of_canonical honce

mutual
theorem Shape.decode_of_canonical : (shape : Shape) → shape.Separate → {value : Json} →
    value.KeysOnce → {x : shape.Value} → shape.decode surplus value.canonical = .ok x →
    shape.decode surplus value = .ok x
  | .text, _, _, honce, _, hread => decode_of_canonical_of_scalar rfl honce hread
  | .flag, _, _, honce, _, hread => decode_of_canonical_of_scalar rfl honce hread
  | .integer, _, _, honce, _, hread => decode_of_canonical_of_scalar rfl honce hread
  | .texts, _, _, honce, _, hread => decode_of_canonical_of_scalar rfl honce hread
  | .table, _, _, honce, _, hread => decode_of_canonical_of_scalar rfl honce hread
  | .record name fields, hseparate, value, honce, x, hread => by
      cases value with
      | object members =>
          rw [Json.canonical] at hread
          exact (decodeMembers_eq_ok_iff hseparate).mpr
            (fields.gather_of_canonical hseparate honce.1 honce.2
              ((decodeMembers_eq_ok_iff hseparate).mp hread))
      | array items =>
          rw [Json.canonical, decode_array, Json.length_canonicalItems] at hread
          exact fields.decodeItems_of_canonical hseparate honce hread
      | _ =>
          rw [Json.canonical] at hread
          cases hread
theorem Fields.gather_of_canonical : (fields : Fields) → fields.Separate →
    {members : List (String × Json)} → (members.map Prod.fst).Nodup → Json.KeysOnceMembers members →
    {values : fields.Values} →
    fields.gather surplus (Json.canonicalMembers members) = some values →
    fields.gather surplus members = some values
  | .done, _, _, _, _, _, _ => rfl
  | .field key shape rest, hseparate, members, hnodup, honce, values, hgather => by
      obtain ⟨value, others, hsingle, hothers, rfl⟩ := gather_field_eq_some_iff.mp hgather
      refine gather_field_eq_some_iff.mpr
        ⟨value, others, ?_, rest.gather_of_canonical hseparate.2.2 hnodup honce hothers, rfl⟩
      have hmeant : ((key.meant members).map Prod.fst).Nodup :=
        hnodup.sublist (List.filter_sublist.map _)
      have hlength := Json.length_canonicalMembers hmeant
      rw [meant_canonicalMembers] at hsingle
      rcases single_eq_some_iff.mp hsingle with ⟨hmembers, hvalue⟩ | ⟨member, hmembers, hread⟩
      · rw [hmembers] at hlength
        exact single_eq_some_iff.mpr (.inl ⟨List.length_eq_zero_iff.mp hlength.symm, hvalue⟩)
      · rw [hmembers] at hlength
        obtain ⟨written, hwritten⟩ := List.length_eq_one_iff.mp hlength.symm
        rw [hwritten] at hmembers
        cases hmembers
        have hmem : written ∈ key.meant members := by simp [hwritten]
        have hvalue := honce.of_mem (List.mem_filter.mp hmem).1
        exact single_eq_some_iff.mpr (.inr ⟨written, hwritten,
          Shape.decode_of_canonical shape hseparate.2.1 hvalue hread⟩)
theorem Fields.decodeItems_of_canonical : (fields : Fields) → fields.Separate → {count size : Nat} →
    {items : List Json} → Json.KeysOnceItems items → {values : fields.Values} →
    fields.decodeItems surplus count size (Json.canonicalItems items) = .ok values →
    fields.decodeItems surplus count size items = .ok values
  | .done, _, _, _, [], _, _, hread => hread
  | .done, _, _, _, _ :: _, _, _, hread => by cases hread
  | .field key shape rest, _, _, _, [], _, _, hread => hread
  | .field key shape rest, hseparate, count, size, item :: items, honce, values, hread => by
      obtain ⟨value, others, hvalue, hothers, rfl⟩ := decodeItems_field_cons_eq_ok_iff.mp hread
      exact decodeItems_field_cons_eq_ok_iff.mpr ⟨value, others,
        Shape.decode_of_canonical shape hseparate.2.1 honce.1 hvalue,
        rest.decodeItems_of_canonical hseparate.2.2 honce.2 hothers, rfl⟩
end

/-- Where no key is repeated, a value and its canonical form are read alike. -/
theorem Shape.decode_canonical_iff {shape : Shape} (hseparate : shape.Separate) {value : Json}
    (honce : value.KeysOnce) {x : shape.Value} :
    shape.decode surplus value.canonical = .ok x ↔ shape.decode surplus value = .ok x :=
  ⟨shape.decode_of_canonical hseparate honce, shape.decode_canonical hseparate⟩

end OperatorConfig.Schema
