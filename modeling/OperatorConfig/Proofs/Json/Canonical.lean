import OperatorConfig.Proofs.Json.Patch
import OperatorConfig.Proofs.Schema.RoundTrip

/-!
# Canonical forms

Putting members into canonical form keeps the last member of each key, and it commutes with any choice
of members by their keys (`filter_canonicalMembers`). Where no object has a key twice nothing is lost but
the order (`KeysOnce`).
-/

namespace OperatorConfig.Json

/-! ### Choosing members by their keys -/

section Choosing

variable {members : List (String × Json)}

theorem placeMember_of_lt {key : String} (h : ∀ member ∈ members, key < member.1) (value : Json) :
    placeMember key value members = (key, value) :: members := by
  cases members with
  | nil => rfl
  | cons head rest => exact if_pos (h head List.mem_cons_self)

theorem placeMember_cons (key other : String) (value held : Json) (rest : List (String × Json)) :
    placeMember key value ((other, held) :: rest)
      = if key < other then (key, value) :: (other, held) :: rest
        else if key = other then (other, held) :: rest
        else (other, held) :: placeMember key value rest := rfl

/-- A member whose key is there already is left out. -/
theorem placeMember_of_lookup {key : String} {held : Json} (hordered : Ordered members)
    (hlookup : lookup key members = some held) (value : Json) :
    placeMember key value members = members := by
  induction members with
  | nil => cases hlookup
  | cons head rest ih =>
      obtain ⟨other, first⟩ := head
      obtain ⟨hhead, hrest⟩ := List.pairwise_cons.mp hordered
      rw [lookup_cons] at hlookup
      rw [placeMember_cons]
      by_cases hkey : key = other
      · rw [if_neg (hkey ▸ String.lt_irrefl key), if_pos hkey]
      · rw [if_neg hkey] at hlookup
        have hmem : (key, held) ∈ rest := by
          rw [lookup_eq] at hlookup
          exact (Table.lookup_eq_some_iff hrest).mp hlookup
        rw [if_neg (String.lt_asymm (hhead _ hmem)), if_neg hkey, ih hrest hlookup]

theorem filter_placeMember (choice : String → Bool) (key : String) (value : Json)
    (hordered : Ordered members) :
    (placeMember key value members).filter (choice ·.1)
      = if choice key then placeMember key value (members.filter (choice ·.1))
        else members.filter (choice ·.1) := by
  induction members with
  | nil => cases hkey : choice key <;> simp [placeMember, hkey]
  | cons head rest ih =>
      obtain ⟨other, held⟩ := head
      obtain ⟨hhead, hrest⟩ := List.pairwise_cons.mp hordered
      rw [placeMember_cons]
      split
      next hlt =>
        have hfirst : ∀ member ∈ ((other, held) :: rest).filter (choice ·.1), key < member.1 := by
          intro member hmem
          rcases List.mem_cons.mp (List.mem_filter.mp hmem).1 with rfl | hmem
          · exact hlt
          · exact String.lt_trans hlt (hhead member hmem)
        rw [placeMember_of_lt hfirst, List.filter_cons]
      · split
        next heq =>
          subst heq
          cases hkey : choice key with
          | false => simp
          | true => simp [hkey, placeMember_cons]
        next hlt hne =>
          rw [List.filter_cons, List.filter_cons, ih hrest]
          cases hother : choice other with
          | false => rfl
          | true => cases hkey : choice key <;> simp [placeMember_cons, hlt, hne]

/-- Members may be chosen by their keys before or after they are put into canonical form. -/
theorem filter_canonicalMembers (choice : String → Bool) (members : List (String × Json)) :
    (canonicalMembers members).filter (choice ·.1)
      = canonicalMembers (members.filter (choice ·.1)) := by
  induction members with
  | nil => rfl
  | cons head rest ih =>
      obtain ⟨key, value⟩ := head
      rw [canonicalMembers, filter_placeMember choice key _ (ordered_canonicalMembers rest), ih,
        List.filter_cons]
      cases hkey : choice key with
      | false => simp
      | true => simp [canonicalMembers]

theorem lookup_filter (key : String) (members : List (String × Json)) :
    lookup key (members.filter (·.1 = key)) = lookup key members := by
  induction members with
  | nil => rfl
  | cons head rest ih =>
      obtain ⟨other, value⟩ := head
      rw [List.filter_cons, lookup_cons]
      by_cases hkey : key = other
      · rw [if_pos (decide_eq_true hkey.symm), lookup_cons]
        simp [hkey]
      · rw [if_neg (by simpa using Ne.symm hkey), if_neg hkey, ih]

end Choosing

/-- Of several members of one key the last is kept. -/
theorem lookup_canonicalMembers_reverse (members : List (String × Json)) (key : String) :
    lookup key (canonicalMembers members) = (lookup key members.reverse).map canonical := by
  induction members with
  | nil => rfl
  | cons head rest ih =>
      obtain ⟨other, value⟩ := head
      have hordered := ordered_canonicalMembers rest
      rw [canonicalMembers, List.reverse_cons, lookup_append, lookup_cons]
      cases hother : lookup other (canonicalMembers rest) with
      | none =>
          rw [lookup_placeMember hother, ih]
          by_cases hkey : key = other
          · subst hkey
            rw [ih] at hother
            rw [if_pos rfl, if_pos rfl, Option.map_eq_none_iff.mp hother]
            rfl
          · rw [if_neg hkey, if_neg hkey]
            exact congrArg _ (Option.or_none).symm
      | some held =>
          rw [placeMember_of_lookup hordered hother, ih]
          by_cases hkey : key = other
          · subst hkey
            rw [ih] at hother
            obtain ⟨first, hfirst, -⟩ := Option.map_eq_some_iff.mp hother
            rw [hfirst]
            rfl
          · rw [if_neg hkey]
            exact congrArg _ (Option.or_none).symm

/-! ### Values without repeated keys -/

mutual
/-- No object in the value has two members of one key. -/
def KeysOnce : Json → Prop
  | .array items => KeysOnceItems items
  | .object members => (members.map Prod.fst).Nodup ∧ KeysOnceMembers members
  | .null => True
  | .flag _ => True
  | .number _ => True
  | .text _ => True
def KeysOnceItems : List Json → Prop
  | [] => True
  | item :: rest => item.KeysOnce ∧ KeysOnceItems rest
def KeysOnceMembers : List (String × Json) → Prop
  | [] => True
  | (_, value) :: rest => value.KeysOnce ∧ KeysOnceMembers rest
end

theorem KeysOnceMembers.of_mem {members : List (String × Json)} (h : KeysOnceMembers members)
    {member : String × Json} (hmem : member ∈ members) : member.2.KeysOnce := by
  induction members with
  | nil => cases hmem
  | cons head rest ih =>
      rcases List.mem_cons.mp hmem with rfl | hmem
      · exact h.1
      · exact ih h.2 hmem

theorem length_canonicalMembers {members : List (String × Json)}
    (hnodup : (members.map Prod.fst).Nodup) : (canonicalMembers members).length = members.length := by
  rw [(perm_canonicalMembers hnodup).length_eq, List.length_map]

theorem mem_canonicalMembers {members : List (String × Json)} (hnodup : (members.map Prod.fst).Nodup)
    {member : String × Json} (hmem : member ∈ members) :
    (member.1, member.2.canonical) ∈ canonicalMembers members :=
  (perm_canonicalMembers hnodup).mem_iff.mpr (List.mem_map_of_mem hmem)

/-! ### Leaves of canonical forms -/

theorem canonical_eq_text_iff {value : Json} {text : String} :
    value.canonical = .text text ↔ value = .text text := by
  cases value <;> simp [canonical]

theorem canonical_eq_flag_iff {value : Json} {on : Bool} :
    value.canonical = .flag on ↔ value = .flag on := by
  cases value <;> simp [canonical]

theorem canonical_eq_number_iff {value : Json} {n : Number} :
    value.canonical = .number n ↔ value = .number n := by
  cases value <;> simp [canonical]

theorem canonical_eq_array_iff {value : Json} {items : List Json} :
    value.canonical = .array items ↔ ∃ written, value = .array written ∧ canonicalItems written = items := by
  cases value <;> simp [canonical]

theorem canonical_eq_object_iff {value : Json} {members : List (String × Json)} :
    value.canonical = .object members ↔
      ∃ written, value = .object written ∧ canonicalMembers written = members := by
  cases value <;> simp [canonical]

theorem length_canonicalItems (items : List Json) : (canonicalItems items).length = items.length := by
  induction items with
  | nil => rfl
  | cons item items ih => exact congrArg (· + 1) ih

theorem canonicalItems_eq_map_text_iff {items : List Json} {texts : List String} :
    canonicalItems items = texts.map .text ↔ items = texts.map .text := by
  constructor
  · intro h
    induction items generalizing texts with
    | nil =>
        cases texts with
        | nil => rfl
        | cons text texts => cases h
    | cons item items ih =>
        cases texts with
        | nil => cases h
        | cons text texts =>
            rw [canonicalItems, List.map_cons, List.cons.injEq] at h
            rw [List.map_cons, ← ih h.2, canonical_eq_text_iff.mp h.1]
  · rintro rfl
    exact canonicalItems_texts texts

/-! ### Tables -/

theorem lookup_map_text (entries : List (String × String)) (key : String) :
    lookup key (entries.map fun entry => (entry.1, .text entry.2))
      = (entries.lookup key).map .text := by
  induction entries with
  | nil => rfl
  | cons head rest ih =>
      rw [List.map_cons, lookup_cons, ih, Table.lookup_cons_eq_ite]
      split <;> rfl

/-- The canonical form of an object of texts has the entries of the table. -/
theorem canonicalMembers_map_text (entries : List (String × String)) :
    canonicalMembers (entries.map fun entry => (entry.1, .text entry.2))
      = (Table.ofList entries).entries.map fun entry => (entry.1, .text entry.2) := by
  have hordered : Ordered ((Table.ofList entries).entries.map fun entry => (entry.1, .text entry.2)) :=
    List.pairwise_map.mpr (Table.ofList entries).ordered
  refine eq_of_lookup (ordered_canonicalMembers _) hordered fun key => ?_
  rw [lookup_canonicalMembers_reverse, ← List.map_reverse, lookup_map_text, lookup_map_text]
  change _ = ((Table.ofList entries).get? key).map Json.text
  rw [Table.get?_ofList]
  cases entries.reverse.lookup key <;> rfl

end OperatorConfig.Json
