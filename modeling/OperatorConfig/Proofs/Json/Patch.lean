import OperatorConfig.Json.Basic
import OperatorConfig.Proofs.Table

/-!
# Patches

An object is known by what `lookup` says of every key as soon as its members stand in order, which those
of a canonical form do. A patch is a value that is sent to change another one. Key by key it keeps what
it does not name, takes away what it names with null, and changes the rest; so a patch that leaves a
member out does not take it away.
-/

namespace OperatorConfig.Json

/-! ### Looking up members -/

/-- Members in the order of their keys, each key once. -/
def Ordered (members : List (String × Json)) : Prop :=
  members.Pairwise (·.1 < ·.1)

@[simp] theorem lookup_cons (key other : String) (value : Json) (rest : List (String × Json)) :
    lookup key ((other, value) :: rest) = if key = other then some value else lookup key rest := rfl

theorem lookup_eq (key : String) (members : List (String × Json)) :
    lookup key members = members.lookup key := by
  induction members with
  | nil => rfl
  | cons head rest ih =>
      obtain ⟨other, value⟩ := head
      rw [lookup_cons, Table.lookup_cons_eq_ite, ih]

theorem lookup_append (key : String) (members others : List (String × Json)) :
    lookup key (members ++ others) = (lookup key members).or (lookup key others) := by
  simp only [lookup_eq, List.lookup_append]

theorem lookup_eq_none_iff {key : String} {members : List (String × Json)} :
    lookup key members = none ↔ key ∉ members.map Prod.fst := by
  induction members with
  | nil => simp [lookup]
  | cons head rest ih =>
      obtain ⟨other, value⟩ := head
      by_cases h : key = other <;> simp [h, ih]

theorem eq_of_lookup {members others : List (String × Json)} (hmembers : Ordered members)
    (hothers : Ordered others) (h : ∀ key, lookup key members = lookup key others) :
    members = others :=
  Table.entries_eq_of_lookup hmembers hothers fun key => by rw [← lookup_eq, ← lookup_eq, h]

theorem Ordered.nodup {members : List (String × Json)} (h : Ordered members) :
    (members.map Prod.fst).Nodup :=
  Table.nodup_of_pairwise h

/-! ### Placing members -/

section Placing

variable {key : String} {members : List (String × Json)}

theorem lookup_placeMember (hnew : lookup key members = none) (value : Json) (other : String) :
    lookup other (placeMember key value members)
      = if other = key then some value else lookup other members := by
  induction members with
  | nil => rfl
  | cons head rest ih =>
      obtain ⟨next, held⟩ := head
      rw [lookup_cons] at hnew
      split at hnew
      · cases hnew
      next hne =>
        unfold placeMember
        split
        · rfl
        · rw [lookup_cons, lookup_cons, ih hnew]
          by_cases h : other = next
          · subst h
            simp [Ne.symm hne]
          · simp [h]

theorem mem_placeMember {value : Json} {member : String × Json}
    (h : member ∈ placeMember key value members) : member = (key, value) ∨ member ∈ members := by
  induction members with
  | nil => simpa [placeMember] using h
  | cons head rest ih =>
      obtain ⟨next, held⟩ := head
      unfold placeMember at h
      split at h
      · simpa using h
      · split at h
        · exact .inr h
        · rcases List.mem_cons.mp h with h | h
          · exact .inr (h ▸ List.mem_cons_self)
          · exact (ih h).imp_right (List.mem_cons_of_mem _)

theorem ordered_placeMember (value : Json) (h : Ordered members) :
    Ordered (placeMember key value members) := by
  induction members with
  | nil => exact List.pairwise_singleton _ _
  | cons head rest ih =>
      obtain ⟨next, held⟩ := head
      obtain ⟨hhead, hrest⟩ := List.pairwise_cons.mp h
      unfold placeMember
      split
      next hlt =>
        refine List.pairwise_cons.mpr ⟨fun member hmem => ?_, h⟩
        rcases List.mem_cons.mp hmem with rfl | hmem
        · exact hlt
        · exact String.lt_trans hlt (hhead member hmem)
      next hlt =>
        split
        · exact h
        next hne =>
          refine List.pairwise_cons.mpr ⟨fun member hmem => ?_, ih hrest⟩
          rcases mem_placeMember hmem with rfl | hmem
          · exact Std.lt_of_le_of_ne (Std.not_lt.mp hlt) (Ne.symm hne)
          · exact hhead member hmem

end Placing

/-! ### Canonical forms -/

theorem ordered_canonicalMembers (members : List (String × Json)) :
    Ordered (canonicalMembers members) := by
  induction members with
  | nil => exact List.Pairwise.nil
  | cons head rest ih => exact ordered_placeMember _ ih

theorem lookup_canonicalMembers {members : List (String × Json)}
    (hnodup : (members.map Prod.fst).Nodup) (key : String) :
    lookup key (canonicalMembers members) = (lookup key members).map canonical := by
  induction members generalizing key with
  | nil => rfl
  | cons head rest ih =>
      obtain ⟨other, value⟩ := head
      obtain ⟨hnew, hrest⟩ := List.nodup_cons.mp hnodup
      have hother : lookup other (canonicalMembers rest) = none := by
        rw [ih hrest, lookup_eq_none_iff.mpr hnew]
        rfl
      rw [canonicalMembers, lookup_placeMember hother, ih hrest, lookup_cons]
      split <;> rfl

/-! ### Changing a value by a patch -/

def dropMember (key : String) (members : List (String × Json)) : List (String × Json) :=
  members.filter fun member => member.1 ≠ key

def setMember (key : String) (value : Json) (members : List (String × Json)) :
    List (String × Json) :=
  placeMember key value (dropMember key members)

mutual
/-- A value changed by a patch. An object changes the members that it names, of which null takes one
away; any other value takes the place of what stood there. -/
def patched (target : Json) : Json → Json
  | .object changes => .object (patchedMembers (target.members?.getD []) changes)
  | .null => .null
  | .flag value => .flag value
  | .number value => .number value
  | .text value => .text value
  | .array items => .array items
def patchedMembers (members : List (String × Json)) : List (String × Json) → List (String × Json)
  | [] => members
  | (key, .null) :: rest => patchedMembers (dropMember key members) rest
  | (key, change) :: rest =>
      patchedMembers (setMember key (patched ((lookup key members).getD .null) change) members) rest
end

/-- What a member becomes when a patch names its key. -/
def changed (held : Option Json) : Json → Option Json
  | .null => none
  | change => some (patched (held.getD .null) change)

def changeMember (key : String) (change : Json) (members : List (String × Json)) :
    List (String × Json) :=
  match changed (lookup key members) change with
  | none => dropMember key members
  | some value => setMember key value members

theorem patchedMembers_cons (members : List (String × Json)) (key : String) (change : Json)
    (rest : List (String × Json)) :
    patchedMembers members ((key, change) :: rest)
      = patchedMembers (changeMember key change members) rest := by
  cases change <;> rfl

section Changing

variable {members : List (String × Json)}

theorem lookup_dropMember (key other : String) :
    lookup other (dropMember key members) = if other = key then none else lookup other members := by
  unfold dropMember
  induction members with
  | nil => simp [lookup]
  | cons head rest ih =>
      obtain ⟨next, held⟩ := head
      by_cases hnext : next = key
      · subst hnext
        rw [List.filter_cons_of_neg (by simp), ih, lookup_cons]
        split <;> rfl
      · rw [List.filter_cons_of_pos (by simpa using hnext), lookup_cons, lookup_cons, ih]
        by_cases h : other = next
        · subst h
          simp [hnext]
        · simp [h]

theorem ordered_dropMember (key : String) (h : Ordered members) : Ordered (dropMember key members) :=
  h.filter _

theorem lookup_changeMember (key : String) (change : Json) (other : String) :
    lookup other (changeMember key change members)
      = if other = key then changed (lookup key members) change else lookup other members := by
  unfold changeMember
  cases changed (lookup key members) change with
  | none => exact lookup_dropMember key other
  | some value =>
      have hnew : lookup key (dropMember key members) = none := by simp [lookup_dropMember]
      refine (lookup_placeMember hnew value other).trans ?_
      rw [lookup_dropMember]
      split <;> rfl

theorem ordered_changeMember (key : String) (change : Json) (h : Ordered members) :
    Ordered (changeMember key change members) := by
  unfold changeMember
  split
  · exact ordered_dropMember key h
  · exact ordered_placeMember _ (ordered_dropMember key h)

theorem ordered_patchedMembers (changes : List (String × Json)) (h : Ordered members) :
    Ordered (patchedMembers members changes) := by
  induction changes generalizing members with
  | nil => exact h
  | cons head rest ih =>
      rw [patchedMembers_cons]
      exact ih (ordered_changeMember head.1 head.2 h)

/-- A patch says of each key, on its own, what becomes of it. -/
theorem lookup_patchedMembers {changes : List (String × Json)}
    (hnodup : (changes.map Prod.fst).Nodup) (key : String) :
    lookup key (patchedMembers members changes)
      = match lookup key changes with
        | none => lookup key members
        | some change => changed (lookup key members) change := by
  induction changes generalizing members with
  | nil => rfl
  | cons head rest ih =>
      obtain ⟨other, change⟩ := head
      obtain ⟨hnew, hrest⟩ := List.nodup_cons.mp hnodup
      rw [patchedMembers_cons, ih hrest, lookup_changeMember, lookup_cons]
      by_cases h : key = other
      · subst h
        simp [lookup_eq_none_iff.mpr hnew]
      · simp [h]

/-- A patch whose values are no objects and not null lays them over the members. -/
theorem patchedMembers_eq {changes result : List (String × Json)} (hmembers : Ordered members)
    (hchanges : Ordered changes) (hresult : Ordered result)
    (hplain : ∀ key change, lookup key changes = some change →
      ∀ held, changed held change = some change)
    (h : ∀ key, lookup key result = (lookup key changes).or (lookup key members)) :
    patchedMembers members changes = result := by
  refine eq_of_lookup (ordered_patchedMembers changes hmembers) hresult fun key => ?_
  rw [lookup_patchedMembers hchanges.nodup, h]
  cases hchange : lookup key changes with
  | none => rfl
  | some change => exact hplain key change hchange _

end Changing

theorem get?_patched {changes : List (String × Json)} (hnodup : (changes.map Prod.fst).Nodup)
    (target : Json) (key : String) :
    (patched target (.object changes)).get? key
      = match lookup key changes with
        | none => target.get? key
        | some change => changed (target.get? key) change := by
  have htarget : lookup key (target.members?.getD []) = target.get? key := by
    cases target <;> rfl
  rw [patched, get?, lookup_patchedMembers hnodup, htarget]

example :
    patched
        (.object [("a", .object [("b", .text "c")]), ("d", .flag true)])
        (.object [("a", .object [("b", .null), ("e", .text "f")])])
      = .object [("a", .object [("e", .text "f")]), ("d", .flag true)] := rfl

end OperatorConfig.Json
