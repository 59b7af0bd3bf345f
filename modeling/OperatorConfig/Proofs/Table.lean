import Mathlib.Data.List.Sort
import OperatorConfig.Table

/-!
# Tables as partial functions

A table is known by what `get?` says of every name, because its entries stand in one order only. Each
operation has one equation about `get?`, and everything else about tables is said through these.
-/

namespace OperatorConfig.Table

section Entries

variable {α : Type}

theorem lookup_cons_eq_ite (name other : String) (held : α) (rest : List (String × α)) :
    ((other, held) :: rest).lookup name = if name = other then some held else rest.lookup name := by
  rw [List.lookup_cons]
  by_cases h : name = other
  · subst h
    simp
  · rw [beq_false_of_ne h, if_neg h]

theorem lookup_map {β : Type} (f : α → β) (entries : List (String × α)) (name : String) :
    (entries.map fun entry => (entry.1, f entry.2)).lookup name = (entries.lookup name).map f := by
  induction entries with
  | nil => rfl
  | cons head rest ih =>
      rw [List.map_cons, lookup_cons_eq_ite, ih]
      obtain ⟨other, held⟩ := head
      rw [lookup_cons_eq_ite]
      split <;> rfl

theorem lookup_eq_some_iff_of_nodup {entries : List (String × α)} (h : (entries.map Prod.fst).Nodup)
    {name : String} {value : α} : entries.lookup name = some value ↔ (name, value) ∈ entries := by
  induction entries with
  | nil => simp
  | cons head rest ih =>
      obtain ⟨other, held⟩ := head
      obtain ⟨hhead, hrest⟩ := List.nodup_cons.mp h
      rw [lookup_cons_eq_ite, List.mem_cons]
      by_cases heq : name = other
      · subst heq
        have hnot : (name, value) ∉ rest := fun hmem => hhead (List.mem_map.mpr ⟨_, hmem, rfl⟩)
        simp [hnot, eq_comm]
      · simp [heq, ih hrest]

theorem nodup_of_pairwise {entries : List (String × α)} (h : entries.Pairwise (·.1 < ·.1)) :
    (entries.map Prod.fst).Nodup := by
  refine List.pairwise_map.mpr (h.imp fun {entry other} hlt heq => ?_)
  rw [heq] at hlt
  exact String.lt_irrefl other.1 hlt

theorem lookup_eq_some_iff {entries : List (String × α)} (h : entries.Pairwise (·.1 < ·.1))
    {name : String} {value : α} : entries.lookup name = some value ↔ (name, value) ∈ entries :=
  lookup_eq_some_iff_of_nodup (nodup_of_pairwise h)

/-- Entries with different names may stand in any order. -/
theorem lookup_eq_of_perm {entries others : List (String × α)} (hperm : entries.Perm others)
    (h : (others.map Prod.fst).Nodup) (name : String) : entries.lookup name = others.lookup name := by
  have hentries : (entries.map Prod.fst).Nodup := ((hperm.map Prod.fst).nodup_iff).mpr h
  refine Option.ext fun value => ?_
  rw [lookup_eq_some_iff_of_nodup hentries, lookup_eq_some_iff_of_nodup h, hperm.mem_iff]

/-- Entries in order are known by what is found under every name. -/
theorem entries_eq_of_lookup {a b : List (String × α)} (ha : a.Pairwise (·.1 < ·.1))
    (hb : b.Pairwise (·.1 < ·.1)) (h : ∀ name, a.lookup name = b.lookup name) : a = b := by
  have irrefl : Std.Irrefl fun a b : String × α => a.1 < b.1 :=
    ⟨fun entry => String.lt_irrefl entry.1⟩
  have antisymm : Std.Antisymm fun a b : String × α => a.1 < b.1 :=
    ⟨fun _ _ hab hba => absurd hba (String.lt_asymm hab)⟩
  refine ha.eq_of_mem_iff hb fun (name, value) => ?_
  rw [← lookup_eq_some_iff ha, ← lookup_eq_some_iff hb, h]

/-- Of the entries that items give, the last one of a name is found from the end. -/
theorem lookup_reverse_filterMap {β : Type} {f : β → Option (String × α)} {items : List β}
    {name : String} {value : α} :
    (items.filterMap f).reverse.lookup name = some value ↔
      ∃ earlier item later, items = earlier ++ item :: later ∧ f item = some (name, value) ∧
        ∀ other ∈ later, ∀ held, f other ≠ some (name, held) := by
  rw [List.lookup_eq_some_iff]
  constructor
  · rintro ⟨after, before, hreverse, hafter⟩
    have hentries : items.filterMap f = before.reverse ++ (name, value) :: after.reverse := by
      rw [← List.reverse_reverse (items.filterMap f), hreverse]
      simp
    obtain ⟨first, rest, rfl, -, hrest⟩ := List.filterMap_eq_append_iff.mp hentries
    obtain ⟨silent, item, later, rfl, -, hitem, hlater⟩ := List.filterMap_eq_cons_iff.mp hrest
    refine ⟨first ++ silent, item, later, (List.append_assoc ..).symm, hitem, ?_⟩
    intro other hother held heq
    have hmem : (name, held) ∈ after.reverse := by
      rw [← hlater]
      exact List.mem_filterMap.mpr ⟨other, hother, heq⟩
    simpa using hafter _ (List.mem_reverse.mp hmem)
  · rintro ⟨earlier, item, later, rfl, hitem, hlater⟩
    refine ⟨(later.filterMap f).reverse, (earlier.filterMap f).reverse, by simp [hitem], ?_⟩
    rintro ⟨other, held⟩ hmem
    obtain ⟨line, hline, heq⟩ := List.mem_filterMap.mp (List.mem_reverse.mp hmem)
    rw [bne_iff_ne]
    rintro rfl
    exact hlater line hline held heq

end Entries

/-- Tables that say the same of every name are equal. -/
theorem ext_get? {a b : Table} (h : ∀ name, a.get? name = b.get? name) : a = b :=
  ext_entries (entries_eq_of_lookup a.ordered b.ordered h)

@[simp] theorem get?_empty (name : String) : empty.get? name = none := rfl

theorem lookup_place (name text other : String) (entries : List (String × String)) :
    (place name text entries).lookup other
      = if other = name then some text else entries.lookup other := by
  induction entries with
  | nil => simp only [place, lookup_cons_eq_ite]
  | cons head rest ih =>
      obtain ⟨next, held⟩ := head
      unfold place
      split
      · simp only [lookup_cons_eq_ite]
      · split
        next heq =>
          subst heq
          by_cases h : other = name <;> simp [lookup_cons_eq_ite, h]
        next hne =>
          rw [lookup_cons_eq_ite, lookup_cons_eq_ite, ih]
          by_cases h : other = next
          · subst h
            simp [Ne.symm hne]
          · simp [h]

@[simp] theorem get?_insert (table : Table) (name text other : String) :
    (table.insert name text).get? other = if other = name then some text else table.get? other :=
  lookup_place name text other table.entries

/-- Of several entries of one name the last one is kept. -/
theorem get?_foldl_insert (entries : List (String × String)) (table : Table) (name : String) :
    (entries.foldl (fun table entry => table.insert entry.1 entry.2) table).get? name
      = (entries.reverse.lookup name).or (table.get? name) := by
  induction entries generalizing table with
  | nil => rfl
  | cons head rest ih =>
      obtain ⟨other, held⟩ := head
      rw [List.foldl_cons, ih, get?_insert, List.reverse_cons, List.lookup_append, lookup_cons_eq_ite]
      cases rest.reverse.lookup name with
      | some text => rfl
      | none => split <;> rfl

theorem get?_ofList (entries : List (String × String)) (name : String) :
    (ofList entries).get? name = entries.reverse.lookup name := by
  rw [ofList, get?_foldl_insert, get?_empty, Option.or_none]

/-- The entries of a table make up the table in any order. -/
theorem ofList_of_perm {entries : List (String × String)} {table : Table}
    (hperm : entries.Perm table.entries) : ofList entries = table := by
  refine ext_get? fun name => ?_
  rw [get?_ofList]
  exact lookup_eq_of_perm (entries.reverse_perm.trans hperm) (nodup_of_pairwise table.ordered) name

/-- An entry of the upper table wins, and every other entry stays. -/
@[simp] theorem get?_overlay (table upper : Table) (name : String) :
    (table.overlay upper).get? name = (upper.get? name).or (table.get? name) := by
  rw [overlay, get?_foldl_insert,
    lookup_eq_of_perm upper.entries.reverse_perm (nodup_of_pairwise upper.ordered)]
  rfl

theorem ofList_append (entries others : List (String × String)) :
    ofList (entries ++ others) = (ofList entries).overlay (ofList others) := by
  refine ext_get? fun name => ?_
  rw [get?_overlay, get?_ofList, get?_ofList, get?_ofList, List.reverse_append, List.lookup_append]

theorem empty_overlay (table : Table) : empty.overlay table = table :=
  ext_get? fun name => by simp

end OperatorConfig.Table
