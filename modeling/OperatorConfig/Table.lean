/-!
# Tables of texts

A `Table` maps finitely many names to texts. Its entries stand in increasing order of the names, so
two tables with the same entries are equal and every listing of a table comes out in one order.
-/

namespace OperatorConfig

/-- Entries whose names increase strictly. -/
abbrev Table.Ordered (entries : List (String × String)) : Prop :=
  entries.Pairwise fun a b => a.1 < b.1

/-- A finite map from names to texts, listed by name. -/
structure Table where
  entries : List (String × String)
  ordered : Table.Ordered entries

namespace Table

/-- Puts an entry in its place, over one of the same name. -/
def place (name text : String) : List (String × String) → List (String × String)
  | [] => [(name, text)]
  | (other, held) :: rest =>
      if name < other then (name, text) :: (other, held) :: rest
      else if name = other then (name, text) :: rest
      else (other, held) :: place name text rest

theorem mem_place {name text : String} {entries : List (String × String)} {entry : String × String}
    (h : entry ∈ place name text entries) : entry = (name, text) ∨ entry ∈ entries := by
  induction entries with
  | nil => simpa [place] using h
  | cons head rest ih =>
      obtain ⟨other, held⟩ := head
      unfold place at h
      split at h
      · simpa using h
      · split at h
        · rcases List.mem_cons.mp h with h | h
          · exact .inl h
          · exact .inr (List.mem_cons_of_mem _ h)
        · rcases List.mem_cons.mp h with h | h
          · exact .inr (h ▸ List.mem_cons_self)
          · exact (ih h).imp_right (List.mem_cons_of_mem _)

theorem ordered_place (name text : String) {entries : List (String × String)}
    (h : Ordered entries) : Ordered (place name text entries) := by
  induction entries with
  | nil => exact List.pairwise_singleton _ _
  | cons head rest ih =>
      obtain ⟨other, held⟩ := head
      obtain ⟨hhead, hrest⟩ := List.pairwise_cons.mp h
      unfold place
      split
      next hlt =>
        refine List.pairwise_cons.mpr ⟨fun entry hmem => ?_, h⟩
        rcases List.mem_cons.mp hmem with rfl | hmem
        · exact hlt
        · exact String.lt_trans hlt (hhead entry hmem)
      next hlt =>
        split
        next heq =>
          subst heq
          exact List.pairwise_cons.mpr ⟨hhead, hrest⟩
        next hne =>
          refine List.pairwise_cons.mpr ⟨fun entry hmem => ?_, ih hrest⟩
          rcases mem_place hmem with rfl | hmem
          · exact Std.lt_of_le_of_ne (Std.not_lt.mp hlt) (Ne.symm hne)
          · exact hhead entry hmem

def empty : Table := ⟨[], List.Pairwise.nil⟩

instance : Inhabited Table := ⟨empty⟩

def insert (table : Table) (name text : String) : Table :=
  ⟨place name text table.entries, ordered_place name text table.ordered⟩

def get? (table : Table) (name : String) : Option String :=
  table.entries.lookup name

def contains (table : Table) (name : String) : Bool :=
  (table.get? name).isSome

/-- The table of a list in which a later entry replaces an earlier one of the same name. -/
def ofList (entries : List (String × String)) : Table :=
  entries.foldl (fun table entry => table.insert entry.1 entry.2) empty

/-- The entries of `upper` over those of `table`. -/
def overlay (table upper : Table) : Table :=
  upper.entries.foldl (fun table entry => table.insert entry.1 entry.2) table

/-- Changes every text, whatever its name. -/
def map (f : String → String) (table : Table) : Table where
  entries := table.entries.map fun entry => (entry.1, f entry.2)
  ordered := List.pairwise_map.mpr table.ordered

theorem ext_entries {a b : Table} (h : a.entries = b.entries) : a = b := by
  cases a
  cases b
  simpa using h

instance : DecidableEq Table := fun a b =>
  if h : a.entries = b.entries then isTrue (ext_entries h)
  else isFalse fun heq => h (heq ▸ rfl)

end Table

end OperatorConfig
