import OperatorConfig.Proofs.Resolution.Cascade

/-!
# The secrets of a resolution

What the specification says of a secret comes first, and what provisioning makes of it second. The stages
between them and after them leave the secrets alone. Secrets that are written back to where they were
read from are the ones that the next resolution is provisioned with.
-/

namespace OperatorConfig

/-! ### From the specification or from provisioning -/

namespace SecretField

theorem get_merge (field : SecretField) (base upper : Settings) :
    field.get (Schema.merge base upper)
      = if field.get upper ≠ "" then field.get upper else field.get base := by
  rw [ite_not]
  cases field <;> rfl

end SecretField

namespace Resolution

theorem get_concluded (field : SecretField) (reach : Reach) (namespaceName : String)
    (answer : (q : Question) → q.Answer) (url? : Option Url) (s : Settings) :
    field.get (concluded reach namespaceName answer (s.withExternal url?)).settings = field.get s := by
  cases field <;> rfl

section

variable {reach : Reach} {namespaceName : String} {specification : Specification}
  {env : Environment} {defaults : Settings} {words rest : Words}
  {answer : (q : Question) → q.Answer} {resolution : Resolution}

theorem get_cascaded (field : SecretField) (stored : Option Table) :
    field.get (cascaded namespaceName specification env defaults words stored)
      = if field.get specification.settings ≠ "" then field.get specification.settings
        else defaults.provisionedSecret stored words field := by
  rw [cascaded, SecretField.get_merge, SecretField.get_applyEnvironment, provisioned,
    Settings.provision_eq_fill, SecretField.get_fill, provisionedSecret_inNamespace]

/-- A resolved secret is the overriding one, or else the provisioned one. -/
theorem get_resolve_ok
    (hrun : (resolve reach namespaceName specification env defaults words).value answer
      = (.ok resolution, rest)) :
    ∃ stored, reach.stored namespaceName answer = .ok stored ∧ ∀ field : SecretField,
      field.get resolution.settings
        = if field.get specification.settings ≠ "" then field.get specification.settings
          else defaults.provisionedSecret stored words field := by
  obtain ⟨stored, url?, hstored, -, rfl⟩ := resolve_ok hrun
  exact ⟨stored, hstored, fun field => by rw [get_concluded, get_cascaded]⟩

/-- No resolved secret is empty. -/
theorem get_resolve_ne_empty
    (hrun : (resolve reach namespaceName specification env defaults words).value answer
      = (.ok resolution, rest)) (field : SecretField) : field.get resolution.settings ≠ "" := by
  obtain ⟨stored, -, hget⟩ := get_resolve_ok hrun
  rw [hget]
  split
  next hset => exact hset
  next => exact Settings.provisionedSecret_ne_empty stored defaults words field

end

end Resolution

/-! ### Writing secrets back -/

namespace Bundle

/-- The data with the secrets of settings; other entries stay. -/
def written (data : Option Table) (s : Settings) : Table :=
  SecretField.all.foldl (fun table field => table.insert field.name (field.get s))
    (data.getD Table.empty)

theorem name_injective : Function.Injective SecretField.name := by
  intro a b h
  cases a <;> cases b <;> first | rfl | exact absurd h (by decide)

theorem get?_foldl_insert_of_not_mem {fields : List SecretField} {name : String}
    (hnot : ∀ field ∈ fields, field.name ≠ name) (s : Settings) (table : Table) :
    (fields.foldl (fun table field => table.insert field.name (field.get s)) table).get? name
      = table.get? name := by
  induction fields generalizing table with
  | nil => rfl
  | cons head rest ih =>
      obtain ⟨hhead, hrest⟩ := List.forall_mem_cons.mp hnot
      rw [List.foldl_cons, ih hrest, Table.get?_insert, if_neg hhead.symm]

theorem get?_foldl_insert_of_mem {fields : List SecretField} {field : SecretField}
    (hmem : field ∈ fields) (s : Settings) (table : Table) :
    (fields.foldl (fun table field => table.insert field.name (field.get s)) table).get? field.name
      = some (field.get s) := by
  induction fields generalizing table with
  | nil => cases hmem
  | cons head rest ih =>
      by_cases hrest : field ∈ rest
      · exact ih hrest _
      · have hnot : ∀ other ∈ rest, other.name ≠ field.name := fun other hother heq =>
          hrest (name_injective heq ▸ hother)
        have heq : field = head := (List.mem_cons.mp hmem).resolve_right hrest
        subst heq
        rw [List.foldl_cons, get?_foldl_insert_of_not_mem hnot, Table.get?_insert, if_pos rfl]

/-- A secret that has been written is stored. -/
theorem get?_written (data : Option Table) (s : Settings) (field : SecretField) :
    (written data s).get? field.name = some (field.get s) :=
  get?_foldl_insert_of_mem field.mem_all s _

/-- What has been written is read as entries of its own, whatever else is stored. -/
theorem get?_ofData_written (data : Option Table) (s : Settings) (field : SecretField) :
    (ofData (some (written data s))).get? field.name = some (field.get s) := by
  have hsecret : hasSecret (written data s) = true := by
    refine List.any_eq_true.mpr ⟨field, field.mem_all, ?_⟩
    rw [Table.contains, get?_written]
    rfl
  rw [ofData, if_pos hsecret]
  exact get?_written data s field

end Bundle

/-- A stored secret is what is provisioned. -/
theorem Settings.provisionedSecret_of_get? {stored : Option Table} {field : SecretField}
    {value : String} (hstored : (Bundle.ofData stored).get? field.name = some value)
    (hvalue : value ≠ "") (s : Settings) (words : Words) :
    s.provisionedSecret stored words field = value := by
  rw [Bundle.get?_ofData] at hstored
  simp [provisionedSecret, keptSecret, hstored, Option.filter_some, hvalue]

end OperatorConfig
