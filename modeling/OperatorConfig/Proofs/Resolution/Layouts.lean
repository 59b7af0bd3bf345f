import OperatorConfig.Proofs.Resolution.Outcome
import OperatorConfig.Proofs.Secret.Params

/-!
# The two layouts of stored secrets

Provisioning asks a bundle for nothing but the values under the names of the secrets, so two bundles that
agree on these are provisioned alike. A table of entries and a text of lines with the same entries do,
because none of the entries is lost in the text, and because a table without any secret holds as little
as no table at all.
-/

namespace OperatorConfig

namespace Bundle

/-- Data without the one-text layout give each secret its own entry, if it has one. -/
theorem get?_ofData_of_entries {data : Table} (h : data.get? legacyName = none) (field : SecretField) :
    (ofData (some data)).get? field.name = data.get? field.name := by
  by_cases hknown : ∃ known : SecretField, data.get? known.name ≠ none
  · exact get?_ofData_of_known hknown field.name
  · have hnone : ∀ known : SecretField, data.get? known.name = none := by simpa using hknown
    rw [get?_ofData_of_nothing hnone h, hnone]

/-- Data with nothing but the one-text layout give each secret the entry of its line. -/
theorem get?_ofData_of_blob (blob : String) (field : SecretField) :
    (ofData (some (Table.empty.insert legacyName blob))).get? field.name
      = (Params.parse blob).get? field.name := by
  have hget (name : String) : (Table.empty.insert legacyName blob).get? name
      = if name = legacyName then some blob else none := by
    rw [Table.get?_insert, Table.get?_empty]
  refine get?_ofData_of_params (fun known => ?_) ?_ field.name
  · have hname : known.name ≠ legacyName := by cases known <;> decide
    rw [hget, if_neg hname]
  · rw [hget, if_pos rfl]

end Bundle

/-- Only the values of the secrets count. -/
theorem Settings.provision_congr {stored other : Option Table}
    (h : ∀ field : SecretField,
      (Bundle.ofData stored).get? field.name = (Bundle.ofData other).get? field.name)
    (s : Settings) (words : Words) : s.provision stored words = s.provision other words := by
  simp only [Settings.provision, Bundle.apply_eq_fill, Bundle.kept, h]

/-- Entries that are stored one by one and the lines of these entries that are stored in one text, in any
order and ended either way, are provisioned alike: neither fails, the settings are the same, and so is
what is left of the words. -/
theorem Resolution.provision_of_lines {table : Table} {lines : List Params.Line}
    (hparams : table.get? Bundle.legacyName = none)
    (hplain : ∀ entry ∈ table.entries, Params.Plain entry.1 entry.2)
    (hlines : (lines.map Params.Line.entry).Perm table.entries)
    (database : Bool) (namespaceName : String) (s : Settings) (words : Words)
    (answer : (q : Question) → q.Answer) :
    ∃ provisioned rest,
      (Resolution.provision { store := true, database } namespaceName s words).value
          (Operator.storing (some table) answer) = (.ok provisioned, rest) ∧
      (Resolution.provision { store := true, database } namespaceName s words).value
          (Operator.storing (some (Table.empty.insert Bundle.legacyName (Params.ofLines lines))) answer)
        = (.ok provisioned, rest) := by
  have hplainLines : ∀ line ∈ lines, Params.Plain line.name line.value := fun line hline =>
    hplain line.entry (hlines.subset (List.mem_map_of_mem hline))
  have hparse : Params.parse (Params.ofLines lines) = table := by
    rw [Params.parse_ofLines hplainLines, Table.ofList_of_perm hlines]
  have hsame : s.provision (some (Table.empty.insert Bundle.legacyName (Params.ofLines lines))) words
      = s.provision (some table) words := by
    refine Settings.provision_congr (fun field => ?_) s words
    rw [Bundle.get?_ofData_of_blob, hparse, Bundle.get?_ofData_of_entries hparams]
  refine ⟨(s.provision (some table) words).1, (s.provision (some table) words).2, ?_, ?_⟩
  · rw [value_provision]
    rfl
  · rw [value_provision, ← hsame]
    rfl

theorem Resolution.provision_of_lines_mixed :
    let table : Table := Table.ofList
      [("OAUTH_COOKIE_SECRET", ""), ("POSTGRESQL_PASSWORD", "a=b"), ("other", " padded")]
    let lines : List Params.Line :=
      [⟨"POSTGRESQL_PASSWORD", "a=b", true⟩, ⟨"other", " padded", false⟩, ⟨"OAUTH_COOKIE_SECRET", "", true⟩]
    let words : Words := ⟨.constantly 0 (by decide), 0⟩
    table.get? Bundle.legacyName = none ∧
    (∀ entry ∈ table.entries, Params.Plain entry.1 entry.2) ∧
    (lines.map Params.Line.entry).Perm table.entries ∧
    Params.ofLines lines = "POSTGRESQL_PASSWORD=a=b\r\nother= padded\nOAUTH_COOKIE_SECRET=\r\n" ∧
    ∃ provisioned rest,
      (Resolution.provision { store := true } "fuse" {} words).value
          (Operator.storing (some table) Operator.nothing) = (.ok provisioned, rest) ∧
      (Resolution.provision { store := true } "fuse" {} words).value
          (Operator.storing (some (Table.empty.insert Bundle.legacyName (Params.ofLines lines)))
            Operator.nothing) = (.ok provisioned, rest) := by
  intro table lines words
  have hparams : table.get? Bundle.legacyName = none := by decide
  have hplain : ∀ entry ∈ table.entries, Params.Plain entry.1 entry.2 := by decide
  have hlines : (lines.map Params.Line.entry).Perm table.entries := by decide
  exact ⟨hparams, hplain, hlines, by decide,
    Resolution.provision_of_lines hparams hplain hlines false "fuse" {} words Operator.nothing⟩

end OperatorConfig
