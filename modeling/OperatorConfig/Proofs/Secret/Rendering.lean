import OperatorConfig.Proofs.Secret.Reading

/-!
# Texts of secrets read back

A table can be read back from its lines exactly where each of its entries can be read back from its own
line. No entry of another kind is ever read from any text, so nothing that the lines do to each other can
make up for a line that does not hold its entry.
-/

namespace OperatorConfig.Params

/-! ### What is read -/

/-- Only plain entries are read from a text. -/
theorem plain_of_mem_parse {blob : String} {entry : String × String}
    (hmem : entry ∈ (parse blob).entries) : Plain entry.1 entry.2 := by
  obtain ⟨name, value⟩ := entry
  have hget : (parse blob).get? name = some value :=
    (Table.lookup_eq_some_iff (parse blob).ordered).mpr hmem
  obtain ⟨hequals, lines, hlines, earlier, later, hsplit, -, -⟩ := get?_parse_eq_some_iff.mp hget
  have hline : name.toList ++ '=' :: value.toList ∈ lines := by
    rw [hsplit]
    exact List.mem_append_right earlier List.mem_cons_self
  rw [trimmedLines_iff.mp hlines] at hline
  obtain ⟨piece, hpiece, htrim⟩ := List.mem_map.mp hline
  have htrimmed : Text.Trimmed isPadding piece (name.toList ++ '=' :: value.toList) :=
    Text.trimmed_iff.mpr htrim.symm
  have hfeed : '\n' ∉ name.toList ++ '=' :: value.toList := fun hc =>
    (Text.mem_and_ne_of_mem_splitAt hpiece (htrimmed.subset hc)).2 rfl
  refine ⟨hequals, fun hc => hfeed (List.mem_append_left _ hc), ?start,
    fun hc => hfeed (List.mem_append_right _ (List.mem_cons_of_mem _ hc)), ?ending⟩
  case start =>
    intro c hc
    refine htrimmed.first c ?_
    rw [List.head?_append, Option.mem_def.mp hc]
    rfl
  case ending =>
    intro c hc
    refine htrimmed.last c ?_
    rw [List.getLast?_append, List.getLast?_cons, Option.mem_def.mp hc]
    rfl

/-! ### What is written -/

/-- Lines with the entries of a table, in any order and ended either way, are read as the table exactly
where the entries are plain. -/
theorem parse_ofLines_eq_iff {table : Table} {lines : List Line}
    (hlines : (lines.map Line.entry).Perm table.entries) :
    parse (ofLines lines) = table ↔ ∀ entry ∈ table.entries, Plain entry.1 entry.2 := by
  constructor
  · intro hparse entry hmem
    rw [← hparse] at hmem
    exact plain_of_mem_parse hmem
  · intro hplain
    have hplainLines : ∀ line ∈ lines, Plain line.name line.value := fun line hline =>
      hplain line.entry (hlines.subset (List.mem_map_of_mem hline))
    rw [parse_ofLines hplainLines, Table.ofList_of_perm hlines]

def linesOf (carriageReturn : Bool) (table : Table) : List Line :=
  table.entries.map fun entry => ⟨entry.1, entry.2, carriageReturn⟩

theorem map_entry_linesOf (carriageReturn : Bool) (table : Table) :
    (linesOf carriageReturn table).map Line.entry = table.entries := by
  rw [linesOf, List.map_map]
  exact List.map_id table.entries

theorem render_eq_ofLines {lineEnd : String} {carriageReturn : Bool}
    (hend : lineEnd = if carriageReturn then "\r\n" else "\n") (table : Table) :
    render lineEnd table = ofLines (linesOf carriageReturn table) := by
  have hstep : (fun blob (entry : String × String) => blob ++ entry.1 ++ "=" ++ entry.2 ++ lineEnd)
      = fun blob entry => blob ++ (Line.mk entry.1 entry.2 carriageReturn).text := by
    funext blob entry
    simp only [Line.text, hend, String.append_assoc]
  rw [render, hstep, ofLines, linesOf, String.join_eq_foldl, List.map_map, List.foldl_map]
  rfl

theorem parse_render_eq_iff {lineEnd : String} (hend : lineEnd ∈ ["\n", "\r\n"]) (table : Table) :
    parse (render lineEnd table) = table ↔ ∀ entry ∈ table.entries, Plain entry.1 entry.2 := by
  obtain ⟨carriageReturn, hreturn⟩ :
      ∃ carriageReturn : Bool, lineEnd = if carriageReturn then "\r\n" else "\n" := by
    rcases List.mem_cons.mp hend with rfl | hend
    · exact ⟨false, rfl⟩
    · exact ⟨true, List.mem_singleton.mp hend⟩
  rw [render_eq_ofLines hreturn]
  refine parse_ofLines_eq_iff ?_
  rw [map_entry_linesOf]

/-- The tables that are read back from what is written of them are the tables of plain entries, in whatever
order their lines stand and however these end, and these are all the tables that are ever read. -/
theorem render_inverts_parse :
    (∀ lineEnd ∈ ["\n", "\r\n"], ∀ table,
      parse (render lineEnd table) = table ↔ ∀ entry ∈ table.entries, Plain entry.1 entry.2) ∧
    (∀ (table : Table) (lines : List Line), (lines.map Line.entry).Perm table.entries →
      (parse (ofLines lines) = table ↔ ∀ entry ∈ table.entries, Plain entry.1 entry.2)) ∧
    (∀ table, (∃ blob, parse blob = table) ↔ ∀ entry ∈ table.entries, Plain entry.1 entry.2) ∧
    ∀ lineEnd ∈ ["\n", "\r\n"], ∀ blob, parse (render lineEnd (parse blob)) = parse blob := by
  refine ⟨fun lineEnd hend table => parse_render_eq_iff hend table,
    fun table lines hlines => parse_ofLines_eq_iff hlines, fun table => ⟨?read, ?written⟩,
    fun lineEnd hend blob => ?again⟩
  case read =>
    rintro ⟨blob, rfl⟩ entry hmem
    exact plain_of_mem_parse hmem
  case written =>
    intro hplain
    exact ⟨render "\n" table, (parse_render_eq_iff List.mem_cons_self table).mpr hplain⟩
  case again =>
    refine (parse_render_eq_iff hend (parse blob)).mpr fun entry hmem => ?_
    exact plain_of_mem_parse hmem

end OperatorConfig.Params
