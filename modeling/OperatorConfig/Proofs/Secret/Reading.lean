import Mathlib.Data.List.Forall2
import OperatorConfig.Proofs.Secret.Params
import OperatorConfig.Proofs.Text.Parts

/-!
# What a text of secrets says

Each line of a text speaks of one name at most, and of several lines that speak of the same name the last
one counts. Which lines these are can be seen from how they begin, without taking any of them apart. From
this follows how texts behave when they are put together, and that only the padding of a line and the lines
without an equals sign say nothing.
-/

namespace OperatorConfig.Params

variable {blob : String} {name value : String}

/-! ### One line -/

/-- The entry that a line without padding spells. -/
def spelled? (line : List Char) : Option (String × String) :=
  (Text.splitFirst '=' line).map fun (name, value) => (String.ofList name, String.ofList value)

theorem spelled?_eq_some_iff {line : List Char} :
    spelled? line = some (name, value) ↔
      '=' ∉ name.toList ∧ line = name.toList ++ '=' :: value.toList := by
  rw [← Text.splitFirst_eq_some_iff, spelled?]
  constructor
  · intro h
    obtain ⟨⟨before, after⟩, hsplit, heq⟩ := Option.map_eq_some_iff.mp h
    cases heq
    rw [hsplit, String.toList_ofList, String.toList_ofList]
  · intro h
    simp only [h, Option.map_some, String.ofList_toList]

/-- A line spells an entry of a name as soon as it begins with the name and an equals sign. -/
theorem exists_spelled?_iff {line : List Char} (hname : '=' ∉ name.toList) :
    (∃ value, spelled? line = some (name, value)) ↔ name.toList ++ ['='] <+: line := by
  constructor
  · rintro ⟨value, hvalue⟩
    obtain ⟨-, rfl⟩ := spelled?_eq_some_iff.mp hvalue
    exact ⟨value.toList, List.append_assoc ..⟩
  · rintro ⟨after, rfl⟩
    refine ⟨String.ofList after, spelled?_eq_some_iff.mpr ⟨hname, ?_⟩⟩
    rw [String.toList_ofList, List.append_assoc, List.singleton_append]

/-! ### All lines -/

def TrimmedLines (blob : String) (lines : List (List Char)) : Prop :=
  ∃ pieces, Text.Parted '\n' blob.toList pieces ∧ List.Forall₂ (Text.Trimmed isPadding) pieces lines

def LastWith (mark : List Char) (lines : List (List Char)) (line : List Char) : Prop :=
  ∃ earlier later, lines = earlier ++ line :: later ∧ mark <+: line ∧ ∀ other ∈ later, ¬ mark <+: other

theorem trimmedLines_iff {lines : List (List Char)} :
    TrimmedLines blob lines ↔
      lines = (Text.splitAt '\n' blob.toList).map (Text.trimWhile isPadding) := by
  have htrimmed : Text.Trimmed isPadding = fun piece line => Text.trimWhile isPadding piece = line := by
    funext piece line
    exact propext (Text.trimmed_iff.trans eq_comm)
  simp only [TrimmedLines, Text.parted_iff, exists_eq_left]
  rw [htrimmed, ← List.forall₂_map_left_iff, List.forall₂_eq_eq_eq, eq_comm]

theorem filterMap_entry? (pieces : List (List Char)) :
    pieces.filterMap entry? = (pieces.map (Text.trimWhile isPadding)).filterMap spelled? := by
  rw [List.filterMap_map]
  rfl

/-- A text says of a name what the last of the lines that begin with the name and an equals sign says. -/
theorem get?_parse_eq_some_iff :
    (parse blob).get? name = some value ↔
      '=' ∉ name.toList ∧ ∃ lines, TrimmedLines blob lines ∧
        LastWith (name.toList ++ ['=']) lines (name.toList ++ '=' :: value.toList) := by
  simp only [trimmedLines_iff, exists_eq_left, parse, Table.get?_ofList, filterMap_entry?,
    Table.lookup_reverse_filterMap, LastWith]
  constructor
  · rintro ⟨earlier, line, later, hlines, hline, hlater⟩
    obtain ⟨hname, rfl⟩ := spelled?_eq_some_iff.mp hline
    refine ⟨hname, earlier, later, hlines, ⟨value.toList, List.append_assoc ..⟩, ?_⟩
    intro other hother hbegins
    obtain ⟨held, hheld⟩ := (exists_spelled?_iff hname).mpr hbegins
    exact hlater other hother held hheld
  · rintro ⟨hname, earlier, later, hlines, -, hlater⟩
    refine ⟨earlier, _, later, hlines, spelled?_eq_some_iff.mpr ⟨hname, rfl⟩, ?_⟩
    intro other hother held hheld
    exact hlater other hother ((exists_spelled?_iff hname).mp ⟨held, hheld⟩)

/-! ### Texts put together -/

theorem parse_append_feed (blob after : String) :
    parse (blob ++ "\n" ++ after) = (parse blob).overlay (parse after) := by
  have hcs : (blob ++ "\n" ++ after).toList = blob.toList ++ '\n' :: after.toList := by simp
  rw [parse, hcs, Text.splitAt_append_separator, List.filterMap_append, Table.ofList_append]
  rfl

/-- A text without an equals sign says nothing. -/
theorem parse_of_not_mem (h : '=' ∉ blob.toList) : parse blob = Table.empty := by
  have hentries : (Text.splitAt '\n' blob.toList).filterMap entry? = [] := by
    refine List.filterMap_eq_nil_iff.mpr fun piece hpiece => ?_
    have hnot : '=' ∉ Text.trimWhile isPadding piece := fun hmem =>
      h (Text.mem_and_ne_of_mem_splitAt hpiece ((Text.trimmed_trimWhile isPadding piece).subset hmem)).1
    rw [ entry?, Text.splitFirst_of_not_mem hnot]
    rfl
  rw [parse, hentries]
  rfl

theorem parse_intercalate (lines : List String) :
    parse ("\n".intercalate lines) = (lines.map parse).foldr Table.overlay Table.empty := by
  induction lines with
  | nil => rfl
  | cons line rest ih =>
      cases rest with
      | nil => rw [String.intercalate_singleton]; rfl
      | cons next others => rw [String.intercalate_cons_cons, parse_append_feed, ih]; rfl

/-- Lines without an equals sign, blank ones among them, may stand anywhere. -/
theorem parse_intercalate_of_not_mem (before after : List String) {line : String} (h : '=' ∉ line.toList) :
    parse ("\n".intercalate (before ++ line :: after)) = parse ("\n".intercalate (before ++ after)) := by
  simp only [parse_intercalate, List.map_append, List.map_cons, List.foldr_append, List.foldr_cons,
    parse_of_not_mem h, Table.empty_overlay]

/-! ### Carriage returns -/

def withReturns (blob : String) : String :=
  String.ofList (blob.toList.flatMap fun c => if c = '\n' then ['\r', '\n'] else [c])

theorem entry?_append_return (line : List Char) : entry? (line ++ ['\r']) = entry? line := by
  have hreturn : ∀ c ∈ ['\r'], isPadding c = true := List.forall_mem_singleton.mpr rfl
  have htrim : Text.trimWhile isPadding line = Text.trimWhile isPadding (line ++ ['\r']) :=
    Text.trimmed_iff.mp ((Text.trimmed_trimWhile isPadding line).append hreturn)
  rw [ entry?, entry?, htrim]

-- The induction is on the rest of the text; what has been read of the line under way stands before it.
theorem filterMap_splitAt_returns {held : List Char} (hheld : '\n' ∉ held) (cs : List Char) :
    (Text.splitAt '\n'
        (held ++ cs.flatMap fun c => if c = '\n' then ['\r', '\n'] else [c])).filterMap entry?
      = (Text.splitAt '\n' (held ++ cs)).filterMap entry? := by
  induction cs generalizing held with
  | nil => rfl
  | cons c rest ih =>
      rw [List.flatMap_cons]
      by_cases hc : c = '\n'
      · subst hc
        have hreturn : '\n' ∉ held ++ ['\r'] := by simpa using hheld
        have hhere (tail : List Char) : held ++ (['\r', '\n'] ++ tail) = held ++ ['\r'] ++ '\n' :: tail := by
          simp
        have hrest := @ih [] List.not_mem_nil
        rw [List.nil_append, List.nil_append] at hrest
        rw [if_pos rfl, hhere, Text.splitAt_append hreturn, Text.splitAt_append hheld]
        simp only [List.filterMap_cons, entry?_append_return, hrest]
      · have hmore : '\n' ∉ held ++ [c] := by simpa [hheld] using Ne.symm hc
        rw [if_neg hc, ← List.append_assoc, ih hmore, List.append_assoc, List.singleton_append]

theorem parse_withReturns (blob : String) : parse (withReturns blob) = parse blob := by
  rw [parse, parse, withReturns, String.toList_ofList]
  exact congrArg Table.ofList (filterMap_splitAt_returns List.not_mem_nil blob.toList)

/-! ### What a text says -/

/-- The last line that begins with a name and an equals sign, without the padding at its ends, gives the
value of the name, and nothing else does: a later text counts over an earlier one, lines without an equals
sign may stand anywhere, and carriage returns before the line feeds make no difference. -/
theorem parse_reads_last_line (blob : String) :
    (∀ name value, (parse blob).get? name = some value ↔
      '=' ∉ name.toList ∧ ∃ lines, TrimmedLines blob lines ∧
        LastWith (name.toList ++ ['=']) lines (name.toList ++ '=' :: value.toList)) ∧
    (∀ after, parse (blob ++ "\n" ++ after) = (parse blob).overlay (parse after)) ∧
    (∀ (before after : List String) (line : String), '=' ∉ line.toList →
      parse ("\n".intercalate (before ++ line :: after)) = parse ("\n".intercalate (before ++ after))) ∧
    parse (withReturns blob) = parse blob :=
  ⟨fun _ _ => get?_parse_eq_some_iff, parse_append_feed blob,
    fun before after _ hline => parse_intercalate_of_not_mem before after hline, parse_withReturns blob⟩

example : (parse "A=1\r\n A = 2\nnone\n\tA=3=4 \n=5").entries
    = [("", "5"), ("A", "3=4"), ("A ", " 2")] := by
  decide

end OperatorConfig.Params
