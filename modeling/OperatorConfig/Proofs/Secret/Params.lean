import OperatorConfig.Proofs.Table
import OperatorConfig.Proofs.Text.Lines
import OperatorConfig.Secret.Params

/-!
# Secrets written as lines

A line holds an entry if nothing of the entry can be taken for the equals sign, for an end of the line or
for padding. A text of such lines is read as the table of their entries, whether its lines end in a line
feed alone or in a carriage return and a line feed.
-/

namespace OperatorConfig.Params

/-- An entry that is read back from a line. -/
structure Plain (name value : String) : Prop where
  noEquals : '=' ∉ name.toList
  noFeed : '\n' ∉ name.toList
  start : ∀ c ∈ name.toList.head?, isPadding c = false
  noFeedBehind : '\n' ∉ value.toList
  ending : ∀ c ∈ value.toList.getLast?, isPadding c = false

instance (name value : String) : Decidable (Plain name value) :=
  decidable_of_iff
    ('=' ∉ name.toList ∧ '\n' ∉ name.toList ∧ name.toList.head?.all (isPadding · = false) = true ∧
      '\n' ∉ value.toList ∧ value.toList.getLast?.all (isPadding · = false) = true) <| by
    simp only [Option.all_eq_true, decide_eq_true_eq]
    constructor
    · rintro ⟨hequals, hfeed, hstart, hbehind, hending⟩
      exact ⟨hequals, hfeed, hstart, hbehind, hending⟩
    · rintro ⟨hequals, hfeed, hstart, hbehind, hending⟩
      exact ⟨hequals, hfeed, hstart, hbehind, hending⟩

/-- A line for an entry; a carriage return may stand before its line feed. -/
structure Line where
  name : String
  value : String
  carriageReturn : Bool

namespace Line

variable (line : Line)

def entry : String × String := (line.name, line.value)

def text : String :=
  line.name ++ "=" ++ line.value ++ if line.carriageReturn then "\r\n" else "\n"

def content : List Char := line.name.toList ++ '=' :: line.value.toList

def padding : List Char := if line.carriageReturn then ['\r'] else []

theorem toList_text : line.text.toList = line.content ++ line.padding ++ ['\n'] := by
  unfold text content padding
  cases line.carriageReturn <;> simp

theorem isPadding_of_mem_padding {c : Char} (hc : c ∈ line.padding) : isPadding c = true := by
  unfold padding at hc
  split at hc
  · rw [List.mem_singleton.mp hc]
    rfl
  · cases hc

variable {line}

theorem not_mem_content (hplain : Plain line.name line.value) : '\n' ∉ line.content := by
  intro hmem
  rcases List.mem_append.mp hmem with hname | hrest
  · exact hplain.noFeed hname
  · rcases List.mem_cons.mp hrest with hequals | hvalue
    · cases hequals
    · exact hplain.noFeedBehind hvalue

theorem isPadding_head?_content (hplain : Plain line.name line.value) :
    ∀ c ∈ line.content.head?, isPadding c = false := by
  intro c hc
  unfold content at hc
  cases hname : line.name.toList with
  | nil =>
      rw [hname] at hc
      cases hc
      rfl
  | cons first rest =>
      rw [hname] at hc
      refine hplain.start c ?_
      rw [hname]
      exact hc

theorem isPadding_getLast?_content (hplain : Plain line.name line.value) :
    ∀ c ∈ line.content.getLast?, isPadding c = false := by
  intro c hc
  rw [content, List.getLast?_append, List.getLast?_cons] at hc
  cases hvalue : line.value.toList.getLast? with
  | none =>
      rw [hvalue] at hc
      cases hc
      rfl
  | some last =>
      rw [hvalue] at hc
      refine hplain.ending c ?_
      rw [hvalue]
      exact hc

theorem entry?_content (hplain : Plain line.name line.value) :
    entry? (line.content ++ line.padding) = some line.entry := by
  have hne : line.content ≠ [] := List.append_ne_nil_of_right_ne_nil _ (List.cons_ne_nil _ _)
  have htrim : Text.trimWhile isPadding (line.content ++ line.padding) = line.content :=
    Text.trimWhile_append hne (isPadding_head?_content hplain) (isPadding_getLast?_content hplain)
      fun _ hc => line.isPadding_of_mem_padding hc
  rw [ entry?, htrim, content, Text.splitFirst_append hplain.noEquals, Option.map_some]
  simp only [String.ofList_toList, entry]

end Line

/-- The text of lines. -/
def ofLines (lines : List Line) : String := String.join (lines.map Line.text)

theorem toList_ofLines (lines : List Line) :
    (ofLines lines).toList
      = (lines.map fun line => line.content ++ line.padding).flatMap (· ++ ['\n']) := by
  simp only [ofLines, String.toList_join, List.flatMap_map, Line.toList_text]

/-- A text of lines that hold entries is read as the table of these entries. -/
theorem parse_ofLines {lines : List Line} (hplain : ∀ line ∈ lines, Plain line.name line.value) :
    parse (ofLines lines) = Table.ofList (lines.map Line.entry) := by
  have hfeed : ∀ cs ∈ lines.map fun line => line.content ++ line.padding, '\n' ∉ cs := by
    intro cs hcs
    obtain ⟨line, hline, rfl⟩ := List.mem_map.mp hcs
    intro hmem
    rcases List.mem_append.mp hmem with hcontent | hpadding
    · exact Line.not_mem_content (hplain line hline) hcontent
    · have hfeed := line.isPadding_of_mem_padding hpadding
      exact absurd hfeed (by decide)
  have hentries : (lines.map fun line => line.content ++ line.padding).filterMap entry?
      = lines.map Line.entry := by
    rw [List.filterMap_map, ← List.filterMap_eq_map]
    exact List.filterMap_congr fun line hline => Line.entry?_content (hplain line hline)
  rw [parse, toList_ofLines, Text.splitAt_flatMap hfeed, List.filterMap_append, hentries]
  exact congrArg Table.ofList (List.append_nil _)

end OperatorConfig.Params
