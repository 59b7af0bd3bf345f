import OperatorConfig.CommandLine.Run
import OperatorConfig.Proofs.Resolution.StatusReading
import OperatorConfig.Proofs.Schema.Written
import OperatorConfig.Proofs.Settings.Acceptance
import OperatorConfig.Proofs.Settings.Loading
import OperatorConfig.Proofs.Settings.RoundTrip

/-!
# Documents that load back

Settings, overrides and statuses are written as JSON in two layouts, with members in the order of the
fields or sorted. Each of these documents is read back as what was written, and so are the settings that
are printed of a resolution.
-/

namespace OperatorConfig

namespace Json

def layouts (value : Json) : List String := [value.compact, value.pretty]

theorem written_of_mem_layouts {value : Json} (hlegible : value.Legible deepest) {text : String}
    (htext : text ∈ value.layouts) : written (Text.bytes text) = .ok value := by
  simp only [layouts, List.mem_cons, List.not_mem_nil, or_false] at htext
  rcases htext with rfl | rfl
  · exact written_compact hlegible
  · exact written_pretty hlegible

end Json

namespace Schema

variable {α : Type} [Shaped α] {a : α} {value : Json}

/-- The values that are written of settings: with members in the order of the fields, or sorted. -/
def forms {α : Type} [Shaped α] (a : α) : List Json := [encode a, toJson a]

/-- The settings are read of the value, which can be read of its texts. -/
structure Holds {α : Type} [Shaped α] (value : Json) (a : α) : Prop where
  legible : value.Legible Json.deepest
  decode : Schema.decode value = .ok a

theorem Holds.canonical (h : Holds value a) (hseparate : (Shaped.shape α).Separate) :
    Holds value.canonical a := by
  refine ⟨h.legible.canonical, ?_⟩
  have hread := decode_eq_ok_iff_decode.mp h.decode
  exact decode_eq_ok_iff_decode.mpr (Shape.decode_canonical _ hseparate hread)

theorem holds_encode (a : α) (hdepth : (Shaped.shape α).nesting ≤ Json.deepest)
    (hdistinct : (Shaped.shape α).Distinct) (hseparate : (Shaped.shape α).Separate) :
    Holds (encode a) a :=
  ⟨legible_encode a hdepth, decode_encode a hdistinct hseparate⟩

theorem holds_of_mem_forms (hdepth : (Shaped.shape α).nesting ≤ Json.deepest)
    (hdistinct : (Shaped.shape α).Distinct) (hseparate : (Shaped.shape α).Separate)
    (hvalue : value ∈ forms a) : Holds value a := by
  have hencode := holds_encode a hdepth hdistinct hseparate
  simp only [forms, List.mem_cons, List.not_mem_nil, or_false] at hvalue
  rcases hvalue with rfl | rfl
  · exact hencode
  · exact hencode.canonical hseparate

end Schema

open Schema (Shaped)

/-! ### Settings and overrides -/

namespace Settings

theorem separate : (Shaped.shape Settings).Separate := by decide

/-- What holds settings is loaded as these settings from its texts. -/
theorem loadBytes_of_holds {value : Json} {s : Settings} (h : Schema.Holds value s) {text : String}
    (htext : text ∈ value.layouts) : loadBytes (Text.bytes text) = .ok s := by
  have hwritten := Json.written_of_mem_layouts h.legible htext
  have hvalue : Json.ofBytes (Text.bytes text) = .ok value.canonical :=
    Json.ofBytes_eq_ok_iff.mpr ⟨value, hwritten, rfl⟩
  rw [loadBytes_of_json hvalue, ofValue, (h.canonical separate).decode]
  rfl

theorem holds_of_mem_forms {value : Json} {s : Settings} (hvalue : value ∈ Schema.forms s) :
    Schema.Holds value s :=
  Schema.holds_of_mem_forms (by decide) distinct separate hvalue

end Settings

theorem Platform.ofBytes_of_mem_forms {value : Json} {overrides : Platform}
    (hvalue : value ∈ Schema.forms overrides) {text : String} (htext : text ∈ value.layouts) :
    Platform.ofBytes (Text.bytes text) = .ok overrides := by
  have h := Schema.holds_of_mem_forms (by decide) distinct separate hvalue
  rw [ofBytes_eq_ok_iff (Json.written_of_mem_layouts h.legible htext)]
  exact h.decode

/-! ### Statuses -/

namespace Status

theorem legible_of_perm {members : List (String × Json)} {status : Status}
    (hperm : members.Perm status.members) (depth : Nat) : (Json.object members).Legible (depth + 1) := by
  refine Json.legibleMembers_iff.mpr fun ⟨key, value⟩ hmem => ?_
  rcases leaf_of_mem (hperm.mem_iff.mp hmem) with ⟨text, rfl⟩ | ⟨on, rfl⟩ <;> trivial

/-- A status is read back from the texts of its members, in whichever order they stand. -/
theorem readDocument_of_mem_layouts {members : List (String × Json)} {status : Status}
    (hperm : members.Perm status.members) {text : String} (htext : text ∈ (Json.object members).layouts) :
    readDocument (Json.Document.ofBytes (Text.bytes text)) = .ok status := by
  have hwritten := Json.written_of_mem_layouts (legible_of_perm hperm 126) htext
  obtain ⟨hvalue, htrailing⟩ := Json.written_eq_ok_iff.mp hwritten
  rw [readDocument, Json.Document.whole, htrailing, readNode_of_value hperm hvalue]
  rfl

theorem readDocument_of_mem {value : Json} {status : Status}
    (hvalue : value ∈ [.object status.members, status.toJson]) {text : String}
    (htext : text ∈ value.layouts) :
    readDocument (Json.Document.ofBytes (Text.bytes text)) = .ok status := by
  simp only [List.mem_cons, List.not_mem_nil, or_false] at hvalue
  rcases hvalue with rfl | rfl
  · exact readDocument_of_mem_layouts (.refl _) htext
  · rw [toJson_eq] at htext
    exact readDocument_of_mem_layouts status.perm_canonicalMembers htext

end Status

/-! ### Printed resolutions -/

namespace CommandLine

def shownMembers (resolution : Resolution) : List (String × Json) :=
  [("upgradeDecision", .text resolution.upgrade.name),
    ("configuration", Schema.toJson resolution.settings.redacted)]

theorem shown_eq (resolution : Resolution) :
    shown resolution = .object (Json.canonicalMembers (shownMembers resolution)) := by
  rw [shown, Json.canonical]
  rfl

theorem legible_shown (resolution : Resolution) : (shown resolution).Legible Json.deepest := by
  have hsettings : (Schema.encode resolution.settings.redacted).Legible 126 :=
    Schema.legible_encode _ (by decide)
  have hmembers : (Json.object (shownMembers resolution)).Legible Json.deepest :=
    ⟨trivial, hsettings.canonical, trivial⟩
  exact hmembers.canonical

/-- The document that is printed of a resolution as JSON. -/
theorem ofBytes_print (resolution : Resolution) :
    Json.ofBytes (Text.bytes (Output.json.print (shown resolution)))
      = .ok (shown resolution).canonical := by
  have hends : Json.Token.EndsNumber [0x0A] := Json.endsNumber_cons (by decide)
  have hwritten := Json.written_pretty_append (legible_shown resolution) hends
    (Json.Token.Reads.nil.space 0x0A rfl)
  rw [Output.print, Text.bytes_append]
  exact Json.ofBytes_eq_ok_iff.mpr ⟨_, hwritten, rfl⟩

/-- In that document the settings without secrets stand as a member. -/
theorem get?_configuration (resolution : Resolution) :
    ∃ configuration, (shown resolution).canonical.get? "configuration" = some configuration ∧
      Schema.Holds configuration resolution.settings.redacted := by
  have hnodup : ((shownMembers resolution).map Prod.fst).Nodup := by simp [shownMembers]
  have hordered := Json.ordered_canonicalMembers (shownMembers resolution)
  have hlookup : Json.lookup "configuration" (shownMembers resolution)
      = some (Schema.toJson resolution.settings.redacted) := rfl
  have hholds : Schema.Holds (Schema.toJson resolution.settings.redacted) resolution.settings.redacted :=
    Settings.holds_of_mem_forms (by simp [Schema.forms])
  refine ⟨_, ?_, (hholds.canonical Settings.separate).canonical Settings.separate⟩
  rw [shown_eq, Json.canonical, Json.get?, Json.lookup_canonicalMembers hordered.nodup,
    Json.lookup_canonicalMembers hnodup, hlookup]
  rfl

end CommandLine

/-- Every text that is written of settings is loaded as these settings, and every text of overrides is
read as these overrides. A status is read back from its texts, whatever it leaves out. In what is printed
of a resolution as JSON there stands, as the member of the settings, a value that is loaded, as it is or
from any text of it, as the settings without secrets. -/
theorem documents_load_back :
    (∀ (s : Settings) (value : Json) (text : String), value ∈ Schema.forms s → text ∈ value.layouts →
      Settings.loadBytes (Text.bytes text) = .ok s) ∧
    (∀ (overrides : Platform) (value : Json) (text : String), value ∈ Schema.forms overrides →
      text ∈ value.layouts → Platform.ofBytes (Text.bytes text) = .ok overrides) ∧
    (∀ (status : Status) (value : Json) (text : String),
      value ∈ [.object status.members, status.toJson] → text ∈ value.layouts →
        Status.readDocument (Json.Document.ofBytes (Text.bytes text)) = .ok status) ∧
    (∀ (invocation : CommandLine.Invocation) (options : CommandLine.Options) (resolution : Resolution),
      invocation.command = .resolve → options.output = .json →
        ∃ document configuration,
          Json.ofBytes (Text.bytes (invocation.print options resolution)) = .ok document ∧
            document.get? "configuration" = some configuration ∧
            Settings.ofValue configuration = .ok resolution.settings.redacted ∧
            ∀ text ∈ configuration.layouts,
              Settings.loadBytes (Text.bytes text) = .ok resolution.settings.redacted) := by
  refine ⟨fun s value text hvalue => Settings.loadBytes_of_holds (Settings.holds_of_mem_forms hvalue),
    fun overrides value text hvalue => Platform.ofBytes_of_mem_forms hvalue,
    fun status value text hvalue => Status.readDocument_of_mem hvalue,
    fun invocation options resolution hcommand houtput => ?_⟩
  have hprinted : invocation.print options resolution
      = CommandLine.Output.json.print (CommandLine.shown resolution) := by
    simp only [CommandLine.Invocation.print, hcommand, houtput]
  obtain ⟨configuration, hmember, hholds⟩ := CommandLine.get?_configuration resolution
  refine ⟨_, configuration, hprinted ▸ CommandLine.ofBytes_print resolution, hmember, ?_,
    fun text => Settings.loadBytes_of_holds hholds⟩
  rw [Settings.ofValue, hholds.decode]
  rfl

end OperatorConfig
