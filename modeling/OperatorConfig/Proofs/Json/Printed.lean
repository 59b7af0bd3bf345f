import OperatorConfig.Proofs.Json.Lexemes
import OperatorConfig.Proofs.Json.Tree

/-!
# Printed values are read back

Both layouts of a value are spellings of its tokens, with blanks between them, so a text of a value holds
that value as it was printed, members in their order included.
-/

namespace OperatorConfig.Json

open Token (Reads EndsNumber Kind)

theorem endsNumber_cons {byte : UInt8} {rest : List UInt8}
    (hbyte : Token.isDigit byte = false ∧ Token.ascii byte ≠ '.' ∧ Token.ascii byte ≠ 'e' ∧
      Token.ascii byte ≠ 'E') : EndsNumber (byte :: rest) := by
  intro other hmem
  cases hmem
  exact hbyte

variable {rest : List UInt8} {following : List Kind}

/-! ### The compact layout -/

mutual
/-- The compact text of a value is cut into its tokens. -/
theorem reads_compact : (value : Json) → {depth : Nat} → value.Legible depth → {rest : List UInt8} →
    {following : List Kind} → EndsNumber rest → Reads rest following →
    Reads (Text.bytes value.compact ++ rest) (value.kinds ++ following)
  | .null, _, _, _, _, _, hrest => hrest.null
  | .flag true, _, _, _, _, _, hrest => hrest.flag true
  | .flag false, _, _, _, _, _, hrest => hrest.flag false
  | .number (.integer n), _, hlegible, _, _, hends, hrest => hrest.integer hlegible.1 hlegible.2 hends
  | .text s, _, _, _, _, _, hrest => hrest.quoteText s
  | .array items, _ + 1, hlegible, _, _, _, hrest => by
      -- From the end to the beginning, because what follows a number decides whether it has ended.
      have hclosed := hrest.mark 0x5D rfl fun _ => rfl
      have hitems := reads_compactItems items hlegible (endsNumber_cons (by decide)) hclosed
      simp only [compact, kinds, Text.bytes_append, List.append_assoc, List.cons_append]
      exact hitems.mark 0x5B rfl fun _ => rfl
  | .object members, _ + 1, hlegible, _, _, _, hrest => by
      have hclosed := hrest.mark 0x7D rfl fun _ => rfl
      have hmembers := reads_compactMembers members hlegible (endsNumber_cons (by decide)) hclosed
      simp only [compact, kinds, Text.bytes_append, List.append_assoc, List.cons_append]
      exact hmembers.mark 0x7B rfl fun _ => rfl
theorem reads_compactItems : (items : List Json) → {depth : Nat} → LegibleItems items depth →
    {rest : List UInt8} → {following : List Kind} → EndsNumber rest → Reads rest following →
    Reads (Text.bytes (compactItems items) ++ rest) (kindsOfItems items ++ following)
  | [], _, _, _, _, _, hrest => hrest
  | [item], _, hlegible, _, _, hends, hrest => reads_compact item hlegible.1 hends hrest
  | item :: next :: items, _, hlegible, rest, following, hends, hrest => by
      have hothers := reads_compactItems (next :: items) hlegible.2 hends hrest
      have hcomma := hothers.mark 0x2C rfl fun _ => rfl
      have hitem := reads_compact item hlegible.1 (endsNumber_cons (by decide)) hcomma
      change Reads (Text.bytes (item.compact ++ "," ++ compactItems (next :: items)) ++ rest)
        (item.kinds ++ .mark ',' :: kindsOfItems (next :: items) ++ following)
      simp only [Text.bytes_append, List.append_assoc, List.cons_append]
      exact hitem
theorem reads_compactMembers : (members : List (String × Json)) → {depth : Nat} →
    LegibleMembers members depth → {rest : List UInt8} → {following : List Kind} → EndsNumber rest →
    Reads rest following →
    Reads (Text.bytes (compactMembers members) ++ rest) (kindsOfMembers members ++ following)
  | [], _, _, _, _, _, hrest => hrest
  | [(key, value)], _, hlegible, _, _, hends, hrest => by
      have hvalue := reads_compact value hlegible.1 hends hrest
      have hcolon := hvalue.mark 0x3A rfl fun _ => rfl
      simp only [compactMembers, kindsOfMembers, Text.bytes_append, List.append_assoc]
      exact hcolon.quoteText key
  | (key, value) :: next :: members, _, hlegible, rest, following, hends, hrest => by
      have hothers := reads_compactMembers (next :: members) hlegible.2 hends hrest
      have hcomma := hothers.mark 0x2C rfl fun _ => rfl
      have hvalue := reads_compact value hlegible.1 (endsNumber_cons (by decide)) hcomma
      have hcolon := hvalue.mark 0x3A rfl fun _ => rfl
      change Reads
        (Text.bytes (quoteText key ++ ":" ++ value.compact ++ "," ++ compactMembers (next :: members))
          ++ rest)
        (.text (.ok key) :: .mark ':' :: (value.kinds ++ .mark ',' :: kindsOfMembers (next :: members))
          ++ following)
      simp only [Text.bytes_append, List.append_assoc, List.cons_append]
      exact hcolon.quoteText key
end

/-! ### The indented layout -/

theorem reads_lineAt (level : Nat) (hrest : Reads rest following) :
    Reads (Text.bytes (lineAt level) ++ rest) following := by
  have hblanks : ∀ byte ∈ Text.bytes (lineAt level), Token.isSpace byte = true := by
    intro byte hmem
    rw [lineAt, Text.bytes_append, List.mem_append] at hmem
    rcases hmem with hmem | hmem
    · cases List.mem_singleton.mp hmem
      rfl
    · rw [Text.bytes_ofList] at hmem
      obtain ⟨c, hc, hbyte⟩ := List.mem_flatMap.mp hmem
      cases List.eq_of_mem_replicate hc
      cases List.mem_singleton.mp hbyte
      rfl
  exact hrest.spaces hblanks

theorem endsNumber_lineAt (level : Nat) (rest : List UInt8) :
    EndsNumber (Text.bytes (lineAt level) ++ rest) := by
  rw [lineAt, Text.bytes_append, List.append_assoc]
  exact endsNumber_cons (by decide)

mutual
/-- The indented text of a value is cut into its tokens. -/
theorem reads_prettyAt : (value : Json) → (level : Nat) → {depth : Nat} → value.Legible depth →
    {rest : List UInt8} → {following : List Kind} → EndsNumber rest → Reads rest following →
    Reads (Text.bytes (value.prettyAt level) ++ rest) (value.kinds ++ following)
  | .null, _, _, _, _, _, _, hrest => hrest.null
  | .flag true, _, _, _, _, _, _, hrest => hrest.flag true
  | .flag false, _, _, _, _, _, _, hrest => hrest.flag false
  | .number (.integer n), _, _, hlegible, _, _, hends, hrest =>
      hrest.integer hlegible.1 hlegible.2 hends
  | .text s, _, _, _, _, _, _, hrest => hrest.quoteText s
  | .array [], _, _ + 1, _, _, _, _, hrest =>
      (hrest.mark 0x5D rfl fun _ => rfl).mark 0x5B rfl fun _ => rfl
  | .array (item :: items), level, _ + 1, hlegible, rest, following, _, hrest => by
      have hclosed := reads_lineAt level (hrest.mark 0x5D rfl fun _ => rfl)
      have hitems := reads_prettyItems (item :: items) (level + 1) hlegible
        (endsNumber_lineAt level _) hclosed
      simp only [prettyAt, kinds, Text.bytes_append, List.append_assoc, List.cons_append]
      exact hitems.mark 0x5B rfl fun _ => rfl
  | .object [], _, _ + 1, _, _, _, _, hrest =>
      (hrest.mark 0x7D rfl fun _ => rfl).mark 0x7B rfl fun _ => rfl
  | .object (member :: members), level, _ + 1, hlegible, _, _, _, hrest => by
      have hclosed := reads_lineAt level (hrest.mark 0x7D rfl fun _ => rfl)
      have hmembers := reads_prettyMembers (member :: members) (level + 1) hlegible
        (endsNumber_lineAt level _) hclosed
      simp only [prettyAt, kinds, Text.bytes_append, List.append_assoc, List.cons_append]
      exact hmembers.mark 0x7B rfl fun _ => rfl
theorem reads_prettyItems : (items : List Json) → (level : Nat) → {depth : Nat} →
    LegibleItems items depth → {rest : List UInt8} → {following : List Kind} → EndsNumber rest →
    Reads rest following →
    Reads (Text.bytes (prettyItems level items) ++ rest) (kindsOfItems items ++ following)
  | [], _, _, _, _, _, _, hrest => hrest
  | [item], level, _, hlegible, _, _, hends, hrest => by
      have hitem := reads_prettyAt item level hlegible.1 hends hrest
      simp only [prettyItems, kindsOfItems, Text.bytes_append, List.append_assoc]
      exact reads_lineAt level hitem
  | item :: next :: items, level, _, hlegible, rest, following, hends, hrest => by
      have hothers := reads_prettyItems (next :: items) level hlegible.2 hends hrest
      have hcomma := hothers.mark 0x2C rfl fun _ => rfl
      have hitem := reads_prettyAt item level hlegible.1 (endsNumber_cons (by decide)) hcomma
      change Reads
        (Text.bytes (lineAt level ++ item.prettyAt level ++ "," ++ prettyItems level (next :: items))
          ++ rest)
        (item.kinds ++ .mark ',' :: kindsOfItems (next :: items) ++ following)
      simp only [Text.bytes_append, List.append_assoc, List.cons_append]
      exact reads_lineAt level hitem
theorem reads_prettyMembers : (members : List (String × Json)) → (level : Nat) → {depth : Nat} →
    LegibleMembers members depth → {rest : List UInt8} → {following : List Kind} → EndsNumber rest →
    Reads rest following →
    Reads (Text.bytes (prettyMembers level members) ++ rest) (kindsOfMembers members ++ following)
  | [], _, _, _, _, _, _, hrest => hrest
  | [(key, value)], level, _, hlegible, _, _, hends, hrest => by
      have hvalue := (reads_prettyAt value level hlegible.1 hends hrest).space 0x20 rfl
      have hcolon := hvalue.mark 0x3A rfl fun _ => rfl
      simp only [prettyMembers, kindsOfMembers, Text.bytes_append, List.append_assoc]
      exact reads_lineAt level (hcolon.quoteText key)
  | (key, value) :: next :: members, level, _, hlegible, rest, following, hends, hrest => by
      have hothers := reads_prettyMembers (next :: members) level hlegible.2 hends hrest
      have hcomma := hothers.mark 0x2C rfl fun _ => rfl
      have hvalue := reads_prettyAt value level hlegible.1 (endsNumber_cons (by decide)) hcomma
      have hcolon := (hvalue.space 0x20 rfl).mark 0x3A rfl fun _ => rfl
      change Reads
        (Text.bytes (lineAt level ++ quoteText key ++ ": " ++ value.prettyAt level ++ ","
          ++ prettyMembers level (next :: members)) ++ rest)
        (.text (.ok key) :: .mark ':' :: (value.kinds ++ .mark ',' :: kindsOfMembers (next :: members))
          ++ following)
      simp only [Text.bytes_append, List.append_assoc, List.cons_append]
      exact reads_lineAt level (hcolon.quoteText key)
end

/-! ### Values of texts -/

variable {value : Json}

theorem written_of_reads (hlegible : value.Legible deepest) {text : List UInt8}
    (hreads : Reads text value.kinds) : written text = .ok value :=
  written_eq_ok_iff.mpr (Document.value_ofTokens hlegible (hreads 0) text.length)

/-- A compact text has the value of which it is a text; blanks may follow. -/
theorem written_compact_append (hlegible : value.Legible deepest) (hends : EndsNumber rest)
    (hrest : Reads rest []) : written (Text.bytes value.compact ++ rest) = .ok value := by
  have hreads := reads_compact value hlegible hends hrest
  rw [List.append_nil] at hreads
  exact written_of_reads hlegible hreads

/-- An indented text has the value of which it is a text; blanks may follow. -/
theorem written_pretty_append (hlegible : value.Legible deepest) (hends : EndsNumber rest)
    (hrest : Reads rest []) : written (Text.bytes value.pretty ++ rest) = .ok value := by
  have hreads := reads_prettyAt value 0 hlegible hends hrest
  rw [List.append_nil] at hreads
  exact written_of_reads hlegible hreads

theorem endsNumber_nil : EndsNumber [] := by
  intro byte hmem
  cases hmem

theorem written_compact (hlegible : value.Legible deepest) :
    written (Text.bytes value.compact) = .ok value := by
  have hwritten := written_compact_append hlegible endsNumber_nil Reads.nil
  rw [List.append_nil] at hwritten
  exact hwritten

theorem written_pretty (hlegible : value.Legible deepest) :
    written (Text.bytes value.pretty) = .ok value := by
  have hwritten := written_pretty_append hlegible endsNumber_nil Reads.nil
  rw [List.append_nil] at hwritten
  exact hwritten

/-! ### Canonical forms -/

theorem legibleMembers_iff {members : List (String × Json)} {depth : Nat} :
    LegibleMembers members depth ↔ ∀ member ∈ members, member.2.Legible depth := by
  induction members with
  | nil => exact ⟨fun _ _ hmem => absurd hmem List.not_mem_nil, fun _ => trivial⟩
  | cons head rest ih =>
      rw [List.forall_mem_cons, ← ih]
      rfl

theorem LegibleMembers.placeMember {members : List (String × Json)} {depth : Nat} {key : String}
    (hmembers : LegibleMembers members depth) (hvalue : value.Legible depth) :
    LegibleMembers (Json.placeMember key value members) depth := by
  induction members with
  | nil => exact ⟨hvalue, trivial⟩
  | cons head rest ih =>
      obtain ⟨other, held⟩ := head
      rw [Json.placeMember]
      split
      · exact ⟨hvalue, hmembers⟩
      · split
        · exact hmembers
        · exact ⟨hmembers.1, ih hmembers.2⟩

mutual
theorem Legible.canonical : (value : Json) → {depth : Nat} → value.Legible depth →
    value.canonical.Legible depth
  | .null, _, _ => trivial
  | .flag _, _, _ => trivial
  | .text _, _, _ => trivial
  | .number (.integer _), _, hlegible => hlegible
  | .array items, _ + 1, hlegible => LegibleItems.canonical items hlegible
  | .object members, _ + 1, hlegible => LegibleMembers.canonical members hlegible
theorem LegibleItems.canonical : (items : List Json) → {depth : Nat} → LegibleItems items depth →
    LegibleItems (canonicalItems items) depth
  | [], _, _ => trivial
  | item :: rest, _, hlegible =>
      ⟨Legible.canonical item hlegible.1, LegibleItems.canonical rest hlegible.2⟩
theorem LegibleMembers.canonical : (members : List (String × Json)) → {depth : Nat} →
    LegibleMembers members depth → LegibleMembers (canonicalMembers members) depth
  | [], _, _ => trivial
  | (_, value) :: rest, _, hlegible =>
      (LegibleMembers.canonical rest hlegible.2).placeMember (Legible.canonical value hlegible.1)
end

end OperatorConfig.Json
