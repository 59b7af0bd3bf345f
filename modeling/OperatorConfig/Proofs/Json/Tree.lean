import OperatorConfig.Json.Reading

/-!
# The tree of the tokens of a value

A value has one list of tokens (`kinds`). Taking them in, in whatever is open, delivers one node, and the
node has the value (`Node.foldl_step_kinds`); what is already held of an array or object stays in front of
what is added.
-/

namespace OperatorConfig.Json

open Token (Kind)

mutual
/-- The tokens of a value. -/
def kinds : Json → List Kind
  | .null => [.null]
  | .flag on => [.flag on]
  | .number n => [.number (.ok n)]
  | .text s => [.text (.ok s)]
  | .array items => .mark '[' :: (kindsOfItems items ++ [.mark ']'])
  | .object members => .mark '{' :: (kindsOfMembers members ++ [.mark '}'])
def kindsOfItems : List Json → List Kind
  | [] => []
  | [item] => item.kinds
  | item :: rest => item.kinds ++ .mark ',' :: kindsOfItems rest
def kindsOfMembers : List (String × Json) → List Kind
  | [] => []
  | [(key, value)] => .text (.ok key) :: .mark ':' :: value.kinds
  | (key, value) :: rest =>
      .text (.ok key) :: .mark ':' :: (value.kinds ++ .mark ',' :: kindsOfMembers rest)
end

mutual
/-- A text of the value can be read: numbers are integers of 64 bits, and arrays and objects nest up to so
deep. -/
def Legible : Json → (depth : Nat) → Prop
  | .array items, depth + 1 => LegibleItems items depth
  | .array _, 0 => False
  | .object members, depth + 1 => LegibleMembers members depth
  | .object _, 0 => False
  | .number (.integer n), _ => -0x8000000000000000 ≤ n ∧ n < 0x10000000000000000
  | .number (.float _), _ => False
  | .null, _ => True
  | .flag _, _ => True
  | .text _, _ => True
def LegibleItems : List Json → (depth : Nat) → Prop
  | [], _ => True
  | item :: rest, depth => item.Legible depth ∧ LegibleItems rest depth
def LegibleMembers : List (String × Json) → (depth : Nat) → Prop
  | [], _ => True
  | (_, value) :: rest, depth => value.Legible depth ∧ LegibleMembers rest depth
end

namespace Node

variable {depth start : Nat} {frames : List Frame}

/-! ### What is held of an array or object -/

def HoldItems (depth : Nat) (held : List Node) (values : List Json) : Prop :=
  ∀ rest others, Items.values depth rest = .ok others →
    (prepend held rest).values depth = .ok (values ++ others)

def HoldMembers (depth : Nat) (held : List (Except Fault String × Nat × Node))
    (values : List (String × Json)) : Prop :=
  ∀ rest others, Members.values depth rest = .ok others →
    (prependMembers held rest).values depth = .ok (values ++ others)

theorem HoldItems.nil : HoldItems depth [] [] := fun _ _ h => h

theorem HoldItems.cons {node : Node} {held : List Node} {value : Json} {values : List Json}
    (hheld : HoldItems depth held values) (hvalue : node.value depth = .ok value) :
    HoldItems depth (node :: held) (values ++ [value]) := by
  intro rest others hothers
  have hrest : (Items.item node rest).values depth = .ok (value :: others) := by
    rw [Items.values, hvalue, hothers]
    rfl
  rw [List.append_assoc]
  exact hheld _ _ hrest

theorem HoldMembers.nil : HoldMembers depth [] [] := fun _ _ h => h

theorem HoldMembers.cons {node : Node} {held : List (Except Fault String × Nat × Node)}
    {values : List (String × Json)} {key : String} {settled : Nat} {value : Json}
    (hheld : HoldMembers depth held values) (hvalue : node.value depth = .ok value) :
    HoldMembers depth ((.ok key, settled, node) :: held) (values ++ [(key, value)]) := by
  intro rest others hothers
  have hrest : (Members.member (.ok key) settled node rest).values depth
      = .ok ((key, value) :: others) := by
    rw [Members.values, hvalue, hothers]
    rfl
  rw [List.append_assoc]
  exact hheld _ _ hrest

theorem HoldItems.value_array {nodes : List Node} {items : List Json} (h : HoldItems depth nodes items)
    (stop : Nat) : (Node.array start (prepend nodes (.close stop))).value (depth + 1) = .ok (.array items) := by
  have hitems := h (.close stop) [] rfl
  rw [List.append_nil] at hitems
  rw [Node.value, enter]
  change Except.bind ((prepend nodes (.close stop)).values depth) _ = _
  rw [hitems]
  rfl

theorem HoldMembers.value_object {nodes : List (Except Fault String × Nat × Node)}
    {members : List (String × Json)} (h : HoldMembers depth nodes members) (stop : Nat) :
    (Node.object start (prependMembers nodes (.close stop))).value (depth + 1)
      = .ok (.object members) := by
  have hmembers := h (.close stop) [] rfl
  rw [List.append_nil] at hmembers
  rw [Node.value, enter]
  change Except.bind ((prependMembers nodes (.close stop)).values depth) _ = _
  rw [hmembers]
  rfl

/-! ### Taking in the tokens -/

def Awaited.TakesValue (awaited : Awaited) : Prop :=
  awaited = .value ∨ awaited = .firstItem ∨ awaited = .nextItem

def Awaited.TakesKey (awaited : Awaited) : Prop := awaited = .firstKey ∨ awaited = .nextKey

theorem step_value {awaited : Awaited} (hawaited : awaited.TakesValue) {token : Token}
    (hkind : token.kind ≠ .mark ']') : step (.within awaited frames) token = begin token frames := by
  rcases hawaited with rfl | rfl | rfl
  · rfl
  · simp only [step]
  · simp only [step]

theorem step_key {awaited : Awaited} (hawaited : awaited.TakesKey) {token : Token} {key : String}
    (hkind : token.kind = .text (.ok key)) {held : List (Except Fault String × Nat × Node)} :
    step (.within awaited (.object start held :: frames)) token
      = .within .colon (.member start held (.ok key) token.stop :: frames) := by
  obtain ⟨kind, first, stop⟩ := token
  cases hkind
  rcases hawaited with rfl | rfl <;> rfl

/-- The single token of a value without items or members. -/
theorem foldl_step_singleton {awaited : Awaited} (hawaited : awaited.TakesValue) {tokens : List Token}
    {kind : Kind} (hkinds : tokens.map Token.kind = [kind]) (hkind : kind ≠ .mark ']') :
    ∃ token : Token, token.kind = kind ∧
      tokens.foldl step (.within awaited frames) = begin token frames := by
  obtain ⟨token, rfl, htoken⟩ := List.map_eq_singleton_iff.mp hkinds
  exact ⟨token, htoken, step_value hawaited (htoken ▸ hkind)⟩

/-- A bracket, what it opens, and the bracket that closes it. -/
theorem map_kind_eq_enclosed {tokens : List Token} {opening closing : Kind} {inner : List Kind}
    (hkinds : tokens.map Token.kind = opening :: (inner ++ [closing])) :
    ∃ (first last : Token) (more : List Token), tokens = first :: (more ++ [last]) ∧
      first.kind = opening ∧ last.kind = closing ∧ more.map Token.kind = inner := by
  obtain ⟨first, tail, rfl, hfirst, htail⟩ := List.map_eq_cons_iff.mp hkinds
  obtain ⟨more, ending, rfl, hmore, hending⟩ := List.map_eq_append_iff.mp htail
  obtain ⟨last, rfl, hlast⟩ := List.map_eq_singleton_iff.mp hending
  exact ⟨first, last, more, rfl, hfirst, hlast, hmore⟩

mutual
/-- The tokens of a value deliver a node that has the value. -/
theorem foldl_step_kinds : (value : Json) → {depth : Nat} → value.Legible depth → {awaited : Awaited} →
    awaited.TakesValue → {frames : List Frame} → {tokens : List Token} →
    tokens.map Token.kind = value.kinds →
    ∃ node : Node, tokens.foldl step (.within awaited frames) = deliver node frames ∧
      node.value depth = .ok value
  | .null, _, _, _, hawaited, frames, tokens, hkinds => by
      obtain ⟨⟨kind, start, stop⟩, rfl, hfold⟩ := foldl_step_singleton hawaited hkinds (by simp)
      exact ⟨.null ⟨start, stop⟩, hfold, rfl⟩
  | .flag on, _, _, _, hawaited, frames, tokens, hkinds => by
      obtain ⟨⟨kind, start, stop⟩, rfl, hfold⟩ := foldl_step_singleton hawaited hkinds (by simp)
      exact ⟨.flag on ⟨start, stop⟩, hfold, rfl⟩
  | .number n, _, _, _, hawaited, frames, tokens, hkinds => by
      obtain ⟨⟨kind, start, stop⟩, rfl, hfold⟩ := foldl_step_singleton hawaited hkinds (by simp)
      exact ⟨.number (.ok n) ⟨start, stop⟩, hfold, rfl⟩
  | .text s, _, _, _, hawaited, frames, tokens, hkinds => by
      obtain ⟨⟨kind, start, stop⟩, rfl, hfold⟩ := foldl_step_singleton hawaited hkinds (by simp)
      exact ⟨.text (.ok s) ⟨start, stop⟩, hfold, rfl⟩
  | .array items, depth + 1, hlegible, awaited, hawaited, frames, tokens, hkinds => by
      obtain ⟨⟨_, start, first⟩, ⟨_, last, stop⟩, more, rfl, rfl, rfl, hmore⟩ :=
        map_kind_eq_enclosed hkinds
      rw [List.foldl_cons, step_value hawaited (by simp), List.foldl_append]
      have hopen : begin ⟨.mark '[', start, first⟩ frames
          = .within .firstItem (.array start [] :: frames) := rfl
      rw [hopen]
      by_cases hitems : items = []
      · subst hitems
        cases List.map_eq_nil_iff.mp hmore
        exact ⟨_, rfl, rfl⟩
      · obtain ⟨nodes, hfold, hheld⟩ := foldl_step_kindsOfItems items hitems hlegible
          (.inr (.inl rfl)) HoldItems.nil hmore
        rw [hfold]
        exact ⟨_, rfl, hheld.value_array stop⟩
  | .object members, depth + 1, hlegible, awaited, hawaited, frames, tokens, hkinds => by
      obtain ⟨⟨_, start, first⟩, ⟨_, last, stop⟩, more, rfl, rfl, rfl, hmore⟩ :=
        map_kind_eq_enclosed hkinds
      rw [List.foldl_cons, step_value hawaited (by simp), List.foldl_append]
      have hopen : begin ⟨.mark '\x7b', start, first⟩ frames
          = .within .firstKey (.object start [] :: frames) := rfl
      rw [hopen]
      by_cases hmembers : members = []
      · subst hmembers
        cases List.map_eq_nil_iff.mp hmore
        exact ⟨_, rfl, rfl⟩
      · obtain ⟨nodes, hfold, hheld⟩ := foldl_step_kindsOfMembers members hmembers hlegible
          (.inl rfl) HoldMembers.nil hmore
        rw [hfold]
        exact ⟨_, rfl, hheld.value_object stop⟩
theorem foldl_step_kindsOfItems : (items : List Json) → items ≠ [] → {depth : Nat} →
    LegibleItems items depth → {awaited : Awaited} → awaited.TakesValue → {start : Nat} →
    {held : List Node} → {values : List Json} → HoldItems depth held values →
    {frames : List Frame} → {tokens : List Token} → tokens.map Token.kind = kindsOfItems items →
    ∃ nodes, tokens.foldl step (.within awaited (.array start held :: frames))
        = .within .separator (.array start nodes :: frames) ∧
      HoldItems depth nodes (values ++ items)
  | [], hitems, _, _, _, _, _, _, _, _, _, _, _ => absurd rfl hitems
  | [item], _, _, hlegible, _, hawaited, _, held, _, hheld, _, _, hkinds => by
      obtain ⟨node, hfold, hvalue⟩ := foldl_step_kinds item hlegible.1 hawaited hkinds
      exact ⟨node :: held, hfold, hheld.cons hvalue⟩
  | item :: next :: items, _, depth, hlegible, _, hawaited, start, held, values, hheld, frames, tokens,
    hkinds => by
      obtain ⟨before, after, rfl, hbefore, hafter⟩ := List.map_eq_append_iff.mp hkinds
      obtain ⟨⟨_, first, stop⟩, rest, rfl, rfl, hrest⟩ := List.map_eq_cons_iff.mp hafter
      obtain ⟨node, hfold, hvalue⟩ := foldl_step_kinds item hlegible.1 hawaited hbefore
      obtain ⟨nodes, hothers, hall⟩ := foldl_step_kindsOfItems (next :: items) (by simp) hlegible.2
        (.inr (.inr rfl)) (hheld.cons hvalue) hrest
      rw [List.foldl_append, hfold, List.foldl_cons]
      rw [List.append_assoc] at hall
      exact ⟨nodes, hothers, hall⟩
theorem foldl_step_kindsOfMembers : (members : List (String × Json)) → members ≠ [] → {depth : Nat} →
    LegibleMembers members depth → {awaited : Awaited} → awaited.TakesKey → {start : Nat} →
    {held : List (Except Fault String × Nat × Node)} → {values : List (String × Json)} →
    HoldMembers depth held values → {frames : List Frame} → {tokens : List Token} →
    tokens.map Token.kind = kindsOfMembers members →
    ∃ nodes, tokens.foldl step (.within awaited (.object start held :: frames))
        = .within .separator (.object start nodes :: frames) ∧
      HoldMembers depth nodes (values ++ members)
  | [], hmembers, _, _, _, _, _, _, _, _, _, _, _ => absurd rfl hmembers
  | [(key, value)], _, _, hlegible, _, hawaited, _, held, _, hheld, _, _, hkinds => by
      obtain ⟨keyToken, tail, rfl, hkey, htail⟩ := List.map_eq_cons_iff.mp hkinds
      obtain ⟨⟨_, colon, stop⟩, rest, rfl, rfl, hrest⟩ := List.map_eq_cons_iff.mp htail
      obtain ⟨node, hfold, hvalue⟩ := foldl_step_kinds value hlegible.1 (.inl rfl) hrest
      refine ⟨(.ok key, colon, node) :: held, ?_, hheld.cons hvalue⟩
      rw [List.foldl_cons, step_key hawaited hkey, List.foldl_cons]
      exact hfold
  | (key, value) :: next :: members, _, depth, hlegible, _, hawaited, start, held, values, hheld, frames,
    tokens, hkinds => by
      obtain ⟨keyToken, tail, rfl, hkey, htail⟩ := List.map_eq_cons_iff.mp hkinds
      obtain ⟨⟨_, colon, stop⟩, both, rfl, rfl, hboth⟩ := List.map_eq_cons_iff.mp htail
      obtain ⟨before, after, rfl, hbefore, hafter⟩ := List.map_eq_append_iff.mp hboth
      obtain ⟨⟨_, comma, _⟩, rest, rfl, rfl, hrest⟩ := List.map_eq_cons_iff.mp hafter
      obtain ⟨node, hfold, hvalue⟩ := foldl_step_kinds value hlegible.1 (.inl rfl) hbefore
      obtain ⟨nodes, hothers, hall⟩ := foldl_step_kindsOfMembers (next :: members) (by simp) hlegible.2
        (.inr rfl) (hheld.cons hvalue) hrest
      rw [List.append_assoc] at hall
      refine ⟨nodes, ?_, hall⟩
      rw [List.foldl_cons, step_key hawaited hkey, List.foldl_cons]
      change (before ++ _ :: rest).foldl step
        (.within .value (.member start held (.ok key) colon :: frames)) = _
      rw [List.foldl_append, hfold, List.foldl_cons]
      exact hothers
end

end Node

/-! ### Values of texts -/

/-- The value written in a text, with all members as they stand there. -/
def written (text : List UInt8) : Except Fault Json :=
  (Document.ofBytes text).whole id ((Document.ofBytes text).root.value deepest)

theorem ofBytes_eq_written (text : List UInt8) : ofBytes text = (written text).map canonical := by
  unfold ofBytes written Document.value Document.whole
  cases (Document.ofBytes text).root.value deepest with
  | error fault => rfl
  | ok value => cases (Document.ofBytes text).trailing <;> rfl

theorem written_eq_ok_iff {text : List UInt8} {value : Json} :
    written text = .ok value ↔
      (Document.ofBytes text).root.value deepest = .ok value ∧
        (Document.ofBytes text).trailing = none := by
  unfold written Document.whole
  cases (Document.ofBytes text).root.value deepest with
  | error fault => simp [bind, Except.bind]
  | ok held =>
      cases (Document.ofBytes text).trailing <;> simp [bind, Except.bind, pure, Except.pure]

theorem ofBytes_eq_ok_iff {text : List UInt8} {value : Json} :
    ofBytes text = .ok value ↔ ∃ raw, written text = .ok raw ∧ raw.canonical = value := by
  rw [ofBytes_eq_written]
  cases written text <;> simp [Except.map]

/-- A document with the tokens of a value has that value, and nothing behind it. -/
theorem Document.value_ofTokens {value : Json} {depth : Nat} (hlegible : value.Legible depth)
    {tokens : List Token} (hkinds : tokens.map Token.kind = value.kinds) (size : Nat) :
    (Document.ofTokens size tokens).root.value depth = .ok value ∧
      (Document.ofTokens size tokens).trailing = none := by
  obtain ⟨node, hfold, hvalue⟩ := Node.foldl_step_kinds value hlegible (.inl rfl) hkinds
  have hdocument : Document.ofTokens size tokens = ⟨node, none⟩ := by
    rw [Document.ofTokens, hfold]
    rfl
  rw [hdocument]
  exact ⟨hvalue, rfl⟩

end OperatorConfig.Json
