import Mathlib
import OperatorConfig.Proofs.Secret.Spending

/-!
# Every text is equally likely

A word is six bits that count and 26 that do not, so every letter is named by equally many words, and every
text by as many sequences of accepted words as any other text of its length. Words that are passed over
leave no trace in a text, wherever they stand, and a text that is drawn in two parts is the text that is
drawn at once.
-/

namespace OperatorConfig

/-! ### The words of a letter -/

theorem topBits_eq_div (word : UInt32) : topBits word = word.toNat / 2 ^ 26 := by
  rw [topBits, UInt32.toNat_shiftRight, Nat.shiftRight_eq_div_pow]
  rfl

def wordEquiv : UInt32 ≃ Fin 64 × Fin (2 ^ 26) where
  toFun word :=
    (⟨topBits word, by rw [topBits_eq_div]; have := word.toNat_lt; omega⟩,
      ⟨word.toNat % 2 ^ 26, Nat.mod_lt _ (by decide)⟩)
  invFun parts := UInt32.ofNat (parts.1 * 2 ^ 26 + parts.2)
  left_inv word := by
    simp only [topBits_eq_div, Nat.div_add_mod', UInt32.ofNat_toNat]
  right_inv := by
    rintro ⟨⟨top, htop⟩, ⟨low, hlow⟩⟩
    have hword : (UInt32.ofNat (top * 2 ^ 26 + low)).toNat = top * 2 ^ 26 + low :=
      UInt32.toNat_ofNat_of_lt' (by rw [UInt32.size]; omega)
    simp only [topBits_eq_div, hword, Prod.mk.injEq, Fin.mk.injEq]
    omega

/-- Each value of the top bits belongs to equally many words. -/
theorem card_topBits (p : Nat → Prop) :
    Nat.card { word : UInt32 // p (topBits word) } = Nat.card { top : Fin 64 // p top } * 2 ^ 26 := by
  calc
    Nat.card { word : UInt32 // p (topBits word) }
        = Nat.card { parts : Fin 64 × Fin (2 ^ 26) // p parts.1 } :=
      Nat.card_congr (wordEquiv.subtypeEquiv fun _ => Iff.rfl)
    _ = Nat.card ({ top : Fin 64 // p top } × Fin (2 ^ 26)) :=
      Nat.card_congr (Equiv.prodSubtypeFstEquivSubtypeProd (p := fun top : Fin 64 => p top))
    _ = Nat.card { top : Fin 64 // p top } * 2 ^ 26 := by rw [Nat.card_prod, Nat.card_fin]

theorem length_alphabet : alphabet.length = 62 := by decide

theorem nodup_alphabet : alphabet.Nodup := by decide

theorem card_accepted : Nat.card { word : UInt32 // Accepted word } = 62 * 2 ^ 26 := by
  have htops : Nat.card { top : Fin 64 // (top : Nat) < 62 } = 62 := by
    rw [Nat.card_eq_fintype_card]
    decide
  rw [← htops]
  exact card_topBits (· < 62)

/-- A letter is named by one value of the top bits. -/
theorem accepted_and_letter_eq_iff {k : Nat} (hk : k < alphabet.length) (word : UInt32) :
    Accepted word ∧ letter word = alphabet[k] ↔ topBits word = k := by
  constructor
  · rintro ⟨haccepted, hletter⟩
    have htop : topBits word < alphabet.length := length_alphabet ▸ haccepted
    rw [letter, List.getD_eq_getElem _ _ htop] at hletter
    exact (nodup_alphabet.getElem_inj_iff).mp hletter
  · rintro rfl
    refine ⟨?_, List.getD_eq_getElem _ _ hk⟩
    rwa [Accepted, ← length_alphabet]

theorem card_letter {c : Char} (hc : c ∈ alphabet) :
    Nat.card { word : UInt32 // Accepted word ∧ letter word = c } = 2 ^ 26 := by
  obtain ⟨k, hk, rfl⟩ := List.getElem_of_mem hc
  have htop : k < 64 := by
    have hlength := length_alphabet
    omega
  have hone : Nat.card { top : Fin 64 // (top : Nat) = k } = 1 := by
    refine Nat.card_eq_one_iff_exists.mpr ⟨⟨⟨k, htop⟩, rfl⟩, fun other => ?_⟩
    exact Subtype.ext (Fin.ext other.2)
  simp only [accepted_and_letter_eq_iff hk]
  rw [card_topBits (· = k), hone, Nat.one_mul]

/-! ### The sequences of a text -/

section Sequences

variable {n : Nat}

/-- Sequences are counted place by place. -/
theorem card_sequences {p : Fin n → UInt32 → Prop} {count : Nat}
    (hcount : ∀ i, Nat.card { word : UInt32 // p i word } = count) :
    Nat.card { ws : Fin n → UInt32 // ∀ i, p i (ws i) } = count ^ n := by
  calc
    Nat.card { ws : Fin n → UInt32 // ∀ i, p i (ws i) }
        = Nat.card ((i : Fin n) → { word : UInt32 // p i word }) :=
      Nat.card_congr Equiv.subtypePiEquivPi
    _ = ∏ i, Nat.card { word : UInt32 // p i word } := Nat.card_pi
    _ = count ^ n := by
      simp only [hcount, Finset.prod_const, Finset.card_univ, Fintype.card_fin]

theorem card_letters {letters : Fin n → Char} (hletters : ∀ i, letters i ∈ alphabet) :
    Nat.card { ws : Fin n → UInt32 // ∀ i, Accepted (ws i) ∧ letter (ws i) = letters i }
      = 2 ^ (26 * n) := by
  rw [pow_mul]
  exact card_sequences (p := fun i word => Accepted word ∧ letter word = letters i) fun i =>
    card_letter (hletters i)

theorem card_accepted_sequences :
    Nat.card { ws : Fin n → UInt32 // ∀ i, Accepted (ws i) } = 62 ^ n * 2 ^ (26 * n) := by
  rw [pow_mul, ← mul_pow]
  exact card_sequences (p := fun _ => Accepted) fun _ => card_accepted

def Spelled (n : Nat) (text : String) : Prop := text.length = n ∧ ∀ c ∈ text.toList, c ∈ alphabet

def textOf (letters : Fin n → Char) : String := String.ofList (List.ofFn letters)

theorem textOf_injective : Function.Injective (textOf (n := n)) := by
  intro letters others heq
  have hlists : List.ofFn letters = List.ofFn others := by
    rw [← String.toList_ofList (l := List.ofFn letters), ← String.toList_ofList (l := List.ofFn others)]
    exact congrArg String.toList heq
  exact List.ofFn_injective hlists

theorem Spelled.exists_textOf {text : String} (h : Spelled n text) :
    ∃ letters : Fin n → Char, (∀ i, letters i ∈ alphabet) ∧ textOf letters = text := by
  obtain ⟨hlength, halphabet⟩ := h
  rw [← String.length_toList] at hlength
  subst hlength
  refine ⟨text.toList.get, fun i => halphabet _ (List.get_mem text.toList i), ?_⟩
  rw [textOf, List.ofFn_get, String.ofList_toList]

theorem card_spelled : Nat.card { text : String // Spelled n text } = 62 ^ n := by
  have hspelled (letters : Fin n → { c : Char // c ∈ alphabet }) :
      Spelled n (textOf fun i => (letters i : Char)) := by
    refine ⟨?_, fun c hc => ?_⟩
    · rw [textOf, String.length_ofList, List.length_ofFn]
    · rw [textOf, String.toList_ofList, List.mem_ofFn] at hc
      obtain ⟨i, rfl⟩ := hc
      exact (letters i).2
  have hbijective : Function.Bijective fun letters : Fin n → { c : Char // c ∈ alphabet } =>
      (⟨_, hspelled letters⟩ : { text : String // Spelled n text }) := by
    refine ⟨fun letters others heq => ?_, fun ⟨text, htext⟩ => ?_⟩
    · have hsame := textOf_injective (congrArg Subtype.val heq)
      exact funext fun i => Subtype.ext (congrFun hsame i)
    · obtain ⟨letters, hletters, heq⟩ := htext.exists_textOf
      exact ⟨fun i => ⟨letters i, hletters i⟩, Subtype.ext heq⟩
  have hletters : Nat.card { c : Char // c ∈ alphabet } = 62 := by
    rw [Nat.subtype_card alphabet.toFinset fun _ => List.mem_toFinset,
      List.toFinset_card_of_nodup nodup_alphabet, length_alphabet]
  have : Finite { c : Char // c ∈ alphabet } := Nat.finite_of_card_ne_zero (by rw [hletters]; decide)
  rw [← Nat.card_eq_of_bijective _ hbijective, Nat.card_fun, hletters, Nat.card_fin]

end Sequences

/-! ### Drawing from a sequence -/

/-- The source that gives some words and then the word zero for ever. -/
def WordSource.startingWith {n : Nat} (ws : Fin n → UInt32) : WordSource where
  word k := if h : k < n then ws ⟨k, h⟩ else 0
  recurs k := by
    refine ⟨max k n, Nat.le_max_left k n, ?_⟩
    rw [dif_neg (by omega)]
    decide

namespace Words

variable {n : Nat}

def BeginsWith (words : Words) (ws : Fin n → UInt32) : Prop :=
  ∀ i : Fin n, words.source.word (words.used + i) = ws i

theorem exists_beginsWith (ws : Fin n → UInt32) : ∃ words : Words, words.BeginsWith ws := by
  refine ⟨⟨.startingWith ws, 0⟩, fun i => ?_⟩
  change (if h : 0 + i.val < n then ws ⟨0 + i, h⟩ else 0) = ws i
  simp

/-- From accepted words one letter after the other is drawn. -/
theorem drawMany_of_beginsWith {words : Words} {ws : Fin n → UInt32} (hbegins : words.BeginsWith ws)
    (haccepted : ∀ i, Accepted (ws i)) :
    words.drawMany n
      = (List.ofFn fun i => letter (ws i), { words with used := words.used + n }) := by
  induction n generalizing words with
  | zero => rfl
  | succ n ih =>
      have hword : words.source.word words.used = ws 0 := hbegins 0
      have hnext : words.source.nextAccepted words.used = words.used :=
        words.source.nextAccepted_of_accepted (by rw [hword]; exact haccepted 0)
      have hdraw : words.draw = (letter (ws 0), { words with used := words.used + 1 }) := by
        rw [draw, hnext, hword]
      have hrest : Words.BeginsWith { words with used := words.used + 1 } fun i : Fin n => ws i.succ := by
        intro i
        have hi := hbegins i.succ
        rwa [Fin.val_succ, Nat.add_comm i.val, ← Nat.add_assoc] at hi
      rw [drawMany, hdraw]
      dsimp only
      rw [ih hrest fun i => haccepted i.succ, List.ofFn_succ, Nat.add_assoc, Nat.add_comm 1]

theorem password_of_beginsWith {words : Words} {ws : Fin n → UInt32} (hbegins : words.BeginsWith ws)
    (haccepted : ∀ i, Accepted (ws i)) :
    (words.password n).1 = textOf fun i => letter (ws i) := by
  rw [password, drawMany_of_beginsWith hbegins haccepted]
  rfl

theorem card_password_eq {text : String} (htext : Spelled n text) :
    Nat.card { ws : Fin n → UInt32 // (∀ i, Accepted (ws i)) ∧
        ∀ words : Words, words.BeginsWith ws → (words.password n).1 = text } = 2 ^ (26 * n) := by
  obtain ⟨letters, hletters, rfl⟩ := htext.exists_textOf
  rw [← card_letters hletters]
  refine Nat.card_congr (Equiv.subtypeEquivRight fun ws => ?_)
  rw [forall_and]
  refine and_congr_right fun haccepted => ⟨fun hdrawn => ?_, fun hsame words hbegins => ?_⟩
  · obtain ⟨words, hbegins⟩ := exists_beginsWith ws
    have htext := hdrawn words hbegins
    rw [password_of_beginsWith hbegins haccepted] at htext
    exact congrFun (textOf_injective htext)
  · rw [password_of_beginsWith hbegins haccepted, funext hsame]

end Words

/-! ### Words that are passed over -/

namespace WordSource

theorem FirstAccepted.nextAccepted_eq {source : WordSource} {place found : Nat}
    (h : source.FirstAccepted place found) : source.nextAccepted place = found := by
  have hnext := source.firstAccepted_nextAccepted place
  rcases Nat.lt_trichotomy (source.nextAccepted place) found with hlt | heq | hgt
  · exact absurd hnext.accepted (h.before _ hnext.le hlt)
  · exact heq
  · exact absurd h.accepted (hnext.before _ h.le hgt)

def insert (source : WordSource) (place : Nat) (word : UInt32) : WordSource where
  word n := if n < place then source.word n else if n = place then word else source.word (n - 1)
  recurs n := by
    obtain ⟨m, hle, haccepted⟩ := source.recurs n
    by_cases hm : m < place
    · exact ⟨m, hle, by rwa [if_pos hm]⟩
    · exact ⟨m + 1, by omega, by rwa [if_neg (by omega), if_neg (by omega), Nat.add_sub_cancel]⟩

end WordSource

namespace Words

variable {words other : Words} {place : Nat → Nat}

/-- The next words of `other` are those of `words` with words that are passed over among them, as many and
wherever it may be. A word of the former stands at the given place of the latter. -/
structure Sprinkled (words other : Words) (place : Nat → Nat) : Prop where
  increasing : StrictMono place
  word (k : Nat) : other.source.word (other.used + place k) = words.source.word (words.used + k)
  rejected {k : Nat} (hk : k ∉ Set.range place) : ¬ Accepted (other.source.word (other.used + k))

/-- The first accepted word stays the first one. -/
theorem Sprinkled.firstAccepted (h : Sprinkled words other place) {k : Nat}
    (hfirst : words.source.FirstAccepted words.used (words.used + k)) :
    other.source.FirstAccepted other.used (other.used + place k) where
  le := Nat.le_add_right _ _
  accepted := by
    rw [h.word]
    exact hfirst.accepted
  before j hle hlt := by
    obtain ⟨i, rfl⟩ := Nat.exists_eq_add_of_le hle
    by_cases hi : i ∈ Set.range place
    · obtain ⟨l, rfl⟩ := hi
      have hl : l < k := h.increasing.lt_iff_lt.mp (Nat.add_lt_add_iff_left.mp hlt)
      rw [h.word]
      exact hfirst.before _ (Nat.le_add_right _ _) (Nat.add_lt_add_left hl _)
    · exact h.rejected hi

/-- Behind a word and its place the same holds of the words that are left. -/
theorem Sprinkled.behind (h : Sprinkled words other place) (k : Nat) :
    Sprinkled { words with used := words.used + k + 1 } { other with used := other.used + place k + 1 }
      fun j => place (k + 1 + j) - (place k + 1) := by
  have hbehind (j : Nat) : place k < place (k + 1 + j) := h.increasing (by omega)
  refine ⟨fun i j hij => ?_, fun j => ?_, fun {j} hj => ?_⟩
  · have hlater : place (k + 1 + i) < place (k + 1 + j) := h.increasing (by omega)
    have hi := hbehind i
    omega
  · have hplace : other.used + place k + 1 + (place (k + 1 + j) - (place k + 1))
        = other.used + place (k + 1 + j) := by
      have hj := hbehind j
      omega
    dsimp only
    rw [hplace, h.word]
    exact congrArg words.source.word (by omega)
  · dsimp only
    rw [show other.used + place k + 1 + j = other.used + (place k + 1 + j) by omega]
    refine h.rejected fun ⟨l, hl⟩ => hj ?_
    have hlt : k < l := h.increasing.lt_iff_lt.mp (by omega)
    obtain ⟨i, rfl⟩ := Nat.exists_eq_add_of_le (Nat.succ_le_of_lt hlt)
    have hplace : place (k + 1 + i) = place k + 1 + j := hl
    exact ⟨i, Nat.sub_eq_of_eq_add' hplace⟩

/-- Words that are passed over do not change the next character, and go on not to. -/
theorem Sprinkled.draw (h : Sprinkled words other place) :
    other.draw.1 = words.draw.1 ∧ ∃ later, Sprinkled words.draw.2 other.draw.2 later := by
  have hfirst := words.source.firstAccepted_nextAccepted words.used
  obtain ⟨k, hk⟩ := Nat.exists_eq_add_of_le hfirst.le
  rw [hk] at hfirst
  have hother := (h.firstAccepted hfirst).nextAccepted_eq
  refine ⟨?_, fun j => place (k + 1 + j) - (place k + 1), ?_⟩
  · simp only [Words.draw, hk, hother, h.word]
  · simp only [Words.draw, hk, hother]
    exact h.behind k

theorem Sprinkled.drawMany (h : Sprinkled words other place) (count : Nat) :
    (other.drawMany count).1 = (words.drawMany count).1 := by
  induction count generalizing words other place with
  | zero => rfl
  | succ count ih =>
      obtain ⟨hsame, later, hlater⟩ := h.draw
      exact congrArg₂ List.cons hsame (ih hlater)

theorem Sprinkled.password (h : Sprinkled words other place) (length : Nat) :
    (other.password length).1 = (words.password length).1 :=
  congrArg String.ofList (h.drawMany length)

def insert (words : Words) (place : Nat) (word : UInt32) : Words :=
  { words with source := words.source.insert (words.used + place) word }

theorem sprinkled_insert (words : Words) (place : Nat) {word : UInt32} (hrejected : ¬ Accepted word) :
    Sprinkled words (words.insert place word) fun k => if k < place then k else k + 1 := by
  have hword (n : Nat) : (words.insert place word).source.word ((words.insert place word).used + n)
      = if n < place then words.source.word (words.used + n)
        else if n = place then word else words.source.word (words.used + n - 1) := by
    simp only [insert, WordSource.insert, Nat.add_lt_add_iff_left, Nat.add_left_cancel_iff]
  refine ⟨fun i j hij => ?_, fun k => ?_, fun {k} hk => ?_⟩
  · split <;> split <;> omega
  · rw [hword]
    by_cases hk : k < place
    · rw [if_pos hk, if_pos hk]
    · rw [if_neg hk, if_neg (by omega), if_neg (by omega), ← Nat.add_assoc, Nat.add_sub_cancel]
  · have heq : k = place := by
      by_contra hne
      rcases Nat.lt_or_gt_of_ne hne with hlt | hgt
      · exact hk ⟨k, if_pos hlt⟩
      · exact hk ⟨k - 1, (if_neg (by omega)).trans (by omega)⟩
    rw [hword, heq, if_neg (Nat.lt_irrefl place), if_pos rfl]
    exact hrejected

/-! ### Drawing in parts -/

theorem drawMany_add (words : Words) (m n : Nat) :
    words.drawMany (m + n)
      = ((words.drawMany m).1 ++ ((words.drawMany m).2.drawMany n).1,
          ((words.drawMany m).2.drawMany n).2) := by
  induction m generalizing words with
  | zero =>
      rw [Nat.zero_add]
      rfl
  | succ m ih =>
      rw [Nat.succ_add]
      simp only [drawMany, ih]
      rfl

theorem password_add (words : Words) (m n : Nat) :
    words.password (m + n)
      = ((words.password m).1 ++ ((words.password m).2.password n).1,
          ((words.password m).2.password n).2) := by
  simp only [password, drawMany_add, String.ofList_append]

/-- Generated texts are unbiased. Every text of a length over the alphabet is drawn from equally many
sequences of accepted words, and these texts share all such sequences among them. Words that are passed
over make no difference to a text, wherever they are put in or taken out, and a text that is drawn in two
parts is the text that is drawn at once. -/
theorem password_unbiased :
    (∀ n text, text.length = n → (∀ c ∈ text.toList, c ∈ alphabet) →
      Nat.card { ws : Fin n → UInt32 // (∀ i, Accepted (ws i)) ∧
        ∀ words : Words, words.BeginsWith ws → (words.password n).1 = text } = 2 ^ (26 * n)) ∧
    (∀ n (ws : Fin n → UInt32), ∃ words : Words, words.BeginsWith ws) ∧
    (∀ n, Nat.card { ws : Fin n → UInt32 // ∀ i, Accepted (ws i) } = 62 ^ n * 2 ^ (26 * n)) ∧
    (∀ n, Nat.card { text : String // text.length = n ∧ ∀ c ∈ text.toList, c ∈ alphabet } = 62 ^ n) ∧
    (∀ words other place, Sprinkled words other place →
      ∀ n, (other.password n).1 = (words.password n).1) ∧
    (∀ (words : Words) place word, ¬ Accepted word →
      ∀ n, ((words.insert place word).password n).1 = (words.password n).1) ∧
    ∀ (words : Words) m n, words.password (m + n)
      = ((words.password m).1 ++ ((words.password m).2.password n).1,
          ((words.password m).2.password n).2) :=
  ⟨fun _ _ hlength halphabet => card_password_eq ⟨hlength, halphabet⟩, fun _ ws => exists_beginsWith ws,
    fun _ => card_accepted_sequences, fun _ => card_spelled, fun _ _ _ hsprinkled => hsprinkled.password,
    fun words place _ hrejected => (words.sprinkled_insert place hrejected).password, password_add⟩

end Words

end OperatorConfig
