import Mathlib
import OperatorConfig.Proofs.Secret.Provision
import OperatorConfig.Proofs.Settings.Stages

/-!
# How generation spends the words

The characters of all generated secrets, one secret after the other, are those that the accepted words
name, one word after the other. `Draws` says this of any stretch of the words; it holds of one character
and is kept when stretches follow each other, so it holds of a secret and of all of them.
-/

namespace OperatorConfig

/-! ### The next accepted word -/

namespace WordSource

variable (source : WordSource)

theorem nextAccepted_of_accepted {place : Place source} (h : Accepted (source.word place)) :
    source.nextAccepted place = place := by
  rw [nextAccepted]
  exact dif_pos h

theorem nextAccepted_of_not_accepted {place : Place source} (h : ¬ Accepted (source.word place)) :
    source.nextAccepted place = source.nextAccepted (Nat.succ place) := by
  rw [nextAccepted]
  exact dif_neg h

structure FirstAccepted (place found : Nat) : Prop where
  le : place ≤ found
  accepted : Accepted (source.word found)
  before : ∀ k, place ≤ k → k < found → ¬ Accepted (source.word k)

theorem firstAccepted_nextAccepted (place : Nat) :
    source.FirstAccepted place (source.nextAccepted place) := by
  refine source.follows_wf.induction
    (C := fun place : Nat => source.FirstAccepted place (source.nextAccepted place)) place ?_
  intro place ih
  by_cases haccepted : Accepted (source.word place)
  · rw [source.nextAccepted_of_accepted haccepted]
    exact ⟨Nat.le_refl _, haccepted, fun k hle hlt => absurd hlt (Nat.not_lt.mpr hle)⟩
  · have hnext := ih (Nat.succ place) ⟨rfl, haccepted⟩
    rw [source.nextAccepted_of_not_accepted haccepted]
    refine ⟨Nat.le_of_succ_le hnext.le, hnext.accepted, fun k hk hlt => ?_⟩
    rcases Nat.eq_or_lt_of_le hk with rfl | hk
    · exact haccepted
    · exact hnext.before k hk hlt

/-- The words up to the first accepted one hold no other accepted word. -/
theorem FirstAccepted.filter_words {source : WordSource} {place found : Nat}
    (h : source.FirstAccepted place found) :
    ((List.range' place (found + 1 - place)).map source.word).filter (fun word => Accepted word)
      = [source.word found] := by
  have hle := h.le
  have hcount : found + 1 - place = (found - place) + 1 := by omega
  have hplace : place + (found - place) = found := by omega
  have hpassed : ((List.range' place (found - place)).map source.word).filter
      (fun word => Accepted word) = [] := by
    refine List.filter_eq_nil_iff.mpr fun word hword => ?_
    obtain ⟨k, hk, rfl⟩ := List.mem_map.mp hword
    rw [List.mem_range'_1] at hk
    have hrejected := h.before k hk.1 (by omega)
    simpa using hrejected
  rw [hcount, List.range'_1_concat, hplace, List.map_append, List.filter_append, hpassed, List.nil_append,
    List.map_singleton, List.filter_singleton, decide_eq_true h.accepted]
  rfl

end WordSource

/-! ### Stretches of words -/

namespace Words

variable {words middle after : Words} {cs ds : List Char}

/-- The words that have been used from one point to another of a source. -/
def spent (words after : Words) : List UInt32 :=
  (List.range' words.used (after.used - words.used)).map words.source.word

/-- The accepted ones among them. -/
def accepted (words after : Words) : List UInt32 := (words.spent after).filter fun word => Accepted word

/-- From one point to another of a source, the accepted words name these characters one by one, and no
word has been used beyond the last of them. -/
structure Draws (words : Words) (cs : List Char) (after : Words) : Prop where
  source : after.source = words.source
  le : words.used ≤ after.used
  letters : (words.accepted after).map letter = cs
  last : words.used < after.used → Accepted (words.source.word (after.used - 1))

theorem spent_append (hsource : middle.source = words.source) (hleft : words.used ≤ middle.used)
    (hright : middle.used ≤ after.used) :
    words.spent after = words.spent middle ++ middle.spent after := by
  have hcount : after.used - words.used = (middle.used - words.used) + (after.used - middle.used) := by
    omega
  have hmiddle : words.used + (middle.used - words.used) = middle.used := by omega
  rw [spent, spent, spent, hsource, hcount, ← List.range'_append_1, hmiddle, List.map_append]

theorem Draws.refl (words : Words) : words.Draws [] words where
  source := rfl
  le := Nat.le_refl _
  letters := by simp [accepted, spent]
  last h := absurd h (Nat.lt_irrefl _)

theorem Draws.trans (hleft : words.Draws cs middle) (hright : middle.Draws ds after) :
    words.Draws (cs ++ ds) after where
  source := hright.source.trans hleft.source
  le := Nat.le_trans hleft.le hright.le
  letters := by
    rw [accepted, spent_append hleft.source hleft.le hright.le, List.filter_append, List.map_append]
    exact congrArg₂ (· ++ ·) hleft.letters hright.letters
  last h := by
    rcases Nat.eq_or_lt_of_le hright.le with hnone | hsome
    · rw [← hnone] at h ⊢
      exact hleft.last h
    · rw [← hleft.source]
      exact hright.last hsome

/-- An accepted word names an entry of the alphabet, so that no character stands in for one. -/
theorem getElem?_alphabet {word : UInt32} (h : Accepted word) :
    alphabet[topBits word]? = some (letter word) := by
  have hbound : topBits word < alphabet.length := h
  rw [letter, List.getD_eq_getElem?_getD, List.getElem?_eq_getElem hbound]
  rfl

theorem Draws.entries (h : words.Draws cs after) :
    cs.map some = (words.accepted after).map fun word => alphabet[topBits word]? := by
  rw [← h.letters, List.map_map]
  refine List.map_congr_left fun word hword => ?_
  exact (getElem?_alphabet (by simpa using (List.mem_filter.mp hword).2)).symm

theorem Draws.length_accepted (h : words.Draws cs after) : (words.accepted after).length = cs.length := by
  rw [← h.letters, List.length_map]

theorem accepted_draw (words : Words) :
    words.accepted words.draw.2 = [words.source.word (words.source.nextAccepted words.used)] :=
  (words.source.firstAccepted_nextAccepted words.used).filter_words

theorem draws_draw (words : Words) : words.Draws [words.draw.1] words.draw.2 where
  source := rfl
  le := Nat.le_succ_of_le (words.source.firstAccepted_nextAccepted words.used).le
  letters := by
    rw [accepted_draw]
    rfl
  last _ := (words.source.firstAccepted_nextAccepted words.used).accepted

theorem draws_drawMany (words : Words) (count : Nat) :
    words.Draws (words.drawMany count).1 (words.drawMany count).2 := by
  induction count generalizing words with
  | zero => exact .refl words
  | succ count ih => exact words.draws_draw.trans (ih words.draw.2)

theorem draws_password (words : Words) (length : Nat) :
    words.Draws (words.password length).1.toList (words.password length).2 := by
  have hdraws := words.draws_drawMany length
  rwa [← String.toList_ofList (l := (words.drawMany length).1)] at hdraws

end Words

/-! ### Generation -/

theorem letter_mem_alphabet (word : UInt32) : letter word ∈ alphabet := by
  rw [letter, List.getD_eq_getElem?_getD]
  cases hletter : alphabet[topBits word]? with
  | none => exact (by decide : 'A' ∈ alphabet)
  | some c => exact List.mem_of_getElem? hletter

namespace Settings

variable {s : Settings} {words : Words}

theorem generate_of_empty {field : SecretField} (hempty : field.get s = "") :
    generate (s, words) field
      = (field.set (words.password field.length).1 s, (words.password field.length).2) := by
  simp [generate, hempty]

theorem generate_of_ne_empty {field : SecretField} (hheld : field.get s ≠ "") :
    generate (s, words) field = (s, words) := by
  simp [generate, hheld]

/-- The words that are left are those that the missing secrets have left. -/
theorem snd_foldl_generate {fields : List SecretField} (hnodup : fields.Nodup) (s : Settings)
    (words : Words) : (fields.foldl generate (s, words)).2 = s.wordsAfter words fields := by
  induction fields generalizing s words with
  | nil => rfl
  | cons head rest ih =>
      obtain ⟨hhead, hrest⟩ := List.nodup_cons.mp hnodup
      rw [List.foldl_cons]
      by_cases hempty : head.get s = ""
      · rw [generate_of_empty hempty, ih hrest, wordsAfter_set hhead]
        simp [wordsAfter, hempty]
      · rw [generate_of_ne_empty hempty, ih hrest]
        simp [wordsAfter, hempty]

/-- What provisioning draws depends on nothing but the secrets. -/
theorem snd_provision_congr {a b : Settings} (h : ∀ field : SecretField, field.get a = field.get b)
    (stored : Option Table) (words : Words) :
    (a.provision stored words).2 = (b.provision stored words).2 := by
  have hall : SecretField.all.Nodup := by decide
  simp only [provision, generateMissing, snd_foldl_generate hall, wordsAfter, Bundle.apply_eq_fill,
    SecretField.get_fill, h]

/-- Some secrets that are generated one after the other take their characters from the words one after
the other. -/
theorem draws_foldl_generate {fields : List SecretField} (hnodup : fields.Nodup) (s : Settings)
    (words : Words) :
    words.Draws
      ((fields.filter fun field => field.get s = "").flatMap fun field =>
        (field.get (fields.foldl generate (s, words)).1).toList)
      (fields.foldl generate (s, words)).2 := by
  induction fields generalizing s words with
  | nil => exact .refl words
  | cons head rest ih =>
      obtain ⟨hhead, hrest⟩ := List.nodup_cons.mp hnodup
      rw [List.foldl_cons]
      by_cases hempty : head.get s = ""
      · rw [generate_of_empty hempty, List.filter_cons_of_pos (by simpa using hempty), List.flatMap_cons]
        -- The secret that is generated first is not touched again, and the others are missing as before.
        have hfirst : head.get (rest.foldl generate
            (head.set (words.password head.length).1 s, (words.password head.length).2)).1
              = (words.password head.length).1 := by
          rw [get_foldl_generate hrest, if_neg (fun h => hhead h.1), SecretField.get_set]
        have hothers : (rest.filter fun field => field.get (head.set (words.password head.length).1 s) = "")
            = rest.filter fun field => field.get s = "" := by
          refine List.filter_congr fun other hmem => ?_
          have hne : other ≠ head := fun heq => hhead (heq ▸ hmem)
          rw [SecretField.get_set_ne hne]
        have hdraws := ih hrest (head.set (words.password head.length).1 s) (words.password head.length).2
        rw [hothers] at hdraws
        rw [hfirst]
        exact (words.draws_password head.length).trans hdraws
      · rw [generate_of_ne_empty hempty, List.filter_cons_of_neg (by simpa using hempty)]
        exact ih hrest s words

theorem generateMissing_of_ne_empty (h : ∀ field : SecretField, field.get s ≠ "") (words : Words) :
    s.generateMissing words = (s, words) := by
  have hfold (fields : List SecretField) : fields.foldl generate (s, words) = (s, words) := by
    induction fields with
    | nil => rfl
    | cons head rest ih => rw [List.foldl_cons, generate_of_ne_empty (h head), ih]
  exact hfold SecretField.all

theorem mem_missingSecrets {field : SecretField} : field ∈ s.missingSecrets ↔ field.get s = "" := by
  simp [missingSecrets, SecretField.mem_all]

theorem draws_generateMissing (s : Settings) (words : Words) :
    words.Draws (s.missingSecrets.flatMap fun field => (field.get (s.generateMissing words).1).toList)
      (s.generateMissing words).2 :=
  draws_foldl_generate (by decide) s words

theorem length_get_generateMissing (words : Words) {field : SecretField} (hempty : field.get s = "") :
    (field.get (s.generateMissing words).1).length = field.length := by
  rw [get_generateMissing, if_pos hempty, generated, Words.length_password]

theorem get_generateMissing_ne_iff (s : Settings) (words : Words) (field : SecretField) :
    field.get (s.generateMissing words).1 ≠ field.get s ↔ field.get s = "" := by
  rw [get_generateMissing]
  constructor
  · intro hchange
    by_contra hheld
    exact hchange (if_neg hheld)
  · intro hempty
    rw [if_pos hempty, hempty]
    exact s.generated_ne_empty words field

theorem agreeOff_generateMissing (s : Settings) (words : Words) :
    Schema.AgreeOff SecretField.paths s (s.generateMissing words).1 := by
  rw [SecretField.agreeOff_iff_fill fun _ => "", generateMissing, fill_foldl_generate]

theorem mem_alphabet_of_generated (words : Words) {field : SecretField} (hempty : field.get s = "")
    {c : Char} (hc : c ∈ (field.get (s.generateMissing words).1).toList) : c ∈ alphabet := by
  have hmem : c ∈ s.missingSecrets.flatMap fun field =>
      (field.get (s.generateMissing words).1).toList :=
    List.mem_flatMap.mpr ⟨field, mem_missingSecrets.mpr hempty, hc⟩
  rw [← (s.draws_generateMissing words).letters] at hmem
  obtain ⟨word, -, rfl⟩ := List.mem_map.mp hmem
  exact letter_mem_alphabet word

/-- As many accepted words are used as there are characters to generate. -/
theorem length_accepted_generateMissing (s : Settings) (words : Words) :
    (words.accepted (s.generateMissing words).2).length
      = (s.missingSecrets.map SecretField.length).sum := by
  rw [(s.draws_generateMissing words).length_accepted, List.length_flatMap]
  refine congrArg List.sum (List.map_congr_left fun field hmem => ?_)
  rw [String.length_toList]
  exact length_get_generateMissing words (mem_missingSecrets.mp hmem)

theorem generateMissing_of_missingSecrets_eq_nil (hnone : s.missingSecrets = []) (words : Words) :
    s.generateMissing words = (s, words) := by
  refine generateMissing_of_ne_empty (fun field hempty => ?_) words
  have hmem := mem_missingSecrets.mpr hempty
  rw [hnone] at hmem
  cases hmem

theorem generateMissing_generateMissing (s : Settings) (words others : Words) :
    (s.generateMissing words).1.generateMissing others = ((s.generateMissing words).1, others) := by
  refine generateMissing_of_ne_empty (fun field hempty => ?_) others
  rw [get_generateMissing] at hempty
  split at hempty
  · exact s.generated_ne_empty words field hempty
  next hheld => exact hheld hempty

/-- Generation writes exactly the secrets that have no value, each at its length. Their characters, secret
after secret, are those that the accepted words name, word after word; as many accepted words are used as
there are characters, with no word behind the last of them, and none where no secret is missing. Nothing
else changes, and generating again does nothing. -/
theorem generateMissing_spends_words (s : Settings) (words : Words) :
    ∃ after rest, s.generateMissing words = (after, rest) ∧
      (∀ field : SecretField, field.get after ≠ field.get s ↔ field.get s = "") ∧
      Schema.AgreeOff SecretField.paths s after ∧
      (∀ field : SecretField, field.get s = "" →
        (field.get after).length = field.length ∧ ∀ c ∈ (field.get after).toList, c ∈ alphabet) ∧
      (s.missingSecrets.flatMap fun field => (field.get after).toList).map some
        = ((words.accepted rest).map fun word => alphabet[topBits word]?) ∧
      (words.accepted rest).length = (s.missingSecrets.map SecretField.length).sum ∧
      rest.source = words.source ∧ words.used ≤ rest.used ∧
      (words.used < rest.used → Accepted (words.source.word (rest.used - 1))) ∧
      (s.missingSecrets = [] → rest = words) ∧
      after.generateMissing rest = (after, rest) := by
  have hdraws := s.draws_generateMissing words
  refine ⟨(s.generateMissing words).1, (s.generateMissing words).2, (Prod.eta _).symm,
    s.get_generateMissing_ne_iff words, s.agreeOff_generateMissing words, fun field hempty => ?written,
    hdraws.entries, s.length_accepted_generateMissing words, hdraws.source, hdraws.le, hdraws.last,
    fun hnone => ?none, s.generateMissing_generateMissing words _⟩
  case written =>
    exact ⟨length_get_generateMissing words hempty, fun _ => mem_alphabet_of_generated words hempty⟩
  case none => rw [generateMissing_of_missingSecrets_eq_nil hnone]

end Settings

end OperatorConfig
