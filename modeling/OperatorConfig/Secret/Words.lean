/-!
# Random characters from words

A source of randomness is an endless sequence of 32-bit words. A character is drawn by the top six bits
of a word, of which 62 values name a letter or digit; a word with one of the other two values is passed
over. A source gives acceptable words again and again, so that every draw ends.
-/

namespace OperatorConfig

/-- The letters and digits, in the order in which words name them. -/
def alphabet : List Char :=
  "ABCDEFGHIJKLMNOPQRSTUVWXYZabcdefghijklmnopqrstuvwxyz0123456789".toList

/-- The top six bits. -/
def topBits (word : UInt32) : Nat := (word >>> 26).toNat

/-- Whether the word names a character. -/
def Accepted (word : UInt32) : Prop := topBits word < 62

instance (word : UInt32) : Decidable (Accepted word) :=
  inferInstanceAs (Decidable (topBits word < 62))

/-- The character that a word names. -/
def letter (word : UInt32) : Char := alphabet.getD (topBits word) 'A'

/-- An endless sequence of words in which accepted ones recur. -/
structure WordSource where
  word : Nat → UInt32
  recurs : ∀ n, ∃ m, n ≤ m ∧ Accepted (word m)

namespace WordSource

def Place (_ : WordSource) : Type := Nat

/-- A place comes before the next one as long as its word is passed over. -/
def Follows (source : WordSource) (next place : Place source) : Prop :=
  next = Nat.succ place ∧ ¬ Accepted (source.word place)

theorem acc_of_accepted (source : WordSource) {m : Nat} (h : Accepted (source.word m)) :
    Acc (Follows source) m :=
  Acc.intro m fun _ follows => absurd h follows.2

theorem acc_of_le (source : WordSource) {m : Nat} (h : Accepted (source.word m)) (k n : Nat)
    (hk : n + k = m) : Acc (Follows source) n := by
  induction k generalizing n with
  | zero =>
      have hn : n = m := hk
      exact hn ▸ acc_of_accepted source h
  | succ k ih =>
      refine Acc.intro n fun next follows => ?_
      have hnext : next = n + 1 := follows.1
      exact hnext ▸ ih (n + 1) (by omega)

theorem acc_follows (source : WordSource) (n : Nat) : Acc (Follows source) n :=
  let ⟨m, hle, h⟩ := source.recurs n
  acc_of_le source h (m - n) n (Nat.add_sub_cancel' hle)

theorem follows_wf (source : WordSource) : WellFounded (Follows source) :=
  ⟨acc_follows source⟩

instance (source : WordSource) : WellFoundedRelation (Place source) :=
  ⟨Follows source, follows_wf source⟩

/-- The first place of an accepted word from a place on. -/
def nextAccepted (source : WordSource) (place : Place source) : Nat :=
  if _ : Accepted (source.word place) then place
  else nextAccepted source (Nat.succ place)
termination_by place
decreasing_by exact ⟨rfl, ‹_›⟩

/-- A sequence that repeats itself after `period` words, if any of them is accepted. -/
def periodic? (period : Nat) (positive : 0 < period) (word : Nat → UInt32)
    (repeats : ∀ n k, word (n * period + k) = word k) : Option WordSource :=
  find period 0
where
  find : Nat → Nat → Option WordSource
    | 0, _ => none
    | steps + 1, k =>
        if h : Accepted (word k) then
          some
            { word
              recurs := fun n =>
                ⟨n * period + k,
                  Nat.le_trans (Nat.le_mul_of_pos_right n positive) (Nat.le_add_right _ _),
                  (repeats n k).symm ▸ h⟩ }
        else find steps (k + 1)

def cycle? (words : List UInt32) : Option WordSource :=
  if positive : 0 < words.length then
    periodic? words.length positive (fun i => words.getD (i % words.length) 0) fun n k => by
      simp [Nat.mul_add_mod_self_right]
  else none

/-- The words `start`, `start + step`, `start + 2 * step`, … -/
def progression? (start step : UInt32) : Option WordSource :=
  periodic? UInt32.size (by decide) (fun i => start + UInt32.ofNat i * step) fun n k => by
    have h : UInt32.ofNat (n * UInt32.size + k) = UInt32.ofNat k := by
      apply UInt32.toNat_inj.mp
      simp [UInt32.toNat_ofNat']
    simp only [h]

end WordSource

/-- A source of which some words have been used. -/
structure Words where
  source : WordSource
  used : Nat := 0

namespace Words

def draw (words : Words) : Char × Words :=
  let place := words.source.nextAccepted words.used
  (letter (words.source.word place), { words with used := place + 1 })

def drawMany (words : Words) : Nat → List Char × Words
  | 0 => ([], words)
  | count + 1 =>
      let (c, words) := words.draw
      let (cs, words) := words.drawMany count
      (c :: cs, words)

def password (words : Words) (length : Nat) : String × Words :=
  let (cs, words) := words.drawMany length
  (String.ofList cs, words)

end Words

end OperatorConfig
