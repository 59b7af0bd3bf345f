import Mathlib.Data.List.TakeWhile
import OperatorConfig.Proofs.Text.Lines
import OperatorConfig.Text.Digit

/-!
# Parts of a text

The pieces of a text between its separators, what stands before the first place of a mark, and what is left
of a text without the characters at its ends, as relations between a text and its parts. Each text has
exactly one such part.
-/

namespace OperatorConfig

namespace Text

section Pieces

structure Parted (separator : Char) (cs : List Char) (pieces : List (List Char)) : Prop where
  joined : [separator].intercalate pieces = cs
  nonempty : pieces ≠ []
  apart : ∀ piece ∈ pieces, separator ∉ piece

theorem parted_iff {separator : Char} {cs : List Char} {pieces : List (List Char)} :
    Parted separator cs pieces ↔ pieces = splitAt separator cs := by
  rw [splitAt_eq_splitOn]
  constructor
  · rintro ⟨rfl, hnonempty, hapart⟩
    exact (List.splitOn_intercalate separator hapart hnonempty).symm
  · rintro rfl
    refine ⟨List.intercalate_splitOn separator, List.splitOn_ne_nil separator cs, ?_⟩
    intro piece hpiece hmem
    rw [← splitAt_eq_splitOn] at hpiece
    exact (mem_and_ne_of_mem_splitAt hpiece hmem).2 rfl

end Pieces

section Parts

variable {mark cs part other : List Char}

/-- What stands in a text before the first place of a mark, or all of the text where it has no such place. -/
inductive UpTo (mark cs : List Char) : List Char → Prop
  | mark {part : List Char} (stands : ∃ after, cs = part ++ mark ++ after)
      (first : ∀ before after, cs = before ++ mark ++ after → part.length ≤ before.length) :
      UpTo mark cs part
  | whole (absent : ∀ before after, cs ≠ before ++ mark ++ after) : UpTo mark cs cs

theorem UpTo.unique (hpart : UpTo mark cs part) (hother : UpTo mark cs other) : part = other := by
  cases hpart with
  | whole absent =>
      cases hother with
      | whole => rfl
      | mark stands =>
          obtain ⟨after, hcs⟩ := stands
          exact absurd hcs (absent _ _)
  | mark stands first =>
      obtain ⟨after, hcs⟩ := stands
      cases hother with
      | whole absent => exact absurd hcs (absent _ _)
      | mark stands' first' =>
          obtain ⟨after', hcs'⟩ := stands'
          have hlength : part.length = other.length :=
            Nat.le_antisymm (first _ _ hcs') (first' _ _ hcs)
          have hsame : part ++ (mark ++ after) = other ++ (mark ++ after') := by
            rw [← List.append_assoc, ← List.append_assoc, ← hcs, ← hcs']
          exact (List.append_inj hsame hlength).1

theorem UpTo.isPrefix (h : UpTo mark cs part) : part <+: cs := by
  cases h with
  | whole => exact List.prefix_rfl
  | mark stands =>
      obtain ⟨after, rfl⟩ := stands
      exact ⟨mark ++ after, (List.append_assoc ..).symm⟩

theorem UpTo.of_begins (h : mark <+: cs) : UpTo mark cs [] := by
  obtain ⟨after, hcs⟩ := h
  exact .mark ⟨after, hcs.symm⟩ fun _ _ _ => Nat.zero_le _

theorem UpTo.nil (hmark : mark ≠ []) : UpTo mark [] [] := by
  refine .whole fun before after h => hmark ?_
  exact (List.append_eq_nil_iff.mp (List.append_eq_nil_iff.mp h.symm).1).2

theorem UpTo.cons {c : Char} (hnot : ¬ mark <+: c :: cs) (h : UpTo mark cs part) :
    UpTo mark (c :: cs) (c :: part) := by
  -- A place of the mark in the longer text is not its beginning, so it is one in the shorter text.
  have hrest (before after : List Char) (hcs : c :: cs = before ++ mark ++ after) :
      ∃ rest, before = c :: rest ∧ cs = rest ++ mark ++ after := by
    cases before with
    | nil => exact absurd ⟨after, hcs.symm⟩ hnot
    | cons head rest =>
        obtain ⟨rfl, htail⟩ := List.cons.inj hcs
        exact ⟨rest, rfl, htail⟩
  cases h with
  | whole absent =>
      refine .whole fun before after hcs => ?_
      obtain ⟨rest, -, htail⟩ := hrest before after hcs
      exact absent rest after htail
  | mark stands first =>
      obtain ⟨after, rfl⟩ := stands
      refine .mark ⟨after, rfl⟩ fun before after hcs => ?_
      obtain ⟨rest, rfl, htail⟩ := hrest before after hcs
      exact Nat.succ_le_succ (first rest after htail)

theorem upTo_takeWhile (separator : Char) (cs : List Char) :
    UpTo [separator] cs (cs.takeWhile (· ≠ separator)) := by
  induction cs with
  | nil => exact .nil (List.cons_ne_nil _ _)
  | cons c cs ih =>
      by_cases hc : c = separator
      · subst hc
        rw [List.takeWhile_cons_of_neg (by simp)]
        exact .of_begins ⟨cs, rfl⟩
      · rw [List.takeWhile_cons_of_pos (by simpa using hc)]
        refine ih.cons fun h => hc ?_
        exact (List.cons_prefix_cons.mp h).1.symm

structure EndTrimmed (p : Char → Bool) (cs trimmed : List Char) : Prop where
  ending : ∃ ending, cs = trimmed ++ ending ∧ ∀ c ∈ ending, p c = true
  last : ∀ c ∈ trimmed.getLast?, p c = false

theorem endTrimmed_dropEndWhile (p : Char → Bool) (cs : List Char) :
    EndTrimmed p cs (dropEndWhile p cs) where
  ending := by
    refine ⟨(cs.reverse.takeWhile p).reverse, ?_, fun c hc => ?_⟩
    · rw [dropEndWhile, ← List.reverse_append, List.takeWhile_append_dropWhile, List.reverse_reverse]
    · exact List.all_eq_true.mp List.all_takeWhile c (List.mem_reverse.mp hc)
  last c hc := by
    rw [dropEndWhile, List.getLast?_reverse] at hc
    have hhead := List.head?_dropWhile_not p cs.reverse
    rw [Option.mem_def.mp hc] at hhead
    simpa using hhead

theorem endTrimmed_iff {p : Char → Bool} {cs trimmed : List Char} :
    EndTrimmed p cs trimmed ↔ trimmed = dropEndWhile p cs := by
  constructor
  · rintro ⟨⟨ending, rfl, hending⟩, hlast⟩
    exact (dropEndWhile_append hlast hending).symm
  · rintro rfl
    exact endTrimmed_dropEndWhile p cs

structure Trimmed (p : Char → Bool) (cs trimmed : List Char) : Prop where
  around : ∃ start ending, cs = start ++ trimmed ++ ending ∧ (∀ c ∈ start, p c = true) ∧
    ∀ c ∈ ending, p c = true
  first : ∀ c ∈ trimmed.head?, p c = false
  last : ∀ c ∈ trimmed.getLast?, p c = false

theorem trimmed_trimWhile (p : Char → Bool) (cs : List Char) : Trimmed p cs (trimWhile p cs) := by
  obtain ⟨⟨ending, hending, hpending⟩, hlast⟩ := endTrimmed_dropEndWhile p (cs.dropWhile p)
  refine ⟨⟨cs.takeWhile p, ending, ?_, fun c hc => List.all_eq_true.mp List.all_takeWhile c hc, hpending⟩,
    fun c hc => ?_, hlast⟩
  · rw [List.append_assoc, trimWhile, ← hending, List.takeWhile_append_dropWhile]
  · have htrim : (dropEndWhile p (cs.dropWhile p)).head? = some c := hc
    have hhead := List.head?_dropWhile_not p cs
    rw [hending, List.head?_append, htrim] at hhead
    simpa using hhead

theorem Trimmed.subset {p : Char → Bool} {cs trimmed : List Char} (h : Trimmed p cs trimmed) :
    trimmed ⊆ cs := by
  obtain ⟨start, ending, rfl, -, -⟩ := h.around
  intro c hc
  exact List.mem_append_left _ (List.mem_append_right _ hc)

theorem Trimmed.append {p : Char → Bool} {cs trimmed : List Char} (h : Trimmed p cs trimmed)
    {more : List Char} (hmore : ∀ c ∈ more, p c = true) : Trimmed p (cs ++ more) trimmed where
  around := by
    obtain ⟨start, ending, rfl, hstart, hending⟩ := h.around
    refine ⟨start, ending ++ more, List.append_assoc .., hstart, ?_⟩
    intro c hc
    exact (List.mem_append.mp hc).elim (hending c) (hmore c)
  first := h.first
  last := h.last

theorem trimmed_iff {p : Char → Bool} {cs trimmed : List Char} :
    Trimmed p cs trimmed ↔ trimmed = trimWhile p cs := by
  constructor
  · rintro ⟨⟨start, ending, rfl, hstart, hending⟩, hfirst, hlast⟩
    cases trimmed with
    | nil =>
        have hall : ∀ c ∈ start ++ [] ++ ending, p c = true := by
          simpa using fun c hc => hc.elim (hstart c) (hending c)
        rw [trimWhile, List.dropWhile_eq_nil_iff.mpr hall]
        rfl
    | cons c rest =>
        rw [List.append_assoc, trimWhile, List.dropWhile_append_of_pos hstart, ← trimWhile,
          trimWhile_append (List.cons_ne_nil c rest) hfirst hlast hending]
  · rintro rfl
    exact trimmed_trimWhile p cs

end Parts

/-- A blank character can be no part of a number with a point. -/
theorem not_digit_of_isBlank {c : Char} (h : isBlank c = true) : isDecimalDigit c = false ∧ c ≠ '.' := by
  have hblanks : ∀ n ∈ [9, 10, 11, 12, 13, 0x20, 0x85, 0xA0, 0x1680, 0x2000, 0x2001, 0x2002, 0x2003,
      0x2004, 0x2005, 0x2006, 0x2007, 0x2008, 0x2009, 0x200A, 0x2028, 0x2029, 0x202F, 0x205F, 0x3000],
      isDecimalDigit (Char.ofNat n) = false ∧ Char.ofNat n ≠ '.' := by decide +kernel
  rw [← Char.ofNat_toNat c]
  refine hblanks c.toNat ?_
  simp only [isBlank, Bool.or_eq_true, Bool.and_eq_true, decide_eq_true_eq] at h
  simp only [List.mem_cons, List.not_mem_nil, or_false]
  omega

end Text

end OperatorConfig
