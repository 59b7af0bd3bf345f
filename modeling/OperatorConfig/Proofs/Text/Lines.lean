import OperatorConfig.Text.Blank
import OperatorConfig.Text.Lines

/-!
# Texts taken apart and put together

Splitting at a separator gives back the pieces that were joined by it, as long as none of them holds the
separator itself, and trimming takes away what was added at the end and no more.
-/

namespace OperatorConfig.Text

/-! ### Separators -/

section Separators

variable {separator : Char}

theorem splitAt_eq_splitOn (separator : Char) (cs : List Char) : splitAt separator cs = cs.splitOn separator := by
  induction cs with
  | nil => rfl
  | cons c rest ih =>
      rw [splitAt, List.splitOn_cons_eq_if_modifyHead, ih]
      by_cases hc : c = separator
      · rw [if_pos hc, if_pos (beq_iff_eq.mpr hc)]
      · rw [if_neg hc, if_neg (by simpa using hc)]
        obtain ⟨piece, pieces, hpieces⟩ := List.exists_cons_of_ne_nil (List.splitOn_ne_nil separator rest)
        rw [hpieces]
        rfl

theorem splitAt_ne_nil (separator : Char) (cs : List Char) : splitAt separator cs ≠ [] := by
  rw [splitAt_eq_splitOn]
  exact List.splitOn_ne_nil separator cs

theorem splitAt_append_separator (separator : Char) (cs rest : List Char) :
    splitAt separator (cs ++ separator :: rest) = splitAt separator cs ++ splitAt separator rest := by
  simp only [splitAt_eq_splitOn, List.splitOn_append_cons_self]

theorem splitAt_cons_of_ne {c : Char} (hc : c ≠ separator) (cs piece : List Char)
    (pieces : List (List Char)) (hcs : splitAt separator cs = piece :: pieces) :
    splitAt separator (c :: cs) = (c :: piece) :: pieces := by
  rw [splitAt, if_neg hc, hcs]

theorem splitAt_append {line : List Char} (hline : separator ∉ line) (rest : List Char) :
    splitAt separator (line ++ separator :: rest) = line :: splitAt separator rest := by
  simp only [splitAt_eq_splitOn, List.splitOn_append_cons_self_of_not_mem hline]

/-- Lines that are ended by the separator are the pieces before the last one, which is empty. -/
theorem splitAt_flatMap {lines : List (List Char)} (hlines : ∀ line ∈ lines, separator ∉ line) :
    splitAt separator (lines.flatMap (· ++ [separator])) = lines ++ [[]] := by
  induction lines with
  | nil => rfl
  | cons line rest ih =>
      obtain ⟨hline, hrest⟩ := List.forall_mem_cons.mp hlines
      rw [List.flatMap_cons, List.append_assoc, List.singleton_append, splitAt_append hline, ih hrest]
      rfl

/-- The characters of a piece are those of the text, but for the separator. -/
theorem mem_and_ne_of_mem_splitAt {cs piece : List Char} (hpiece : piece ∈ splitAt separator cs) {c : Char}
    (hc : c ∈ piece) : c ∈ cs ∧ c ≠ separator := by
  induction cs generalizing piece with
  | nil =>
      rw [List.mem_singleton.mp hpiece] at hc
      cases hc
  | cons head rest ih =>
      have hlater {other : List Char} (hother : other ∈ splitAt separator rest) (hc : c ∈ other) :
          c ∈ head :: rest ∧ c ≠ separator :=
        (ih hother hc).imp_left (List.mem_cons_of_mem _)
      by_cases hhead : head = separator
      · rw [splitAt, if_pos hhead] at hpiece
        rcases List.mem_cons.mp hpiece with rfl | hpiece
        · cases hc
        · exact hlater hpiece hc
      · obtain ⟨first, others, hfirst⟩ := List.exists_cons_of_ne_nil (splitAt_ne_nil separator rest)
        rw [splitAt_cons_of_ne hhead rest first others hfirst] at hpiece
        rw [hfirst] at hlater
        rcases List.mem_cons.mp hpiece with rfl | hpiece
        · rcases List.mem_cons.mp hc with rfl | hc
          · exact ⟨List.mem_cons_self, hhead⟩
          · exact hlater List.mem_cons_self hc
        · exact hlater (List.mem_cons_of_mem _ hpiece) hc

theorem splitFirst_append {before : List Char} (hbefore : separator ∉ before) (after : List Char) :
    splitFirst separator (before ++ separator :: after) = some (before, after) := by
  induction before with
  | nil => exact if_pos rfl
  | cons c cs ih =>
      obtain ⟨hc, hcs⟩ := not_or.mp fun h => hbefore (List.mem_cons.mpr h)
      rw [List.cons_append, splitFirst, if_neg (Ne.symm hc), ih hcs]
      rfl

theorem splitFirst_of_not_mem {cs : List Char} (h : separator ∉ cs) : splitFirst separator cs = none := by
  induction cs with
  | nil => rfl
  | cons c rest ih =>
      obtain ⟨hc, hrest⟩ := not_or.mp fun hmem => h (List.mem_cons.mpr hmem)
      rw [splitFirst, if_neg (Ne.symm hc), ih hrest]
      rfl

theorem splitFirst_eq_some_iff {cs before after : List Char} :
    splitFirst separator cs = some (before, after) ↔
      separator ∉ before ∧ cs = before ++ separator :: after := by
  constructor
  · intro hsome
    by_cases hmem : separator ∈ cs
    · obtain ⟨first, last, rfl, hfirst⟩ := List.eq_append_cons_of_mem hmem
      rw [splitFirst_append hfirst] at hsome
      cases hsome
      exact ⟨hfirst, rfl⟩
    · rw [splitFirst_of_not_mem hmem] at hsome
      cases hsome
  · rintro ⟨hbefore, rfl⟩
    exact splitFirst_append hbefore after

end Separators

/-! ### Ends of a text -/

section Ends

variable {p : Char → Bool} {cs : List Char}

theorem dropWhile_eq_self (hhead : ∀ c ∈ cs.head?, p c = false) : cs.dropWhile p = cs := by
  cases cs with
  | nil => rfl
  | cons c rest =>
      have hc : p c = false := hhead c rfl
      rw [List.dropWhile_cons, hc]
      rfl

theorem dropEndWhile_append (hlast : ∀ c ∈ cs.getLast?, p c = false) {ending : List Char}
    (hending : ∀ c ∈ ending, p c = true) : dropEndWhile p (cs ++ ending) = cs := by
  have hreverse : ∀ c ∈ cs.reverse.head?, p c = false := by rwa [List.head?_reverse]
  rw [dropEndWhile, List.reverse_append,
    List.dropWhile_append_of_pos fun c hc => hending c (List.mem_reverse.mp hc),
    dropWhile_eq_self hreverse, List.reverse_reverse]

theorem trimWhile_append (hne : cs ≠ []) (hhead : ∀ c ∈ cs.head?, p c = false)
    (hlast : ∀ c ∈ cs.getLast?, p c = false) {ending : List Char} (hending : ∀ c ∈ ending, p c = true) :
    trimWhile p (cs ++ ending) = cs := by
  have hstart : ∀ c ∈ (cs ++ ending).head?, p c = false := by
    obtain ⟨c, rest, rfl⟩ := List.exists_cons_of_ne_nil hne
    exact hhead
  rw [trimWhile, dropWhile_eq_self hstart, dropEndWhile_append hlast hending]

end Ends

end OperatorConfig.Text
