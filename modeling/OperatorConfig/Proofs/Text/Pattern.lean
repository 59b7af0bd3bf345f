import Mathlib.Data.List.TakeWhile
import OperatorConfig.Text.Pattern

/-!
# The preferred way of a match

The first way over a run of characters takes the whole run, and every other way stops before a character
of the run. So where the next part wants none of these characters only the first way goes on, and the
groups of a match hold whole runs.
-/

namespace OperatorConfig.Text

namespace Cursor

def overAll (cursor : Cursor) (chars : CharClass) : Cursor where
  position := cursor.position + (cursor.rest.takeWhile chars.holds).length
  rest := cursor.rest.dropWhile chars.holds
  groups := cursor.groups

theorem overAll_cons {chars : CharClass} {c : Char} (hc : chars.holds c = true) (position : Nat)
    (rest : List Char) (groups : List (Nat × List Char)) :
    overAll ⟨position, c :: rest, groups⟩ chars = overAll ⟨position + 1, rest, groups⟩ chars := by
  simp only [overAll, List.takeWhile_cons_of_pos hc, List.dropWhile_cons_of_pos hc, List.length_cons]
  rw [Nat.add_right_comm, Nat.add_assoc]

theorem over?_exactly {cursor : Cursor} {c : Char} {rest : List Char} (h : cursor.rest = c :: rest) :
    cursor.over? (.exactly c) = some { cursor with position := cursor.position + 1, rest } := by
  rw [over?, h]
  exact if_pos (decide_eq_true rfl)

theorem over?_exactly_eq_none {cursor : Cursor} {c : Char} (h : ∀ rest, cursor.rest ≠ c :: rest) :
    cursor.over? (.exactly c) = none := by
  rw [over?]
  split
  next d rest hrest =>
    have hne : d ≠ c := fun heq => h rest (heq ▸ hrest)
    exact if_neg fun hholds => hne (of_decide_eq_true hholds)
  next => rfl

end Cursor

namespace Pattern

variable {chars : CharClass} {cursor : Cursor} {pattern part : Pattern}

theorem ways_append (first second : Pattern) (cursor : Cursor) :
    (first ++ second).ways cursor = (first.ways cursor).flatMap second.ways := rfl

/-! ### Runs of characters -/

theorem ways_many (chars : CharClass) (cursor : Cursor) :
    ∃ others, (many chars).ways cursor = cursor.overAll chars :: others ∧
      ∀ other ∈ others, ∃ c ∈ other.rest.head?, chars.holds c = true := by
  obtain ⟨position, rest, groups⟩ := cursor
  change ∃ others, Cursor.overMany chars position groups rest = _ ∧ _
  induction rest generalizing position with
  | nil => exact ⟨[], rfl, by simp⟩
  | cons c rest ih =>
      by_cases hc : chars.holds c = true
      · obtain ⟨others, hways, hothers⟩ := ih (position + 1)
        refine ⟨others ++ [⟨position, c :: rest, groups⟩], ?_, ?_⟩
        · rw [Cursor.overMany, if_pos hc, hways, Cursor.overAll_cons hc]
          rfl
        · simp only [List.forall_mem_append, List.forall_mem_singleton]
          exact ⟨hothers, c, rfl, hc⟩
      · refine ⟨[], ?_, by simp⟩
        rw [Cursor.overMany, if_neg hc]
        simp [Cursor.overAll, hc]

theorem ways_oneOrMore_of_nil (chars : CharClass) (h : cursor.rest.takeWhile chars.holds = []) :
    (oneOrMore chars).ways cursor = [] := by
  obtain ⟨position, rest, groups⟩ := cursor
  cases rest with
  | nil => rfl
  | cons c rest =>
      have hc : ¬ chars.holds c = true := fun hc => by simp [hc] at h
      simp [oneOrMore, ways_append, ways, Cursor.over?, hc]

theorem ways_oneOrMore_of_ne_nil (h : cursor.rest.takeWhile chars.holds ≠ []) :
    ∃ others, (oneOrMore chars).ways cursor = cursor.overAll chars :: others ∧
      ∀ other ∈ others, ∃ c ∈ other.rest.head?, chars.holds c = true := by
  obtain ⟨position, rest, groups⟩ := cursor
  cases rest with
  | nil => exact absurd rfl h
  | cons c rest =>
      have hc : chars.holds c = true := by
        by_contra hc
        simp [hc] at h
      obtain ⟨others, hways, hothers⟩ := ways_many chars ⟨position + 1, rest, groups⟩
      refine ⟨others, ?_, hothers⟩
      have hone : (one chars).ways ⟨position, c :: rest, groups⟩ = [⟨position + 1, rest, groups⟩] := by
        simp [ways, Cursor.over?, hc]
      rw [oneOrMore, ways_append, hone, List.flatMap_singleton, hways, Cursor.overAll_cons hc]

/-- A group that takes a run takes all of it in the first way. -/
theorem ways_group_oneOrMore (number : Nat) (chars : CharClass)
    (h : cursor.rest.takeWhile chars.holds ≠ []) :
    ∃ others, (group number (oneOrMore chars)).ways cursor
        = { cursor.overAll chars with
            groups := (number, cursor.rest.takeWhile chars.holds) :: cursor.groups } :: others ∧
      ∀ other ∈ others, ∃ c ∈ other.rest.head?, chars.holds c = true := by
  obtain ⟨others, hways, hothers⟩ := ways_oneOrMore_of_ne_nil h
  refine ⟨others.map (cursor.capture number), ?_, ?_⟩
  · have htaken : cursor.rest.take (cursor.rest.takeWhile chars.holds).length
        = cursor.rest.takeWhile chars.holds :=
      (List.prefix_iff_eq_take.mp (List.takeWhile_prefix _)).symm
    rw [ways, hways, List.map_cons, Cursor.capture]
    simp only [Cursor.overAll, Nat.add_sub_cancel_left, htaken]
  · intro other hother
    obtain ⟨before, hbefore, rfl⟩ := List.mem_map.mp hother
    exact hothers before hbefore

/-- Behind a run only the first way goes on to a character that is none of the run. -/
theorem ways_append_one {c : Char} (hc : chars.holds c = false) {first : Cursor} {others : List Cursor}
    (hways : pattern.ways cursor = first :: others)
    (hothers : ∀ other ∈ others, ∃ d ∈ other.rest.head?, chars.holds d = true) :
    (pattern ++ one (.exactly c)).ways cursor = (first.over? (.exactly c)).toList := by
  have hnone : others.flatMap (one (.exactly c)).ways = [] := by
    refine List.flatMap_eq_nil_iff.mpr fun other hother => ?_
    obtain ⟨d, hd, hholds⟩ := hothers other hother
    rw [ways, Cursor.over?_exactly_eq_none fun rest hrest => ?_, Option.toList_none]
    rw [hrest] at hd
    cases hd
    rw [hc] at hholds
    cases hholds
  rw [ways_append, hways, List.flatMap_cons, hnone, List.append_nil, ways]

/-! ### Parts without groups -/

def Groupless : Pattern → Prop
  | start | one _ | many _ => True
  | optional part => part.Groupless
  | group _ _ => False
  | followedBy first second => first.Groupless ∧ second.Groupless

theorem groups_of_mem_overMany {position : Nat} {groups : List (Nat × List Char)} {cs : List Char}
    {next : Cursor} (h : next ∈ Cursor.overMany chars position groups cs) : next.groups = groups := by
  induction cs generalizing position with
  | nil =>
      cases List.mem_singleton.mp h
      rfl
  | cons c cs ih =>
      rw [Cursor.overMany] at h
      split at h
      · rcases List.mem_append.mp h with h | h
        · exact ih h
        · cases List.mem_singleton.mp h
          rfl
      · cases List.mem_singleton.mp h
        rfl

theorem groups_of_mem_ways (hpart : part.Groupless) {next : Cursor} (h : next ∈ part.ways cursor) :
    next.groups = cursor.groups := by
  induction part generalizing cursor next with
  | start =>
      rw [ways] at h
      split at h
      · rw [List.mem_singleton.mp h]
      · cases h
  | one chars =>
      rw [ways, Option.mem_toList, Cursor.over?] at h
      split at h
      · obtain ⟨-, hnext⟩ := Option.ite_none_right_eq_some.mp h
        rw [← Option.some.inj hnext]
      · cases h
  | many chars => exact groups_of_mem_overMany h
  | optional part ih =>
      rcases List.mem_append.mp h with h | h
      · exact ih hpart h
      · rw [List.mem_singleton.mp h]
  | group number part ih => exact absurd hpart id
  | followedBy first second ihFirst ihSecond =>
      obtain ⟨between, hbetween, hnext⟩ := List.mem_flatMap.mp h
      rw [ihSecond hpart.2 hnext, ihFirst hpart.1 hbetween]

/-- An optional part at the end neither fails nor changes the groups. -/
theorem groups_append_optional (hpart : part.Groupless) (pattern : Pattern) (cursor : Cursor) :
    ((pattern ++ optional part).ways cursor).head?.map Cursor.groups
      = (pattern.ways cursor).head?.map Cursor.groups := by
  rw [ways_append]
  cases pattern.ways cursor with
  | nil => rfl
  | cons first others =>
      rw [List.flatMap_cons, List.head?_append, ways]
      cases hways : part.ways first with
      | nil => rfl
      | cons next rest =>
          exact congrArg some (groups_of_mem_ways hpart (hways ▸ List.mem_cons_self))

/-! ### Matches in a text -/

theorem find?_start (pattern : Pattern) (position : Nat) (cs : List Char) :
    (start ++ pattern).find? (position + 1) cs = none := by
  induction cs generalizing position with
  | nil => rfl
  | cons c cs ih => exact (Option.none_or).trans (ih (position + 1))

/-- A match from the start of a text is looked for there only. -/
theorem captures?_start (pattern : Pattern) (cs : List Char) :
    (start ++ pattern).captures? cs
      = (pattern.ways { position := 0, rest := cs }).head?.map Cursor.groups := by
  have hways : (start ++ pattern).ways { position := 0, rest := cs }
      = pattern.ways { position := 0, rest := cs } := List.append_nil _
  rw [captures?]
  cases cs with
  | nil => rw [find?, hways]
  | cons c cs => rw [find?, find?_start, Option.or_none, hways]

end Pattern

end OperatorConfig.Text
