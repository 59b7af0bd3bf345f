import OperatorConfig.Proofs.Text.Parts

/-!
# Scanning a line for the last candidate

A candidate is a place where a version can stand: a space with two numbers behind it that have a point
between them. A scan from the right finds the last one of the first line, or none. What stands behind the
first line, and at the end of it without digits and points, makes no difference to the scan.
-/

namespace OperatorConfig.Postgres.Banner

open Text (isDecimalDigit)

/-! ### Runs of digits -/

def digitsOf (cs : List Char) : List Char := cs.takeWhile isDecimalDigit

/-- A text that adds nothing to a candidate before it: it begins with no digit and no point. -/
def Apart (cs : List Char) : Prop := ∀ c ∈ cs.head?, isDecimalDigit c = false ∧ c ≠ '.'

theorem isDecimalDigit_space : isDecimalDigit ' ' = false := by decide

theorem apart_of_forall {cs : List Char} (h : ∀ c ∈ cs, isDecimalDigit c = false ∧ c ≠ '.') :
    Apart cs := fun c hc => h c (List.mem_of_head? hc)

theorem apart_cons {c : Char} (hdigit : isDecimalDigit c = false) (hpoint : c ≠ '.') (cs : List Char) :
    Apart (c :: cs) := by
  intro other hother
  cases hother
  exact ⟨hdigit, hpoint⟩

theorem dropWhile_of_apart {cs : List Char} (hcs : Apart cs) : cs.dropWhile isDecimalDigit = cs :=
  Text.dropWhile_eq_self fun c hc => (hcs c hc).1

theorem digitsOf_of_apart {cs : List Char} (hcs : Apart cs) : digitsOf cs = [] := by
  have hsplit := @List.takeWhile_append_dropWhile _ isDecimalDigit cs
  rw [dropWhile_of_apart hcs] at hsplit
  exact List.append_left_eq_self.mp hsplit

theorem digitsOf_append_apart {cs ds : List Char} (hds : Apart ds) : digitsOf (cs ++ ds) = digitsOf cs := by
  have hnone : ds.takeWhile isDecimalDigit = [] := digitsOf_of_apart hds
  rw [digitsOf, List.takeWhile_append, hnone, List.append_nil]
  split
  next hall =>
    exact ((List.takeWhile_prefix _).eq_of_length hall).symm
  next => rfl

/-! ### Candidates -/

/-- Two runs of digits with a point between them. -/
structure Candidate where
  major : List Char
  minor : List Char
deriving DecidableEq

/-- The runs of digits behind a space at the beginning. -/
def candidateAt? : List Char → Option Candidate
  | ' ' :: rest =>
      match rest.dropWhile isDecimalDigit with
      | '.' :: behind =>
          if digitsOf rest ≠ [] ∧ digitsOf behind ≠ [] then some ⟨digitsOf rest, digitsOf behind⟩ else none
      | _ => none
  | _ => none

theorem candidateAt?_of_point {cs rest : List Char} (h : cs.dropWhile isDecimalDigit = '.' :: rest) :
    candidateAt? (' ' :: cs)
      = if digitsOf cs ≠ [] ∧ digitsOf rest ≠ [] then some ⟨digitsOf cs, digitsOf rest⟩ else none := by
  rw [candidateAt?, h]
  rfl

theorem candidateAt?_of_not_point {cs : List Char} (h : ∀ rest, cs.dropWhile isDecimalDigit ≠ '.' :: rest) :
    candidateAt? (' ' :: cs) = none := by
  rw [candidateAt?]
  split
  next rest hrest => exact absurd hrest (h rest)
  next => rfl

theorem candidateAt?_of_not_space {cs : List Char} (h : ∀ rest, cs ≠ ' ' :: rest) :
    candidateAt? cs = none := by
  unfold candidateAt?
  split
  next rest => exact absurd rfl (h rest)
  next => rfl

theorem candidateAt?_append {cs ds : List Char} (hcs : cs ≠ []) (hds : Apart ds) :
    candidateAt? (cs ++ ds) = candidateAt? cs := by
  obtain ⟨c, rest, rfl⟩ := List.exists_cons_of_ne_nil hcs
  by_cases hc : c = ' '
  · subst hc
    rw [List.cons_append]
    cases hdrop : rest.dropWhile isDecimalDigit with
    | nil =>
        have happend : (rest ++ ds).dropWhile isDecimalDigit = ds := by
          rw [List.dropWhile_append, hdrop, dropWhile_of_apart hds]
          rfl
        have hshort : candidateAt? (' ' :: rest) = none :=
          candidateAt?_of_not_point fun behind hbehind => by
            rw [hdrop] at hbehind
            cases hbehind
        have hlong : candidateAt? (' ' :: (rest ++ ds)) = none :=
          candidateAt?_of_not_point fun behind hbehind => by
            rw [happend] at hbehind
            subst hbehind
            exact (hds '.' rfl).2 rfl
        rw [hshort, hlong]
    | cons head behind =>
        have happend : (rest ++ ds).dropWhile isDecimalDigit = head :: (behind ++ ds) := by
          rw [List.dropWhile_append, hdrop]
          rfl
        by_cases hpoint : head = '.'
        · subst hpoint
          rw [candidateAt?_of_point happend, candidateAt?_of_point hdrop, digitsOf_append_apart hds,
            digitsOf_append_apart hds]
        · have hshort : candidateAt? (' ' :: rest) = none :=
            candidateAt?_of_not_point fun _ => by simp [hdrop, hpoint]
          have hlong : candidateAt? (' ' :: (rest ++ ds)) = none :=
            candidateAt?_of_not_point fun _ => by simp [happend, hpoint]
          rw [hshort, hlong]
  · rw [candidateAt?_of_not_space (by simp [hc]), candidateAt?_of_not_space (by simp [hc])]

theorem candidateAt?_of_apart {c : Char} {cs : List Char} (hcs : Apart cs) : candidateAt? (c :: cs) = none := by
  by_cases hc : c = ' '
  · subst hc
    refine candidateAt?_of_not_point fun rest hrest => ?_
    rw [dropWhile_of_apart hcs] at hrest
    subst hrest
    exact (hcs '.' rfl).2 rfl
  · exact candidateAt?_of_not_space (by simp [hc])

/-! ### The last candidate -/

def lastCandidate? : List Char → Option Candidate
  | [] => none
  | c :: rest =>
      if c = '\n' then none
      else
        match lastCandidate? rest with
        | some candidate => some candidate
        | none => candidateAt? (c :: rest)

/-- What is added behind the first line does not count; what is added to the first line comes first. -/
theorem lastCandidate?_append {ds : List Char} (hds : Apart ds) (cs : List Char) :
    lastCandidate? (cs ++ ds)
      = if '\n' ∈ cs then lastCandidate? cs else (lastCandidate? ds).or (lastCandidate? cs) := by
  induction cs with
  | nil => simp [lastCandidate?]
  | cons c cs ih =>
      have hat : candidateAt? (c :: (cs ++ ds)) = candidateAt? (c :: cs) :=
        candidateAt?_append (List.cons_ne_nil c cs) hds
      by_cases hc : c = '\n'
      · simp [lastCandidate?, hc]
      · rw [List.cons_append, lastCandidate?, lastCandidate?, if_neg hc, if_neg hc, ih, hat]
        by_cases hmem : '\n' ∈ cs
        · rw [if_pos hmem, if_pos (List.mem_cons_of_mem c hmem)]
        · rw [if_neg hmem, if_neg (by simp [Ne.symm hc, hmem])]
          cases lastCandidate? ds <;> rfl

theorem lastCandidate?_eq_none {cs : List Char} (h : ∀ c ∈ cs, isDecimalDigit c = false ∧ c ≠ '.') :
    lastCandidate? cs = none := by
  induction cs with
  | nil => rfl
  | cons c cs ih =>
      obtain ⟨-, hcs⟩ := List.forall_mem_cons.mp h
      rw [lastCandidate?, ih hcs, candidateAt?_of_apart (apart_of_forall hcs)]
      exact ite_self none

/-- Without digits and points a text at the end makes no difference. -/
theorem lastCandidate?_append_of_forall {ds : List Char}
    (hds : ∀ c ∈ ds, isDecimalDigit c = false ∧ c ≠ '.') (cs : List Char) :
    lastCandidate? (cs ++ ds) = lastCandidate? cs := by
  rw [lastCandidate?_append (apart_of_forall hds), lastCandidate?_eq_none hds]
  exact ite_self _

theorem not_mem_takeWhile (cs : List Char) : '\n' ∉ cs.takeWhile (· ≠ '\n') := fun hmem => by
  simpa using List.all_eq_true.mp List.all_takeWhile '\n' hmem

theorem lastCandidate?_takeWhile (cs : List Char) :
    lastCandidate? (cs.takeWhile (· ≠ '\n')) = lastCandidate? cs := by
  have hrest : Apart (cs.dropWhile (· ≠ '\n')) ∧ lastCandidate? (cs.dropWhile (· ≠ '\n')) = none := by
    have hhead := List.head?_dropWhile_not (· ≠ '\n') cs
    cases hdrop : cs.dropWhile (· ≠ '\n') with
    | nil => exact ⟨apart_of_forall (by simp), rfl⟩
    | cons c rest =>
        rw [hdrop] at hhead
        have hc : c = '\n' := by simpa using hhead
        subst hc
        exact ⟨apart_cons (by decide) (by decide) rest, rfl⟩
  calc
    lastCandidate? (cs.takeWhile (· ≠ '\n'))
        = lastCandidate? (cs.takeWhile (· ≠ '\n') ++ cs.dropWhile (· ≠ '\n')) := by
          rw [lastCandidate?_append hrest.1, if_neg (not_mem_takeWhile cs), hrest.2, Option.none_or]
    _ = lastCandidate? cs := by rw [List.takeWhile_append_dropWhile]

/-! ### Positions -/

/-- One or more digits, of whatever script. -/
def Run (cs : List Char) : Prop := cs ≠ [] ∧ ∀ c ∈ cs, isDecimalDigit c = true

/-- At the position of the line stands a space, and right behind it a run of digits, a point and a run of
digits. -/
def CandidateAt (line : List Char) (position : Nat) : Prop :=
  ∃ major minor rest, Run major ∧ Run minor ∧
    line.drop position = ' ' :: (major ++ '.' :: (minor ++ rest))

def LastCandidateAt (line : List Char) (position : Nat) : Prop :=
  CandidateAt line position ∧ ∀ other, CandidateAt line other → other ≤ position

/-- The digits behind the space at a position. -/
def majorAt (line : List Char) (position : Nat) : List Char := digitsOf (line.drop (position + 1))

/-- The digits behind the point that follows those behind the space at a position. -/
def minorAt (line : List Char) (position : Nat) : List Char :=
  digitsOf (line.drop (position + 1 + (majorAt line position).length + 1))

theorem digitsOf_append_of_run {run : List Char} (hrun : Run run) (rest : List Char) :
    digitsOf (run ++ rest) = run ++ digitsOf rest := List.takeWhile_append_of_pos hrun.2

theorem run_digitsOf {cs : List Char} (h : digitsOf cs ≠ []) : Run (digitsOf cs) :=
  ⟨h, List.all_eq_true.mp List.all_takeWhile⟩

/-- A candidate that is found stands at the beginning of the text. -/
theorem begins_of_candidateAt? {cs : List Char} {candidate : Candidate}
    (h : candidateAt? cs = some candidate) :
    Run candidate.major ∧ Run candidate.minor ∧
      ∃ rest, cs = ' ' :: (candidate.major ++ '.' :: (candidate.minor ++ rest)) := by
  by_cases hspace : ∃ rest, cs = ' ' :: rest
  · obtain ⟨rest, rfl⟩ := hspace
    by_cases hpoint : ∃ behind, rest.dropWhile isDecimalDigit = '.' :: behind
    · obtain ⟨behind, hbehind⟩ := hpoint
      rw [candidateAt?_of_point hbehind] at h
      obtain ⟨⟨hmajor, hminor⟩, hcandidate⟩ := Option.ite_none_right_eq_some.mp h
      cases hcandidate
      refine ⟨run_digitsOf hmajor, run_digitsOf hminor, behind.dropWhile isDecimalDigit, ?_⟩
      rw [digitsOf, digitsOf, List.takeWhile_append_dropWhile, ← hbehind,
        List.takeWhile_append_dropWhile]
    · rw [candidateAt?_of_not_point (not_exists.mp hpoint)] at h
      cases h
  · rw [candidateAt?_of_not_space (not_exists.mp hspace)] at h
    cases h

theorem candidateAt?_of_runs {major minor : List Char} (hmajor : Run major) (hminor : Run minor)
    (rest : List Char) :
    candidateAt? (' ' :: (major ++ '.' :: (minor ++ rest))) = some ⟨major, minor ++ digitsOf rest⟩ := by
  have hpoint : (major ++ '.' :: (minor ++ rest)).dropWhile isDecimalDigit = '.' :: (minor ++ rest) := by
    rw [List.dropWhile_append_of_pos hmajor.2, List.dropWhile_cons_of_neg (by decide)]
  have hfirst : digitsOf (major ++ '.' :: (minor ++ rest)) = major := by
    rw [digitsOf_append_of_run hmajor, digitsOf, List.takeWhile_cons_of_neg (by decide), List.append_nil]
  rw [candidateAt?_of_point hpoint, hfirst, digitsOf_append_of_run hminor,
    if_pos ⟨hmajor.1, List.append_ne_nil_of_left_ne_nil hminor.1 _⟩]

theorem candidateAt_iff (line : List Char) (position : Nat) :
    CandidateAt line position ↔
      candidateAt? (line.drop position) = some ⟨majorAt line position, minorAt line position⟩ := by
  constructor
  · rintro ⟨major, minor, rest, hmajor, hminor, hdrop⟩
    have hbehind : line.drop (position + 1) = major ++ '.' :: (minor ++ rest) := by
      rw [← List.drop_drop, hdrop]
      rfl
    have hmajorAt : majorAt line position = major := by
      rw [majorAt, hbehind, digitsOf_append_of_run hmajor, digitsOf,
        List.takeWhile_cons_of_neg (by decide), List.append_nil]
    have hminorAt : minorAt line position = minor ++ digitsOf rest := by
      rw [minorAt, hmajorAt, Nat.add_assoc, ← List.drop_drop, hbehind, ← List.drop_drop, List.drop_left]
      exact digitsOf_append_of_run hminor rest
    rw [hdrop, candidateAt?_of_runs hmajor hminor, hmajorAt, hminorAt]
  · intro h
    obtain ⟨hmajor, hminor, rest, hdrop⟩ := begins_of_candidateAt? h
    exact ⟨_, _, rest, hmajor, hminor, hdrop⟩

theorem candidateAt?_eq_none {line : List Char} (h : ¬ CandidateAt line 0) : candidateAt? line = none := by
  cases hcandidate : candidateAt? line with
  | none => rfl
  | some candidate =>
      obtain ⟨hmajor, hminor, rest, hline⟩ := begins_of_candidateAt? hcandidate
      exact absurd ⟨_, _, rest, hmajor, hminor, hline⟩ h

theorem LastCandidateAt.unique {line : List Char} {position other : Nat}
    (h : LastCandidateAt line position) (hother : LastCandidateAt line other) : position = other :=
  Nat.le_antisymm (hother.2 position h.1) (h.2 other hother.1)

theorem LastCandidateAt.succ {line : List Char} {position : Nat} (h : LastCandidateAt line position)
    (c : Char) : LastCandidateAt (c :: line) (position + 1) := by
  refine ⟨h.1, fun other hother => ?_⟩
  cases other with
  | zero => exact Nat.zero_le _
  | succ other => exact Nat.succ_le_succ (h.2 other hother)

theorem minorAt_succ (c : Char) (line : List Char) (position : Nat) :
    minorAt (c :: line) (position + 1) = minorAt line position := by
  have hmajor : majorAt (c :: line) (position + 1) = majorAt line position := rfl
  rw [minorAt, minorAt, hmajor, Nat.add_right_comm position 1 1, Nat.add_right_comm (position + 1) 1,
    Nat.add_right_comm (position + 1 + _) 1, List.drop_succ_cons]

/-- The scan finds the last of the positions at which a candidate stands, or there is none. -/
theorem lastCandidate?_of_line {line : List Char} (hline : '\n' ∉ line) :
    (lastCandidate? line = none ∧ ∀ position, ¬ CandidateAt line position) ∨
      ∃ position, LastCandidateAt line position ∧
        lastCandidate? line = some ⟨majorAt line position, minorAt line position⟩ := by
  induction line with
  | nil =>
      refine .inl ⟨rfl, fun position h => ?_⟩
      obtain ⟨major, minor, rest, -, -, hdrop⟩ := h
      rw [List.drop_nil] at hdrop
      cases hdrop
  | cons c line ih =>
      obtain ⟨hc, hline⟩ := not_or.mp fun h => hline (List.mem_cons.mpr h)
      rw [lastCandidate?, if_neg (Ne.symm hc)]
      rcases ih hline with ⟨hnone, hbehind⟩ | ⟨position, hlast, hsome⟩
      · rw [hnone]
        by_cases hhere : CandidateAt (c :: line) 0
        · refine .inr ⟨0, ⟨hhere, fun other hother => ?_⟩, (candidateAt_iff _ 0).mp hhere⟩
          cases other with
          | zero => exact Nat.le_refl 0
          | succ other => exact absurd hother (hbehind other)
        · refine .inl ⟨candidateAt?_eq_none hhere, fun position hposition => ?_⟩
          cases position with
          | zero => exact hhere hposition
          | succ position => exact hbehind position hposition
      · -- A candidate behind counts before the one that may stand here, so the positions only move on.
        refine .inr ⟨position + 1, hlast.succ c, ?_⟩
        rw [hsome, minorAt_succ]
        rfl

end OperatorConfig.Postgres.Banner
