import OperatorConfig.Postgres.Version
import OperatorConfig.Proofs.Postgres.Scan
import OperatorConfig.Proofs.Text.Pattern

/-!
# Reading a banner as a search for the last candidate

Which line of a banner counts, at which of its positions a version can stand, and which numbers stand
there are said here about the characters alone. The pattern takes the last of these positions, because it
lets the words before the numbers go on as far as it can, and no other: a number that cannot be taken
there leaves the banner without a version, whatever stands before.
-/

namespace OperatorConfig.Postgres.Banner

open Text (isDecimalDigit Cursor CharClass Pattern)

/-! ### The pattern -/

/-- What a candidate is to the pattern: its second group and its first one. -/
def Candidate.groups (candidate : Candidate) : List (Nat × List Char) :=
  [(2, candidate.minor), (1, candidate.major)]

section Ways

variable {cursor : Cursor}

theorem ways_number_of_nil (number : Nat) (h : digitsOf cursor.rest = []) :
    (Pattern.group number (.oneOrMore .digit)).ways cursor = [] := by
  rw [Pattern.ways, Pattern.ways_oneOrMore_of_nil .digit h, List.map_nil]

theorem head?_ways_number (number : Nat) (h : digitsOf cursor.rest ≠ []) :
    ((Pattern.group number (.oneOrMore .digit)).ways cursor).head?.map Cursor.groups
      = some ((number, digitsOf cursor.rest) :: cursor.groups) := by
  obtain ⟨others, hways, -⟩ := Pattern.ways_group_oneOrMore number .digit h
  rw [hways]
  rfl

/-- Over a number and a point there is one way at most, with the point behind all of the digits. -/
theorem ways_number_point (number : Nat) (h : digitsOf cursor.rest ≠ []) :
    (Pattern.group number (.oneOrMore .digit) ++ Pattern.one (.exactly '.')).ways cursor
      = ({ cursor.overAll .digit with
            groups := (number, digitsOf cursor.rest) :: cursor.groups }.over? (.exactly '.')).toList := by
  obtain ⟨others, hways, hothers⟩ := Pattern.ways_group_oneOrMore number .digit h
  exact Pattern.ways_append_one (by decide) hways hothers

end Ways

/-- The groups in the first way over the numbers are those of the candidate that stands there. -/
theorem groups_numbers (position : Nat) (cs : List Char) :
    (numbers.ways { position, rest := cs }).head?.map Cursor.groups
      = (candidateAt? cs).map Candidate.groups := by
  have hblank : (Pattern.one (.exactly ' ')).Groupless := trivial
  have hpatch : (Pattern.one (.exactly '.') ++ Pattern.oneOrMore .digit).Groupless :=
    ⟨trivial, trivial, trivial⟩
  rw [numbers, Pattern.groups_append_optional hblank, patch, Pattern.groups_append_optional hpatch,
    Pattern.ways_append, Pattern.ways_append, Pattern.ways]
  by_cases hspace : ∃ rest, cs = ' ' :: rest
  · obtain ⟨rest, rfl⟩ := hspace
    rw [Cursor.over?_exactly rfl, Option.toList_some, List.flatMap_singleton]
    by_cases hmajor : digitsOf rest = []
    · rw [Pattern.ways_append, ways_number_of_nil 1 hmajor, candidateAt?]
      split <;> simp [hmajor]
    · rw [ways_number_point 1 hmajor]
      by_cases hpoint : ∃ behind, rest.dropWhile isDecimalDigit = '.' :: behind
      · obtain ⟨behind, hbehind⟩ := hpoint
        rw [candidateAt?_of_point hbehind, Cursor.over?_exactly hbehind, Option.toList_some,
          List.flatMap_singleton]
        by_cases hminor : digitsOf behind = []
        · rw [ways_number_of_nil 2 hminor, if_neg fun h => h.2 hminor]
          rfl
        · rw [head?_ways_number 2 hminor, if_pos ⟨hmajor, hminor⟩]
          rfl
      · rw [candidateAt?_of_not_point (not_exists.mp hpoint),
          Cursor.over?_exactly_eq_none (not_exists.mp hpoint)]
        rfl
  · rw [candidateAt?_of_not_space (not_exists.mp hspace),
      Cursor.over?_exactly_eq_none (not_exists.mp hspace)]
    rfl

/-- The words before the numbers give back characters from the right, so that the first candidate they come
to is the last one of the line. -/
theorem groups_many_numbers (position : Nat) (cs : List Char) :
    ((Pattern.many .inLine ++ numbers).ways { position, rest := cs }).head?.map Cursor.groups
      = (lastCandidate? cs).map Candidate.groups := by
  rw [Pattern.ways_append, Pattern.ways]
  induction cs generalizing position with
  | nil => rfl
  | cons c rest ih =>
      have hhere := groups_numbers position (c :: rest)
      by_cases hc : c = '\n'
      · have hstop : ¬ CharClass.inLine.holds c = true := by simp [CharClass.holds, hc]
        have hnone : candidateAt? (c :: rest) = none := candidateAt?_of_not_space (by simp [hc])
        rw [Cursor.overMany, if_neg hstop, List.flatMap_singleton, hhere, hnone, lastCandidate?, if_pos hc]
      · have hgo : CharClass.inLine.holds c = true := decide_eq_true hc
        have hbehind := ih (position + 1)
        rw [Cursor.overMany, if_pos hgo, List.flatMap_append, List.head?_append, Option.map_or, hbehind,
          List.flatMap_singleton, hhere, lastCandidate?, if_neg hc]
        cases lastCandidate? rest <;> rfl

/-- The groups that the pattern captures are the numbers of the last candidate. -/
theorem captures?_pattern (cs : List Char) :
    pattern.captures? cs = (lastCandidate? cs).map Candidate.groups := by
  rw [pattern, Pattern.captures?_start, groups_many_numbers]

/-! ### Numbers -/

/-- The digits are those of ASCII and denote the number. -/
structure Denotes (digits : List Char) (n : Nat) : Prop where
  ascii : ∀ c ∈ digits, c.isDigit = true
  value : Nat.ofDigitChars 10 digits 0 = n

theorem foldl_eq_ofDigitChars (digits : List Char) (start : Nat) :
    digits.foldl (fun value digit => value * 10 + (digit.toNat - 48)) start
      = Nat.ofDigitChars 10 digits start := by
  have hstep : (fun (value : Nat) (digit : Char) => value * 10 + (digit.toNat - 48))
      = fun value digit => 10 * value + (digit.toNat - '0'.toNat) := by
    funext value digit
    rw [Nat.mul_comm]
    rfl
  rw [hstep]
  rfl

theorem number?_eq_some_iff {digits : List Char} (hne : digits ≠ []) (n : UInt32) :
    number? digits = some n ↔ Denotes digits n.toNat := by
  by_cases hascii : ∀ c ∈ digits, c.isDigit = true
  · have hall : digits.all Char.isDigit = true := List.all_eq_true.mpr hascii
    rw [number?, Text.digitsValue?, if_pos ⟨hne, hall⟩, Option.bind_some, foldl_eq_ofDigitChars,
      Option.ite_none_right_eq_some, Option.some.injEq]
    constructor
    · rintro ⟨hlt, rfl⟩
      exact ⟨hascii, (UInt32.toNat_ofNat_of_lt' hlt).symm⟩
    · rintro ⟨-, hvalue⟩
      rw [hvalue]
      exact ⟨n.toNat_lt, UInt32.ofNat_toNat⟩
  · have hall : ¬ digits.all Char.isDigit = true := fun h => hascii (List.all_eq_true.mp h)
    rw [number?, Text.digitsValue?, if_neg fun h => hall h.2]
    exact ⟨fun h => (by cases h), fun h => absurd h.ascii hascii⟩

/-! ### Banners -/

/-- The version that a candidate stands for, if its numbers can be taken. -/
def Candidate.version? (candidate : Candidate) : Option Version :=
  (number? candidate.major).bind fun major => (number? candidate.minor).map (Version.mk major)

theorem lastCandidate?_dropEndWhile (cs : List Char) :
    lastCandidate? (Text.dropEndWhile Text.isBlank cs) = lastCandidate? cs := by
  obtain ⟨ending, hcs, hending⟩ := (Text.endTrimmed_dropEndWhile Text.isBlank cs).ending
  have hplain : ∀ c ∈ ending, isDecimalDigit c = false ∧ c ≠ '.' := fun c hc =>
    Text.not_digit_of_isBlank (hending c hc)
  exact ((congrArg lastCandidate? hcs).trans (lastCandidate?_append_of_forall hplain _)).symm

/-- The version of a banner is that of the last candidate; the blanks at the end take no part in the match. -/
theorem version?_eq_bind (banner : String) :
    version? banner = (lastCandidate? (release banner.toList)).bind Candidate.version? := by
  rw [version?, captures?_pattern, lastCandidate?_dropEndWhile]
  cases lastCandidate? (release banner.toList) with
  | none => rfl
  | some candidate =>
      have hmajor : candidate.groups.lookup 1 = some candidate.major := rfl
      have hminor : candidate.groups.lookup 2 = some candidate.minor := rfl
      rw [Option.bind_some, Candidate.version?]
      cases hfirst : number? candidate.major <;> cases hsecond : number? candidate.minor <;>
        simp [hmajor, hminor, hfirst, hsecond]

theorem version?_eq_some_iff {major minor : List Char} (hmajor : major ≠ []) (hminor : minor ≠ [])
    (version : Version) :
    Candidate.version? ⟨major, minor⟩ = some version ↔
      Denotes major version.major.toNat ∧ Denotes minor version.minor.toNat := by
  obtain ⟨first, second⟩ := version
  rw [← number?_eq_some_iff hmajor, ← number?_eq_some_iff hminor, Candidate.version?]
  cases number? major <;> cases number? minor <;> simp

theorem parse_eq_ok_iff (banner : String) (version : Version) :
    parse banner = .ok version ↔ version? banner = some version := by
  unfold parse
  cases version? banner <;> simp

theorem upTo_release (cs : List Char) : Text.UpTo platformMark cs (release cs) := by
  induction cs with
  | nil => exact .nil (List.cons_ne_nil _ _)
  | cons c cs ih =>
      rw [release]
      split
      next hmark => exact .of_begins (List.isPrefixOf_iff_prefix.mp hmark)
      next hmark => exact ih.cons fun h => hmark (List.isPrefixOf_iff_prefix.mpr h)

/-- The line of a banner that counts: of what stands before the platform, and without the blank characters
at the end of that, the first line. -/
def CountingLine (banner line : List Char) : Prop :=
  ∃ release trimmed, Text.UpTo platformMark banner release ∧
    Text.EndTrimmed Text.isBlank release trimmed ∧ Text.UpTo ['\n'] trimmed line

theorem countingLine_iff (banner line : List Char) :
    CountingLine banner line ↔
      line = (Text.dropEndWhile Text.isBlank (release banner)).takeWhile (· ≠ '\n') := by
  constructor
  · rintro ⟨before, trimmed, hbefore, htrimmed, hline⟩
    rw [hbefore.unique (upTo_release banner), Text.endTrimmed_iff] at htrimmed
    rw [htrimmed] at hline
    exact hline.unique (Text.upTo_takeWhile '\n' _)
  · rintro rfl
    exact ⟨_, _, upTo_release banner, Text.endTrimmed_dropEndWhile _ _, Text.upTo_takeWhile '\n' _⟩

theorem version?_of_countingLine {banner : String} {line : List Char}
    (hline : CountingLine banner.toList line) :
    version? banner = (lastCandidate? line).bind Candidate.version? := by
  rw [(countingLine_iff _ _).mp hline, lastCandidate?_takeWhile, lastCandidate?_dropEndWhile,
    version?_eq_bind]

theorem not_mem_of_countingLine {banner line : List Char} (hline : CountingLine banner line) :
    '\n' ∉ line := by
  rw [(countingLine_iff _ _).mp hline]
  exact not_mem_takeWhile _

theorem version?_eq_some_iff_of_countingLine {banner : String} {line : List Char}
    (hline : CountingLine banner.toList line) (version : Version) :
    version? banner = some version ↔
      ∃ position, LastCandidateAt line position ∧
        Denotes (majorAt line position) version.major.toNat ∧
        Denotes (minorAt line position) version.minor.toNat := by
  rw [version?_of_countingLine hline]
  rcases lastCandidate?_of_line (not_mem_of_countingLine hline) with
    ⟨hnone, hnowhere⟩ | ⟨position, hlast, hsome⟩
  · rw [hnone]
    exact ⟨fun h => (by cases h), fun ⟨position, hlast, _⟩ => absurd hlast.1 (hnowhere position)⟩
  · obtain ⟨hmajor, hminor, -⟩ := begins_of_candidateAt? ((candidateAt_iff line position).mp hlast.1)
    rw [hsome, Option.bind_some, version?_eq_some_iff hmajor.1 hminor.1]
    constructor
    · exact fun hdenotes => ⟨position, hlast, hdenotes⟩
    · rintro ⟨other, hother, hdenotes⟩
      rwa [hother.unique hlast] at hdenotes

/-- A banner is read at the last candidate of the line that counts, and nowhere else: the version is that
of the two numbers there if both are written in ASCII digits and have 32 bits, and in every other case
the banner tells none. Whatever else stands in a banner makes no difference. -/
theorem parse_reads_last_candidate (banner : String) :
    ∃ line, (∀ other, CountingLine banner.toList other ↔ other = line) ∧
      (∀ version, parse banner = .ok version ↔
        ∃ position major minor, LastCandidateAt line position ∧
          Denotes (majorAt line position) major ∧ major < UInt32.size ∧
          Denotes (minorAt line position) minor ∧ minor < UInt32.size ∧
          version = ⟨UInt32.ofNat major, UInt32.ofNat minor⟩) ∧
      ((∀ version, parse banner ≠ .ok version) →
        parse banner = .error (.versionProbe
          s!"Unable to parse PostgreSQL version from version string: `{Text.trim banner}`")) ∧
      ∀ other : String, CountingLine other.toList line →
        ∀ version, parse other = .ok version ↔ parse banner = .ok version := by
  have hline := (countingLine_iff banner.toList _).mpr rfl
  refine ⟨_, countingLine_iff banner.toList, fun version => ?_, fun hnone => ?_, fun other hother version => ?_⟩
  · rw [parse_eq_ok_iff, version?_eq_some_iff_of_countingLine hline]
    constructor
    · rintro ⟨position, hlast, hmajor, hminor⟩
      refine ⟨position, _, _, hlast, hmajor, version.major.toNat_lt, hminor, version.minor.toNat_lt, ?_⟩
      rw [UInt32.ofNat_toNat, UInt32.ofNat_toNat]
    · rintro ⟨position, major, minor, hlast, hmajor, hmajorLt, hminor, hminorLt, rfl⟩
      refine ⟨position, hlast, ?_, ?_⟩
      · rwa [UInt32.toNat_ofNat_of_lt' hmajorLt]
      · rwa [UInt32.toNat_ofNat_of_lt' hminorLt]
  · cases hversion : version? banner with
    | some version => exact absurd ((parse_eq_ok_iff banner version).mpr hversion) (hnone version)
    | none =>
        rw [parse, hversion]
  · rw [parse_eq_ok_iff, parse_eq_ok_iff, version?_of_countingLine hother, version?_of_countingLine hline]

-- The number of the last candidate does not have 32 bits, and the candidate before it does not stand in.
example : version? "PostgreSQL 9.6 build 4294967296.1" = none := by decide

end OperatorConfig.Postgres.Banner
