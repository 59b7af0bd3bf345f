import OperatorConfig.Proofs.Postgres.Banner

/-!
# Different banners of one version

A server, a tool and a query of the version spell the banner of one release in different ways. What they
add stands before the version, behind it as the platform, or at the end as blank characters, and it leaves
the version alone. A version that is written behind any words is read back.
-/

namespace OperatorConfig.Postgres.Banner

open Text (isDecimalDigit isBlank)

def Agree (a b : String) : Prop := ∀ version, parse a = .ok version ↔ parse b = .ok version

theorem agree_of_lastCandidate? {a b : String}
    (h : lastCandidate? (release a.toList) = lastCandidate? (release b.toList)) : Agree a b := by
  intro version
  rw [parse_eq_ok_iff, parse_eq_ok_iff, version?_eq_bind, version?_eq_bind, h]

/-! ### What stands before the platform -/

theorem release_of_begins {cs : List Char} (h : platformMark <+: cs) : release cs = [] := by
  obtain ⟨rest, rfl⟩ := h
  rfl

theorem release_cons_of_not_begins {c : Char} {cs : List Char} (h : ¬ platformMark <+: c :: cs) :
    release (c :: cs) = c :: release cs :=
  if_neg fun hmark => h (List.isPrefixOf_iff_prefix.mp hmark)

theorem release_eq_self {cs : List Char} (h : ¬ platformMark <:+: cs) : release cs = cs :=
  (upTo_release cs).unique (.whole fun before after hcs => h ⟨before, after, hcs.symm⟩)

/-- A mark that begins in a text and goes on behind it, where a blank character follows, lacks its last
space alone. -/
theorem eq_of_prefix_append {cs ds : List Char} (hcs : cs ≠ []) (hds : ∀ c ∈ ds.head?, isBlank c = true)
    (hmark : platformMark <+: cs ++ ds) (hnot : ¬ platformMark <+: cs) : cs = [' ', 'o', 'n'] := by
  obtain ⟨after, hafter⟩ := hmark
  rcases List.append_eq_append_iff.mp hafter with ⟨rest, hrest, -⟩ | ⟨behind, hbehind, rfl⟩
  · exact absurd ⟨rest, hrest.symm⟩ hnot
  · cases behind with
    | nil => exact absurd ⟨[], by simp [hbehind]⟩ hnot
    | cons d behind =>
        have hd : isBlank d = true := hds d rfl
        obtain ⟨c, cs, rfl⟩ := List.exists_cons_of_ne_nil hcs
        rcases cs with _ | ⟨second, _ | ⟨third, _ | ⟨fourth, cs⟩⟩⟩ <;>
          simp only [platformMark, List.nil_append, List.cons_append, List.cons.injEq] at hbehind
        · obtain ⟨-, rfl, -⟩ := hbehind
          exact absurd hd (by decide)
        · obtain ⟨-, -, rfl, -⟩ := hbehind
          exact absurd hd (by decide)
        · obtain ⟨rfl, rfl, rfl, -⟩ := hbehind
          rfl
        · exact absurd hbehind.2.2.2.2 (by simp)

/-- What goes on with a blank character, and has nothing of a version before its own platform, changes
what stands before the platform by nothing of a version. -/
theorem release_append {ds : List Char} (hhead : ∀ c ∈ ds.head?, isBlank c = true)
    (hds : ∀ c ∈ release ds, isDecimalDigit c = false ∧ c ≠ '.') (cs : List Char) :
    ∃ ending, (∀ c ∈ ending, isDecimalDigit c = false ∧ c ≠ '.') ∧
      (release (cs ++ ds) = release cs ++ ending ∨ release cs = release (cs ++ ds) ++ ending) := by
  induction cs with
  | nil => exact ⟨release ds, hds, .inl rfl⟩
  | cons c cs ih =>
      by_cases hmark : platformMark <+: c :: cs
      · refine ⟨[], by simp, .inl ?_⟩
        rw [release_of_begins hmark, release_of_begins (hmark.trans (List.prefix_append _ _))]
        rfl
      · by_cases hseam : platformMark <+: c :: cs ++ ds
        · have hcs := eq_of_prefix_append (List.cons_ne_nil c cs) hhead hseam hmark
          have hplain : ∀ c ∈ [' ', 'o', 'n'], isDecimalDigit c = false ∧ c ≠ '.' := by
            simp only [List.forall_mem_cons, List.not_mem_nil, false_imp_iff, implies_true]
            decide
          refine ⟨[' ', 'o', 'n'], hplain, .inr ?_⟩
          rw [release_of_begins hseam, hcs]
          decide
        · obtain ⟨ending, hending, hcases⟩ := ih
          refine ⟨ending, hending, ?_⟩
          have happend : release (c :: cs ++ ds) = c :: release (cs ++ ds) :=
            release_cons_of_not_begins hseam
          rw [release_cons_of_not_begins hmark, happend]
          exact hcases.imp (congrArg (c :: ·)) (congrArg (c :: ·))

theorem lastCandidate?_release_append {ds : List Char} (hhead : ∀ c ∈ ds.head?, isBlank c = true)
    (hds : ∀ c ∈ release ds, isDecimalDigit c = false ∧ c ≠ '.') (cs : List Char) :
    lastCandidate? (release (cs ++ ds)) = lastCandidate? (release cs) := by
  obtain ⟨ending, hending, happend | hcut⟩ := release_append hhead hds cs
  · rw [happend, lastCandidate?_append_of_forall hending]
  · rw [hcut, lastCandidate?_append_of_forall hending]

/-- The platform tells nothing of the version, also where its mark overlaps with the text before. -/
theorem agree_platform (b t : String) : Agree (b ++ " on " ++ t) b := by
  have hplatform : (b ++ " on " ++ t).toList = b.toList ++ (' ' :: 'o' :: 'n' :: ' ' :: t.toList) := by
    simp
  refine agree_of_lastCandidate? ?_
  rw [hplatform]
  refine lastCandidate?_release_append ?_ ?_ b.toList
  · rintro c ⟨⟩
    decide
  · rintro c ⟨⟩

/-- Blank characters at the end tell nothing of the version. -/
theorem agree_blanks (b : String) {w : String} (hw : ∀ c ∈ w.toList, isBlank c = true) :
    Agree (b ++ w) b := by
  refine agree_of_lastCandidate? ?_
  rw [String.toList_append]
  refine lastCandidate?_release_append (fun c hc => hw c (List.mem_of_head? hc)) (fun c hc => ?_) b.toList
  exact Text.not_digit_of_isBlank (hw c ((upTo_release w.toList).isPrefix.subset hc))

/-! ### What introduces the version -/

theorem apart_release_space (cs : List Char) : Apart (release (' ' :: cs)) := by
  intro c hc
  obtain ⟨rest, hrest⟩ := (upTo_release (' ' :: cs)).isPrefix
  cases hrelease : release (' ' :: cs) with
  | nil =>
      rw [hrelease] at hc
      cases hc
  | cons first others =>
      rw [hrelease] at hc hrest
      cases hc
      cases (List.cons.inj hrest).1
      decide

/-- Words before a space tell nothing if they hold no candidate of their own. -/
theorem lastCandidate?_release_introduced {words : List Char} (hline : '\n' ∉ words)
    (hwords : lastCandidate? words = none) {cs : List Char}
    (hrelease : release (words ++ ' ' :: cs) = words ++ release (' ' :: cs)) :
    lastCandidate? (release (words ++ ' ' :: cs)) = lastCandidate? (release (' ' :: cs)) := by
  rw [hrelease, lastCandidate?_append (apart_release_space cs), if_neg hline, hwords, Option.or_none]

/-- A server and a tool introduce a version in their own words. -/
theorem agree_introductions (s : String) : Agree ("PostgreSQL " ++ s) ("postgres (PostgreSQL) " ++ s) := by
  have hserver : ("PostgreSQL " ++ s).toList = "PostgreSQL".toList ++ ' ' :: s.toList := by simp
  have htool : ("postgres (PostgreSQL) " ++ s).toList
      = "postgres (PostgreSQL)".toList ++ ' ' :: s.toList := by simp
  refine agree_of_lastCandidate? ?_
  rw [hserver, htool, lastCandidate?_release_introduced (by decide) (by decide) rfl,
    lastCandidate?_release_introduced (by decide) (by decide) rfl]

/-! ### Written versions -/

theorem isDecimalDigit_of_isDigit {c : Char} (h : c.isDigit = true) : isDecimalDigit c = true := by
  have hlt : c.toNat < 0x80 := by
    have hbound := (Char.isDigit_iff_toNat.mp h).2
    exact Nat.lt_of_le_of_lt hbound (by decide)
  rw [isDecimalDigit, if_pos hlt, h]

theorem run_toDigits (n : Nat) : Run (Nat.toDigits 10 n) :=
  ⟨Nat.toDigits_ne_nil, fun _ hc =>
    isDecimalDigit_of_isDigit (Nat.isDigit_of_mem_toDigits (by decide) (by decide) hc)⟩

theorem denotes_toDigits (n : Nat) : Denotes (Nat.toDigits 10 n) n :=
  ⟨fun _ hc => Nat.isDigit_of_mem_toDigits (by decide) (by decide) hc,
    Nat.ofDigitChars_toDigits (by decide) (by decide)⟩

theorem toList_toString (n : UInt32) : (toString n).toList = Nat.toDigits 10 n.toNat := by
  have hrepr : toString n = String.ofList (Nat.toDigits 10 n.toNat) := rfl
  rw [hrepr, String.toList_ofList]

theorem not_mem_of_run {run : List Char} (hrun : Run run) : ' ' ∉ run := fun hmem => by
  have hspace := hrun.2 ' ' hmem
  rw [isDecimalDigit_space] at hspace
  cases hspace

/-- The mark ends in a space, so a text without spaces completes none. -/
theorem not_infix_append {cs ds : List Char} (hcs : ¬ platformMark <:+: cs) (hds : ' ' ∉ ds) :
    ¬ platformMark <:+: cs ++ ds := by
  intro hmark
  rcases List.infix_append_iff.mp hmark with hleft | hright | ⟨before, behind, hsplit, hsuffix, hbegins⟩
  · exact hcs hleft
  · exact hds (hright.subset (by decide))
  · cases behind with
    | nil =>
        rw [List.append_nil] at hsplit
        exact hcs (hsplit ▸ hsuffix.isInfix)
    | cons c behind =>
        have hlast : (c :: behind).getLast? = some ' ' := by
          have hboth := congrArg List.getLast? hsplit
          rw [List.getLast?_append, List.getLast?_cons, Option.some_or, ← List.getLast?_cons] at hboth
          exact hboth.symm
        exact hds (hbegins.subset (List.mem_of_getLast? hlast))

theorem lastCandidate?_eq_none_of_not_mem {cs : List Char} (h : ' ' ∉ cs) : lastCandidate? cs = none := by
  induction cs with
  | nil => rfl
  | cons c cs ih =>
      obtain ⟨hc, hcs⟩ := not_or.mp fun hmem => h (List.mem_cons.mpr hmem)
      rw [lastCandidate?, ih hcs, candidateAt?_of_not_space (by simp [Ne.symm hc])]
      exact ite_self none

/-- A version behind a space is the last candidate, whatever numbers stand before. -/
theorem lastCandidate?_release_written {words major minor rest : List Char} (hline : '\n' ∉ words)
    (hmark : ¬ platformMark <:+: words ++ [' ']) (hmajor : Run major) (hminor : Run minor)
    (hend : digitsOf rest = []) (hrest : ' ' ∉ rest) :
    lastCandidate? (release (words ++ ' ' :: (major ++ '.' :: (minor ++ rest)))) = some ⟨major, minor⟩ := by
  have hspace : ' ' ∉ major ++ '.' :: (minor ++ rest) := by
    simp [not_mem_of_run hmajor, not_mem_of_run hminor, hrest]
  have hrelease : release (words ++ ' ' :: (major ++ '.' :: (minor ++ rest)))
      = words ++ ' ' :: (major ++ '.' :: (minor ++ rest)) := by
    refine release_eq_self ?_
    rw [List.append_cons]
    exact not_infix_append hmark hspace
  have hcandidate : lastCandidate? (' ' :: (major ++ '.' :: (minor ++ rest))) = some ⟨major, minor⟩ := by
    rw [lastCandidate?, lastCandidate?_eq_none_of_not_mem hspace, candidateAt?_of_runs hmajor hminor, hend,
      List.append_nil]
    rfl
  rw [hrelease, lastCandidate?_append (apart_cons isDecimalDigit_space (by decide) _), if_neg hline,
    hcandidate]
  rfl

/-- A version that is written behind words and a space is read back. -/
theorem parse_written {p : String} (hline : '\n' ∉ p.toList)
    (hmark : ¬ " on ".toList <:+: (p ++ " ").toList) (version : Version) {ending : String}
    (hend : digitsOf ending.toList = []) (hspace : ' ' ∉ ending.toList) :
    parse (p ++ " " ++ version.text ++ ending) = .ok version := by
  have htext : (p ++ " " ++ version.text ++ ending).toList
      = p.toList ++ ' ' :: (Nat.toDigits 10 version.major.toNat
          ++ '.' :: (Nat.toDigits 10 version.minor.toNat ++ ending.toList)) := by
    have hversion : version.text = toString version.major ++ "." ++ toString version.minor := rfl
    rw [hversion]
    simp only [String.toList_append, toList_toString, List.append_assoc]
    rfl
  have hmark : ¬ platformMark <:+: p.toList ++ [' '] := by
    rw [String.toList_append] at hmark
    exact hmark
  have hmajor := run_toDigits version.major.toNat
  have hminor := run_toDigits version.minor.toNat
  rw [parse_eq_ok_iff, version?_eq_bind, htext,
    lastCandidate?_release_written hline hmark hmajor hminor hend hspace, Option.bind_some,
    version?_eq_some_iff hmajor.1 hminor.1]
  exact ⟨denotes_toDigits _, denotes_toDigits _⟩

end OperatorConfig.Postgres.Banner
