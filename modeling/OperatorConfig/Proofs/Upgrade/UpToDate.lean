import OperatorConfig.Proofs.Postgres.Spelling
import OperatorConfig.Proofs.Upgrade.Decision

/-!
# A database that is up to date

The running database and the tool of the next rollout spell the same release differently. Since all these
spellings tell the same version or none, the check never decides on an upgrade from a release to itself;
only a mark can still ask for one.
-/

namespace OperatorConfig

open Postgres (Version)
open Postgres.Banner (Agree parse)

namespace Postgres.Banner

theorem Agree.symm {a b : String} (h : Agree a b) : Agree b a := fun version => (h version).symm

theorem Agree.trans {a b c : String} (hab : Agree a b) (hbc : Agree b c) : Agree a c :=
  fun version => (hab version).trans (hbc version)

theorem Agree.eq {a b : String} (h : Agree a b) {version other : Version} (ha : parse a = .ok version)
    (hb : parse b = .ok other) : version = other := by
  rw [(h version).mp ha, Except.ok.injEq] at hb
  exact hb

/-- The running server's banner agrees with the tool's, with or without the platform. -/
theorem agree_running {s t running : String}
    (hrunning : running = "PostgreSQL " ++ s ∨ running = "PostgreSQL " ++ s ++ " on " ++ t) :
    Agree running ("postgres (PostgreSQL) " ++ s ++ "\n") := by
  have hserver : Agree running ("PostgreSQL " ++ s) := by
    rcases hrunning with rfl | rfl
    · exact fun _ => Iff.rfl
    · exact agree_platform _ t
  have htool : Agree ("postgres (PostgreSQL) " ++ s ++ "\n") ("postgres (PostgreSQL) " ++ s) :=
    agree_blanks _ (List.all_eq_true.mp rfl)
  exact (hserver.trans (agree_introductions s)).trans htool.symm

section Written

variable {p : String} (hline : '\n' ∉ p.toList) (hmark : ¬ " on ".toList <:+: (p ++ " ").toList)

include hline hmark

theorem parse_written_release (version : Version) : parse (p ++ " " ++ version.text) = .ok version := by
  rw [← String.append_empty (s := p ++ " " ++ version.text)]
  exact parse_written hline hmark version rfl (by decide)

/-- A patch behind the minor number is passed over. -/
theorem parse_written_patch (version : Version) (patch : UInt32) :
    parse (p ++ " " ++ version.text ++ "." ++ toString patch) = .ok version := by
  have hdigits : (toString patch).toList = Nat.toDigits 10 patch.toNat := toList_toString patch
  rw [String.append_assoc]
  refine parse_written hline hmark version ?_ ?_
  · rw [String.toList_append]
    exact List.takeWhile_cons_of_neg (by decide)
  · rw [String.toList_append, hdigits]
    have hspace := not_mem_of_run (run_toDigits patch.toNat)
    simpa using hspace

end Written

end Postgres.Banner

namespace Upgrade

/-- No version comes before itself. -/
theorem ofVersions_self (version : Version) : Decision.ofVersions version version ≠ .upgradeNeeded := by
  rw [ne_eq, ofVersions_eq_upgradeNeeded_iff, Version.lt_iff]
  simp

/-- Banners that agree are no ground for an upgrade. -/
theorem marked_of_agree {s : Settings} {namespaceName : String} {answer : (q : Question) → q.Answer}
    {running target : String} (hagree : Agree running target)
    (hrunning : answer (.runningBanner (connectionOf s)) = .ok running)
    (htarget : answer (.targetBanner namespaceName) = .ok target)
    (hdecision : (decide s namespaceName).value answer = .upgradeNeeded) :
    Marked (answer (.containers namespaceName)) := by
  have hcourse := course_decide s namespaceName answer
  generalize (decide s namespaceName).asked answer = asked at hcourse
  rw [hdecision] at hcourse
  generalize hsame : Decision.upgradeNeeded = decision at hcourse
  cases hcourse with
  | external => cases hsame
  | marked hexternal hmark => exact hmark
  | runningUnknown => cases hsame
  | targetUnknown => cases hsame
  | compared hexternal hmark current next hcurrent hnext =>
      rw [hrunning] at hcurrent
      rw [htarget] at hnext
      obtain ⟨_, hbanner, hcurrent⟩ := hcurrent
      obtain ⟨_, hbanner', hnext⟩ := hnext
      cases hbanner
      cases hbanner'
      rw [← Postgres.Banner.parse_eq_ok_iff] at hcurrent hnext
      rw [hagree.eq hcurrent hnext] at hsame
      exact absurd hsame.symm (ofVersions_self next)

/-- The spellings of one release tell the same version, or none of them tells one: the server's and the
tool's words before it, a platform behind it, and blank characters at the end make no difference. So a
database is never upgraded from a release to itself. And a version that is written in decimal digits
behind any words of one line, with a patch or without, is read back. -/
theorem one_release_one_version :
    (∀ s : String, Agree ("PostgreSQL " ++ s) ("postgres (PostgreSQL) " ++ s)) ∧
    (∀ b t : String, Agree (b ++ " on " ++ t) b) ∧
    (∀ b w : String, (∀ c ∈ w.toList, Text.isBlank c = true) → Agree (b ++ w) b) ∧
    (∀ s t running : String,
      running = "PostgreSQL " ++ s ∨ running = "PostgreSQL " ++ s ++ " on " ++ t →
        (∀ current target, parse running = .ok current →
          parse ("postgres (PostgreSQL) " ++ s ++ "\n") = .ok target →
            Decision.ofVersions current target ≠ .upgradeNeeded) ∧
        ∀ (settings : Settings) (namespaceName : String) (answer : (q : Question) → q.Answer),
          answer (.runningBanner (connectionOf settings)) = .ok running →
          answer (.targetBanner namespaceName) = .ok ("postgres (PostgreSQL) " ++ s ++ "\n") →
          (decide settings namespaceName).value answer = .upgradeNeeded →
            Marked (answer (.containers namespaceName))) ∧
    ∀ p : String, '\n' ∉ p.toList → ¬ " on ".toList <:+: (p ++ " ").toList →
      ∀ major minor patch : UInt32,
        parse (p ++ " " ++ toString major ++ "." ++ toString minor) = .ok ⟨major, minor⟩ ∧
        parse (p ++ " " ++ toString major ++ "." ++ toString minor ++ "." ++ toString patch)
          = .ok ⟨major, minor⟩ ∧
        parse (p ++ " " ++ (Version.mk major minor).text) = .ok ⟨major, minor⟩ := by
  refine ⟨Postgres.Banner.agree_introductions, Postgres.Banner.agree_platform,
    fun b w hw => Postgres.Banner.agree_blanks b hw, ?release, ?written⟩
  case release =>
    intro s t running hrunning
    have hagree := Postgres.Banner.agree_running hrunning
    refine ⟨fun current target hcurrent htarget => ?_, fun settings namespaceName answer => ?_⟩
    · rw [hagree.eq hcurrent htarget]
      exact ofVersions_self target
    · exact marked_of_agree hagree
  case written =>
    intro p hline hmark major minor patch
    have hplain := Postgres.Banner.parse_written_release hline hmark ⟨major, minor⟩
    have hpatched := Postgres.Banner.parse_written_patch hline hmark ⟨major, minor⟩ patch
    have htext : (Version.mk major minor).text = toString major ++ "." ++ toString minor := rfl
    refine ⟨?_, ?_, hplain⟩
    · simpa only [htext, String.append_assoc] using hplain
    · simpa only [htext, String.append_assoc] using hpatched

def telling (running target : String) : (q : Question) → q.Answer
  | .secrets _ _ => .ok none
  | .containers _ => .ok none
  | .runningBanner _ => .ok running
  | .targetBanner _ => .ok target
  | .routeHost _ => .ok none

theorem one_release_one_version_debian :
    (∀ c ∈ "\r\n".toList, Text.isBlank c = true) ∧
    Agree ("PostgreSQL 10.6 on" ++ "\r\n") "PostgreSQL 10.6 on" ∧
    parse ("PostgreSQL " ++ "10.6 (Debian)" ++ " on " ++ "x86_64, gcc 11.2") = .ok ⟨10, 6⟩ ∧
    parse ("postgres (PostgreSQL) " ++ "10.6 (Debian)" ++ "\n") = .ok ⟨10, 6⟩ ∧
    Decision.ofVersions ⟨10, 6⟩ ⟨10, 6⟩ ≠ .upgradeNeeded ∧
    (decide {} "fuse").value
        (telling ("PostgreSQL " ++ "10.6 (Debian)" ++ " on " ++ "x86_64, gcc 11.2")
          ("postgres (PostgreSQL) " ++ "10.6 (Debian)" ++ "\n")) ≠ .upgradeNeeded ∧
    '\n' ∉ "9.6.2 once 12.1,".toList ∧ ¬ " on ".toList <:+: ("9.6.2 once 12.1," ++ " ").toList ∧
    parse ("9.6.2 once 12.1," ++ " " ++ toString (11 : UInt32) ++ "." ++ toString (22 : UInt32))
      = .ok ⟨11, 22⟩ := by
  have hblank : ∀ c ∈ "\r\n".toList, Text.isBlank c = true := List.all_eq_true.mp rfl
  have hrunning : parse ("PostgreSQL " ++ "10.6 (Debian)" ++ " on " ++ "x86_64, gcc 11.2") = .ok ⟨10, 6⟩ :=
    (Postgres.Banner.parse_eq_ok_iff _ _).mpr (by decide +kernel)
  have htarget : parse ("postgres (PostgreSQL) " ++ "10.6 (Debian)" ++ "\n") = .ok ⟨10, 6⟩ :=
    (Postgres.Banner.parse_eq_ok_iff _ _).mpr (by decide +kernel)
  have hline : '\n' ∉ "9.6.2 once 12.1,".toList := by decide
  have hmark : ¬ " on ".toList <:+: ("9.6.2 once 12.1," ++ " ").toList := by decide +kernel
  obtain ⟨-, -, hblanks, hrelease, hwritten⟩ := one_release_one_version
  obtain ⟨hversions, hdecision⟩ := hrelease "10.6 (Debian)" "x86_64, gcc 11.2" _ (.inr rfl)
  refine ⟨hblank, hblanks _ _ hblank, hrunning, htarget, hversions _ _ hrunning htarget, ?_, hline, hmark,
    (hwritten _ hline hmark 11 22 0).1⟩
  exact fun hupgrade => not_marked_none (hdecision {} "fuse" (telling _ _) rfl rfl hupgrade)

end Upgrade

end OperatorConfig
