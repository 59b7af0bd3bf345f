import OperatorConfig.Proofs.Resolution.Outcome
import OperatorConfig.Proofs.Table

/-!
# Which source each leaf comes from

The specification goes before the environment, the environment before the secrets and the namespace, and
these before the defaults. The rule is one for all leaves of a kind; the only leaves outside of it are
the URL of an external database and the flag of the upgrade.
-/

namespace OperatorConfig.Resolution

open Schema (Shape Leaf Shaped)

/-! ### The cascade -/

section Cascade

variable (namespaceName : String) (specification : Specification) (env : Environment)
  (defaults : Settings) (words : Words) (stored : Option Table)

/-- The text that nothing has pinned or overridden: a secret as it is provisioned, the namespace where
something is named after it, and the default everywhere else. -/
def initialText (leaf : Leaf (Shaped.shape Settings) .text) : String :=
  match SecretField.at? leaf.path with
  | some field => defaults.provisionedSecret stored words field
  | none =>
      if leaf.path ∈ Settings.namespacePaths then namespaceName else leaf.textOf defaults

theorem provisionedSecret_inNamespace :
    (defaults.inNamespace namespaceName).provisionedSecret stored words
      = defaults.provisionedSecret stored words :=
  Settings.provisionedSecret_congr (fun field => by cases field <;> rfl) stored words

theorem of_provisioned (kind : Shape) (leaf : Leaf (Shaped.shape Settings) kind) :
    leaf.of (provisioned namespaceName defaults words stored).1
      = kind.change
          (fun held =>
            ((SecretField.at? leaf.path).map (defaults.provisionedSecret stored words)).getD
              (if leaf.path ∈ Settings.namespacePaths then namespaceName else held))
          id (leaf.of defaults) := by
  rw [provisioned, Settings.provision_eq_fill, provisionedSecret_inNamespace, of_fill, of_inNamespace]
  cases kind <;> rfl

theorem textOf_provisioned (leaf : Leaf (Shaped.shape Settings) .text) :
    leaf.textOf (provisioned namespaceName defaults words stored).1
      = initialText namespaceName defaults words stored leaf := by
  refine (of_provisioned namespaceName defaults words stored .text leaf).trans ?_
  unfold initialText
  cases SecretField.at? leaf.path <;> rfl

/-- Before the external database, the specification is merged over what the environment pins. -/
theorem of_cascaded (kind : Shape) (leaf : Leaf (Shaped.shape Settings) kind) :
    leaf.of (cascaded namespaceName specification env defaults words stored)
      = kind.merge
          (kind.change (env.text? leaf.path).getD (· || env.turnsOn leaf.path)
            (leaf.of (provisioned namespaceName defaults words stored).1))
          (leaf.of specification.settings) := by
  rw [cascaded, Leaf.of_merge, of_applyEnvironment]

theorem textOf_cascaded (leaf : Leaf (Shaped.shape Settings) .text) :
    leaf.textOf (cascaded namespaceName specification env defaults words stored)
      = if leaf.textOf specification.settings ≠ "" then leaf.textOf specification.settings
        else (env.text? leaf.path).getD (initialText namespaceName defaults words stored leaf) := by
  rw [← textOf_provisioned, ite_not]
  exact of_cascaded namespaceName specification env defaults words stored .text leaf

theorem flagOf_cascaded (leaf : Leaf (Shaped.shape Settings) .flag) :
    leaf.flagOf (cascaded namespaceName specification env defaults words stored)
      = (leaf.flagOf specification.settings || (leaf.flagOf defaults || env.turnsOn leaf.path)) := by
  rw [Bool.or_comm]
  have hinitial := of_provisioned namespaceName defaults words stored .flag leaf
  refine (of_cascaded namespaceName specification env defaults words stored .flag leaf).trans ?_
  rw [hinitial]
  rfl

theorem integerOf_cascaded (leaf : Leaf (Shaped.shape Settings) .integer) :
    leaf.integerOf (cascaded namespaceName specification env defaults words stored)
      = if leaf.integerOf specification.settings ≠ 0 then leaf.integerOf specification.settings
        else leaf.integerOf defaults := by
  have hinitial := of_provisioned namespaceName defaults words stored .integer leaf
  refine (of_cascaded namespaceName specification env defaults words stored .integer leaf).trans ?_
  rw [hinitial, ite_not]
  rfl

theorem textsOf_cascaded (leaf : Leaf (Shaped.shape Settings) .texts) :
    leaf.textsOf (cascaded namespaceName specification env defaults words stored)
      = leaf.textsOf defaults := by
  have hinitial := of_provisioned namespaceName defaults words stored .texts leaf
  refine (of_cascaded namespaceName specification env defaults words stored .texts leaf).trans ?_
  rw [hinitial, of_specification_texts specification .texts leaf rfl]
  rfl

theorem get?_tableOf_cascaded (leaf : Leaf (Shaped.shape Settings) .table) (name : String) :
    (leaf.tableOf (cascaded namespaceName specification env defaults words stored)).get? name
      = ((leaf.tableOf specification.settings).get? name).or ((leaf.tableOf defaults).get? name) := by
  have hinitial := of_provisioned namespaceName defaults words stored .table leaf
  have hcascaded := of_cascaded namespaceName specification env defaults words stored .table leaf
  rw [hinitial] at hcascaded
  exact (congrArg (Table.get? · name) hcascaded).trans (Table.get?_overlay _ _ name)

end Cascade

/-! ### What comes after the cascade -/

section Conclusion

variable (reach : Reach) (namespaceName : String) (answer : (q : Question) → q.Answer) (s : Settings)
  (url? : Option Url)

theorem of_concluded (kind : Shape) (leaf : Leaf (Shaped.shape Settings) kind) :
    leaf.of (concluded reach namespaceName answer (s.withExternal url?)).settings
      = kind.change
          (fun held => if leaf.path = Settings.databaseUrlPath then url?.elim held Url.text else held)
          (fun held =>
            if leaf.path = Settings.upgradeFlagPath then
              (concluded reach namespaceName answer (s.withExternal url?)).upgrade.needsUpgrade
            else held)
          (leaf.of s) := by
  refine (of_withDecision (s.withExternal url?) _ kind leaf).trans ?_
  rw [of_withExternal]
  cases kind <;> rfl

/-- The database of a resolution is that of the settings that it concludes. -/
theorem database_concluded :
    (concluded reach namespaceName answer (s.withExternal url?)).settings.platform.components.database
      = { s.platform.components.database with
          url := url?.elim s.platform.components.database.url Url.text } := rfl

theorem textOf_concluded {leaf : Leaf (Shaped.shape Settings) .text}
    (hpath : leaf.path ≠ Settings.databaseUrlPath ∨ url? = none) :
    leaf.textOf (concluded reach namespaceName answer (s.withExternal url?)).settings
      = leaf.textOf s := by
  refine (of_concluded reach namespaceName answer s url? .text leaf).trans ?_
  rcases hpath with hpath | rfl
  · exact if_neg hpath
  · exact ite_self _

theorem flagOf_concluded {leaf : Leaf (Shaped.shape Settings) .flag}
    (hpath : leaf.path ≠ Settings.upgradeFlagPath) :
    leaf.flagOf (concluded reach namespaceName answer (s.withExternal url?)).settings
      = leaf.flagOf s :=
  (of_concluded reach namespaceName answer s url? .flag leaf).trans (if_neg hpath)

/-- The flag of an upgrade plays no part in the decision about it. -/
theorem decide_withDecision (decision : Decision) :
    decide reach namespaceName (s.withDecision decision) = decide reach namespaceName s := by
  unfold decide Upgrade.decide Upgrade.compareVersions
  rfl

theorem upgrade_concluded :
    (concluded reach namespaceName answer s).upgrade
      = (decide reach namespaceName (concluded reach namespaceName answer s).settings).value answer :=
  congrArg (Inquiry.value answer) (decide_withDecision reach namespaceName s _).symm

end Conclusion

/-- Every leaf of resolved settings comes from the first source that sets it. -/
theorem resolve_leaves {reach : Reach} {namespaceName : String} {specification : Specification}
    {env : Environment} {defaults : Settings} {words rest : Words}
    {answer : (q : Question) → q.Answer} {resolution : Resolution}
    (hrun : (resolve reach namespaceName specification env defaults words).value answer
      = (.ok resolution, rest)) :
    ∃ stored, reach.stored namespaceName answer = .ok stored ∧
      (∀ leaf : Leaf (Shaped.shape Settings) .text,
        leaf.path ≠ Settings.databaseUrlPath ∨
          resolution.settings.platform.components.database.externalUrl = "" →
        leaf.textOf resolution.settings
          = if leaf.textOf specification.settings ≠ "" then leaf.textOf specification.settings
            else (env.text? leaf.path).getD (initialText namespaceName defaults words stored leaf)) ∧
      (∀ leaf : Leaf (Shaped.shape Settings) .flag, leaf.path ≠ Settings.upgradeFlagPath →
        leaf.flagOf resolution.settings
          = (leaf.flagOf specification.settings || (leaf.flagOf defaults || env.turnsOn leaf.path))) ∧
      (∀ leaf : Leaf (Shaped.shape Settings) .integer,
        leaf.integerOf resolution.settings
          = if leaf.integerOf specification.settings ≠ 0 then leaf.integerOf specification.settings
            else leaf.integerOf defaults) ∧
      (∀ leaf : Leaf (Shaped.shape Settings) .texts,
        leaf.textsOf resolution.settings = leaf.textsOf defaults) ∧
      (∀ leaf : Leaf (Shaped.shape Settings) .table, ∀ name,
        (leaf.tableOf resolution.settings).get? name
          = ((leaf.tableOf specification.settings).get? name).or
              ((leaf.tableOf defaults).get? name)) ∧
      (resolution.settings.platform.components.database.externalUrl ≠ "" →
        ∃ configured,
          Url.ofText resolution.settings.platform.components.database.externalUrl
            = .ok configured ∧
          resolution.settings.platform.components.database.url
            = (if configured.path = "" ∨ configured.path = "/" then
                configured.withPath ("/" ++ resolution.settings.platform.components.database.name)
              else configured).text) ∧
      (resolution.settings.platform.components.database.externalUrl ≠ "" →
        resolution.upgrade = .noUpgrade) ∧
      (resolution.settings.platform.components.database.externalUrl = "" → reach.database = false →
        resolution.upgrade = .undetermined "no cluster access to probe the database") ∧
      (resolution.settings.platform.components.database.externalUrl = "" → reach.database = true →
        resolution.upgrade = (Upgrade.decide resolution.settings namespaceName).value answer) ∧
      (resolution.settings.databaseNeedsUpgrade = true ↔ resolution.upgrade = .upgradeNeeded) := by
  obtain ⟨stored, url?, hstored, hurl, rfl⟩ := resolve_ok hrun
  have htexts := textOf_cascaded namespaceName specification env defaults words stored
  have hflags := flagOf_cascaded namespaceName specification env defaults words stored
  have hintegers := integerOf_cascaded namespaceName specification env defaults words stored
  have hlists := textsOf_cascaded namespaceName specification env defaults words stored
  have htables := get?_tableOf_cascaded namespaceName specification env defaults words stored
  generalize cascaded namespaceName specification env defaults words stored = s at *
  have hother := of_concluded reach namespaceName answer s url?
  have hupgrade := upgrade_concluded reach namespaceName answer (s.withExternal url?)
  rw [database_concluded]
  refine ⟨stored, hstored, fun leaf hpath => ?text, fun leaf hpath => ?flag, fun leaf => ?integer,
    fun leaf => ?texts, fun leaf name => ?table, fun hexternal => ?url, fun hexternal => ?external,
    fun hmanaged hdatabase => ?unreachable, fun hmanaged hdatabase => ?managed,
    Upgrade.needsUpgrade_eq_true_iff _⟩
  case text =>
    rw [textOf_concluded reach namespaceName answer s url? (hpath.imp_right fun hempty => ?_), htexts]
    have hnone := (Settings.externalUrl?_eq_none_iff s).mpr hempty
    cases hurl.symm.trans hnone
    rfl
  case flag => rw [flagOf_concluded reach namespaceName answer s url? hpath, hflags]
  case integer => rw [← hintegers]; exact hother .integer leaf
  case texts => rw [← hlists]; exact hother .texts leaf
  case table => rw [← htables]; exact congrArg (Table.get? · name) (hother .table leaf)
  case url =>
    cases url? with
    | none => exact absurd ((Settings.externalUrl?_eq_none_iff s).mp hurl) hexternal
    | some url =>
        obtain ⟨-, configured, hconfigured, rfl⟩ := (Settings.externalUrl?_eq_some_iff s url).mp hurl
        exact ⟨configured, hconfigured, rfl⟩
  case external =>
    have hdecide := decide_of_external reach namespaceName hexternal
    exact hupgrade.trans (congrArg (Inquiry.value answer) hdecide)
  case unreachable =>
    have hdecide := decide_of_unreachable reach namespaceName hmanaged hdatabase
    exact hupgrade.trans (congrArg (Inquiry.value answer) hdecide)
  case managed =>
    have hdecide := decide_of_managed reach namespaceName hmanaged hdatabase
    exact hupgrade.trans (congrArg (Inquiry.value answer) hdecide)

theorem resolve_leaves_overridden :
    let env : Environment := .ofTable (Table.ofList
      [("RELATED_IMAGE_UI", "ui:2"), ("RELATED_IMAGE_S2I", "s2i:2"), ("TEST_SUPPORT", "true")])
    let specification : Specification :=
      ⟨{ routeHostname := "host", components := { s2i := { image := "s2i:3" } } }⟩
    let defaults : Settings := SecretField.fill (fun _ => "held")
      { platform.components.ui.image := "ui:1", platform.components.s2i.image := "s2i:1" }
    let answer := Operator.storing (some (Table.ofList [("POSTGRESQL_PASSWORD", "kept")])) Operator.nothing
    ∃ resolution rest,
      (resolve { store := true, database := false } "fuse" specification env defaults
          ⟨.constantly 0 (by decide), 0⟩).value answer = (.ok resolution, rest) ∧
        resolution.settings.project = "fuse" ∧
        resolution.settings.platform.routeHostname = "host" ∧
        resolution.settings.platform.components.ui.image = "ui:2" ∧
        resolution.settings.platform.components.s2i.image = "s2i:3" ∧
        resolution.settings.platform.components.database.password = "kept" ∧
        resolution.settings.oauthClientSecret = "held" ∧
        resolution.settings.platform.components.server.features.testSupport = true := by
  intro env specification defaults answer
  let words : Words := ⟨.constantly 0 (by decide), 0⟩
  have hstored : Reach.stored { store := true, database := false } "fuse" answer
      = .ok (some (Table.ofList [("POSTGRESQL_PASSWORD", "kept")])) := rfl
  have hurl : (cascaded "fuse" specification env defaults words
      (some (Table.ofList [("POSTGRESQL_PASSWORD", "kept")]))).externalUrl? = .ok none :=
    (Settings.externalUrl?_eq_none_iff _).mpr rfl
  have hrun := value_resolve_of_externalUrl hstored hurl
  obtain ⟨stored, hsame, htext, hflag, -⟩ := resolve_leaves hrun
  cases hsame
  refine ⟨_, _, hrun, ?project, ?host, ?pinned, ?overridden, ?kept, ?held, ?flag⟩
  case project =>
    exact htext (.field (.there (.there (.there (.there (.there (.there (.there .here)))))))
      (.here rfl)) (.inr rfl)
  case host => exact htext (Settings.platformLeaf (.field (.there (.there .here)) (.here rfl))) (.inr rfl)
  case pinned => exact htext (Settings.componentLeaf (.field .here (.field .here (.here rfl)))) (.inr rfl)
  case overridden =>
    exact htext (Settings.componentLeaf (.field (.there .here) (.field .here (.here rfl)))) (.inr rfl)
  case kept =>
    refine (htext (Settings.componentLeaf (.field (.there (.there (.there (.there (.there .here)))))
      (.field (.there (.there (.there (.there (.there (.there (.there .here))))))) (.here rfl))))
      (.inr rfl)).trans ?_
    decide
  case held =>
    refine (htext (.field (.there (.there (.there (.there (.there (.there (.there (.there .here))))))))
      (.here rfl)) (.inr rfl)).trans ?_
    decide
  case flag =>
    refine (hflag (Settings.componentLeaf (.field (.there (.there (.there .here)))
      (.field (.there (.there .here)) (.field (.there (.there (.there .here))) (.here rfl)))))
      (by decide)).trans ?_
    decide

end OperatorConfig.Resolution
