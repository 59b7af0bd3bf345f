import OperatorConfig.Proofs.Resolution.Secrets
import OperatorConfig.Resolution.Route

/-!
# What the stages never take away

A stage may put another text in the place of one, but it empties no secret, takes no entry out of a table
and turns no flag off. Growth in this sense is transitive, so what holds of every stage holds of any number
of them one after another.
-/

namespace OperatorConfig

open Schema (Shape Leaf Shaped)

/-! ### Leaves and secrets -/

theorem of_withHost (s : Settings) (host : String) (kind : Shape)
    (leaf : Leaf (Shaped.shape Settings) kind) :
    leaf.of (s.withHost host)
      = kind.change (fun held => if leaf.path = ["syndesis", "routeHostname"] then host else held) id
          (leaf.of s) := by
  revert kind
  refine Shape.Each.forall _ ?_
  simp only [Shape.Each, Schema.Fields.Each, Shaped.shape, and_true]
  and_intros <;> rfl

namespace SecretField

variable (field : SecretField)

theorem get_inNamespace (namespaceName : String) (s : Settings) :
    field.get (s.inNamespace namespaceName) = field.get s := by
  cases field <;> rfl

theorem get_withExternal (url? : Option Url) (s : Settings) :
    field.get (s.withExternal url?) = field.get s := by
  cases field <;> rfl

theorem get_withHost (host : String) (s : Settings) : field.get (s.withHost host) = field.get s := by
  cases field <;> rfl

end SecretField

namespace Settings

/-- Whatever secret, entry or flag the earlier settings hold is there in the later ones too, the secret
and the entry perhaps with another value. -/
structure Grows (earlier later : Settings) : Prop where
  secret : ∀ field : SecretField, field.get earlier ≠ "" → field.get later ≠ ""
  entry : ∀ (leaf : Leaf (Shaped.shape Settings) .table) (name : String),
    (leaf.tableOf earlier).contains name = true → (leaf.tableOf later).contains name = true
  flag : ∀ leaf : Leaf (Shaped.shape Settings) .flag,
    leaf.flagOf earlier = true → leaf.flagOf later = true

namespace Grows

variable {earlier later last : Settings}

theorem refl (s : Settings) : Grows s s := ⟨fun _ => id, fun _ _ => id, fun _ => id⟩

theorem trans (h : Grows earlier later) (h' : Grows later last) : Grows earlier last where
  secret field hfield := h'.secret field (h.secret field hfield)
  entry leaf name hname := h'.entry leaf name (h.entry leaf name hname)
  flag leaf hleaf := h'.flag leaf (h.flag leaf hleaf)

instance : Trans Grows Grows Grows := ⟨trans⟩

/-- What changes texts, and flags that are not on, leaves only the secrets to look at. -/
theorem of_change (hleaf : ∀ kind (leaf : Leaf (Shaped.shape Settings) kind), ∃ text flag,
      flag true = true ∧ leaf.of later = kind.change text flag (leaf.of earlier))
    (hsecret : ∀ field : SecretField, field.get earlier ≠ "" → field.get later ≠ "") :
    Grows earlier later where
  secret := hsecret
  entry leaf name hname := by
    obtain ⟨text, flag, -, hchange⟩ := hleaf .table leaf
    have hsame : leaf.tableOf later = leaf.tableOf earlier := hchange
    rwa [hsame]
  flag leaf hon := by
    obtain ⟨text, flag, hflag, hchange⟩ := hleaf .flag leaf
    have hchanged : leaf.flagOf later = flag (leaf.flagOf earlier) := hchange
    rw [hchanged, hon, hflag]

theorem volumeLabels (h : Grows earlier later) (name : String) :
    earlier.platform.components.database.resources.volumeLabels.contains name = true →
      later.platform.components.database.resources.volumeLabels.contains name = true :=
  h.entry (componentLeaf <| .field (.there (.there (.there (.there (.there .here))))) <|
    .field (.there (.there (.there (.there (.there .here))))) <|
    .field (.there (.there (.there (.there (.there .here))))) (.here rfl)) name

theorem mavenRepositories (h : Grows earlier later) (name : String) :
    earlier.platform.components.server.features.mavenRepositories.contains name = true →
      later.platform.components.server.features.mavenRepositories.contains name = true :=
  h.entry (componentLeaf <| .field (.there (.there (.there .here))) <| .field (.there (.there .here)) <|
    .field (.there (.there (.there (.there (.there (.there .here)))))) (.here rfl)) name

end Grows

/-! ### Growth by the stages -/

variable (s : Settings)

theorem grows_inNamespace (namespaceName : String) : s.Grows (s.inNamespace namespaceName) := by
  refine Grows.of_change (fun kind leaf => ⟨_, _, rfl, of_inNamespace s namespaceName kind leaf⟩) ?_
  intro field hfield
  rwa [SecretField.get_inNamespace]

theorem grows_provision (stored : Option Table) (words : Words) :
    s.Grows (s.provision stored words).1 := by
  rw [provision_eq_fill]
  refine Grows.of_change (fun kind leaf => ⟨_, _, rfl, of_fill s _ kind leaf⟩) ?_
  intro field _
  rw [SecretField.get_fill]
  exact provisionedSecret_ne_empty stored s words field

theorem grows_applyEnvironment (env : Environment) : s.Grows (s.applyEnvironment env) := by
  refine Grows.of_change (fun kind leaf =>
    ⟨_, _, Bool.true_or (env.turnsOn leaf.path), of_applyEnvironment s env kind leaf⟩) ?_
  intro field hfield
  rwa [SecretField.get_applyEnvironment]

theorem grows_merge (upper : Settings) : s.Grows (Schema.merge s upper) where
  secret field hfield := by
    rw [SecretField.get_merge]
    split
    next hupper => exact hupper
    next => exact hfield
  entry leaf name hname := by
    have hoverlay : leaf.tableOf (Schema.merge s upper) = (leaf.tableOf s).overlay (leaf.tableOf upper) :=
      leaf.of_merge s upper
    rw [Table.contains, Option.isSome_iff_exists] at hname ⊢
    obtain ⟨text, htext⟩ := hname
    rw [hoverlay, Table.get?_overlay, htext]
    cases (leaf.tableOf upper).get? name with
    | none => exact ⟨text, rfl⟩
    | some other => exact ⟨other, rfl⟩
  flag leaf hon := by
    have hor : leaf.flagOf (Schema.merge s upper) = (leaf.flagOf s || leaf.flagOf upper) :=
      leaf.of_merge s upper
    rw [hor, hon, Bool.true_or]

theorem grows_withExternal (url? : Option Url) : s.Grows (s.withExternal url?) := by
  refine Grows.of_change (fun kind leaf => ⟨_, _, rfl, of_withExternal s url? kind leaf⟩) ?_
  intro field hfield
  rwa [SecretField.get_withExternal]

theorem grows_withHost (host : String) : s.Grows (s.withHost host) := by
  refine Grows.of_change (fun kind leaf => ⟨_, _, rfl, of_withHost s host kind leaf⟩) ?_
  intro field hfield
  rwa [SecretField.get_withHost]

end Settings

end OperatorConfig
