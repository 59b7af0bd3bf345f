import OperatorConfig.Proofs.Schema.Leaf
import OperatorConfig.Proofs.Secret.Slots
import OperatorConfig.Proofs.Settings.External
import OperatorConfig.Proofs.Settings.Overrides
import OperatorConfig.Resolution.Resolve

/-!
# What each stage of a resolution does to each leaf

Every stage changes some texts and some flags by rules that look at the path of a leaf and at what it
holds. The paths are listed here once, as the documents spell them; a stage is then one equation about
all leaves of the settings.
-/

namespace OperatorConfig

open Schema (Shape Leaf Shaped)

def Schema.Shape.change (text : String → String) (flag : Bool → Bool) :
    (kind : Shape) → kind.Value → kind.Value
  | .text, held => text held
  | .flag, held => flag held
  | _, held => held

theorem Schema.Shape.change_change {kind : Shape} (text text' : String → String) (flag flag' : Bool → Bool)
    (held : kind.Value) :
    kind.change text flag (kind.change text' flag' held)
      = kind.change (fun held => text (text' held)) (fun held => flag (flag' held)) held := by
  cases kind <;> rfl

namespace Settings

def namespacePaths : List (List String) :=
  [["openShiftProject"], ["syndesis", "components", "oauth", "sarNamespace"]]

def upgradeFlagPath : List String := ["databaseNeedsUpgrade"]

def databaseUrlPath : List String := ["syndesis", "components", "database", "url"]

variable {kind : Shape}

def platformLeaf (leaf : Leaf (Shaped.shape Platform) kind) : Leaf (Shaped.shape Settings) kind :=
  .field (.there (.there (.there (.there (.there (.there (.there (.there (.there (.there (.there (.there
    .here)))))))))))) leaf

def componentLeaf (leaf : Leaf (Shaped.shape Components) kind) : Leaf (Shaped.shape Settings) kind :=
  platformLeaf (.field (.there (.there (.there .here))) leaf)

end Settings

namespace SecretField

def path : SecretField → List String
  | .oauthClientSecret => ["openShiftOauthClientSecret"]
  | .databasePassword => ["syndesis", "components", "database", "password"]
  | .sampleDatabasePassword => ["syndesis", "components", "database", "sampledbPassword"]
  | .cookieSecret => ["syndesis", "components", "oauth", "cookieSecret"]
  | .encryptKey => ["syndesis", "components", "server", "syndesisEncryptKey"]
  | .stateAuthenticationKey => ["syndesis", "components", "server", "clientStateAuthenticationKey"]
  | .stateEncryptionKey => ["syndesis", "components", "server", "clientStateEncryptionKey"]

def at? (path : List String) : Option SecretField := all.find? fun field => field.path = path

def paths : List (List String) := all.map path

end SecretField

namespace Environment

/-- The variables that pin a text, by the path of the text. -/
def textVariables : List (List String × String) :=
  [(["syndesis", "components", "ui", "image"], "RELATED_IMAGE_UI"),
    (["syndesis", "components", "s2i", "image"], "RELATED_IMAGE_S2I"),
    (["syndesis", "components", "oauth", "image"], "RELATED_IMAGE_OAUTH"),
    (["syndesis", "components", "prometheus", "image"], "RELATED_IMAGE_PROMETHEUS"),
    (["syndesis", "components", "upgrade", "image"], "RELATED_IMAGE_UPGRADE"),
    (["syndesis", "components", "meta", "image"], "RELATED_IMAGE_META"),
    (["syndesis", "components", "server", "image"], "RELATED_IMAGE_SERVER"),
    (["syndesis", "components", "amq", "image"], "RELATED_IMAGE_AMQ"),
    (["syndesis", "components", "database", "image"], "RELATED_IMAGE_DATABASE"),
    (["syndesis", "components", "database", "exporter", "image"], "RELATED_IMAGE_PSQL_EXPORTER"),
    (["syndesis", "components", "database", "resources", "volumeAccessMode"],
      "DATABASE_VOLUME_ACCESS_MODE"),
    (["syndesis", "components", "database", "resources", "volumeStorageClass"],
      "DATABASE_STORAGE_CLASS"),
    (["syndesis", "components", "database", "resources", "volumeName"], "DATABASE_VOLUME_NAME"),
    (["syndesis", "addons", "dv", "image"], "RELATED_IMAGE_DV"),
    (["syndesis", "addons", "camelk", "image"], "RELATED_IMAGE_CAMELK"),
    (["syndesis", "addons", "todo", "image"], "RELATED_IMAGE_TODO")]

def flagVariables : List (List String × String) :=
  [(["devSupport"], "DEV_SUPPORT"),
    (["syndesis", "components", "server", "features", "testSupport"], "TEST_SUPPORT")]

/-- The text that a variable pins at a path. -/
def text? (env : Environment) (path : List String) : Option String :=
  (textVariables.lookup path).bind env.get?

def turnsOn (env : Environment) (path : List String) : Bool :=
  (flagVariables.lookup path).any fun name => env.get? name = some "true"

theorem flag_eq_or (env : Environment) (name : String) (held : Bool) :
    env.flag name held = (held || decide (env.get? name = some "true")) := by
  unfold flag
  cases env.get? name with
  | none => exact (Bool.or_false held).symm
  | some value => simp

/-- A variable without a value pins nothing, because a merge keeps what stands under an empty text. -/
theorem merge_text (env : Environment) (path : List String) (held : String) :
    Shape.text.merge held ((textVariables.lookup path).elim "" env.value) = (env.text? path).getD held := by
  unfold text?
  cases textVariables.lookup path with
  | none => exact Shape.merge_unset .text held
  | some name =>
      rw [Option.bind_some, get?]
      split
      next hunset => exact if_pos hunset
      next hset => exact if_neg hset

theorem elim_flag (env : Environment) (path : List String) (held : Bool) :
    (flagVariables.lookup path).elim held (env.flag · held) = (held || env.turnsOn path) := by
  unfold turnsOn
  cases flagVariables.lookup path with
  | none => exact (Bool.or_false held).symm
  | some name => exact env.flag_eq_or name held

end Environment

variable (s : Settings)

theorem of_inNamespace (namespaceName : String) (kind : Shape) (leaf : Leaf (Shaped.shape Settings) kind) :
    leaf.of (s.inNamespace namespaceName)
      = kind.change (fun held => if leaf.path ∈ Settings.namespacePaths then namespaceName else held)
          id (leaf.of s) := by
  revert kind
  refine Shape.Each.forall _ ?_
  simp only [Shape.Each, Schema.Fields.Each, Shaped.shape, and_true]
  and_intros <;> rfl

theorem of_fill (values : SecretField → String) (kind : Shape)
    (leaf : Leaf (Shaped.shape Settings) kind) :
    leaf.of (SecretField.fill values s)
      = kind.change (fun held => ((SecretField.at? leaf.path).map values).getD held) id
          (leaf.of s) := by
  revert kind
  refine Shape.Each.forall _ ?_
  simp only [Shape.Each, Schema.Fields.Each, Shaped.shape, and_true]
  and_intros <;> rfl

theorem of_overlay (env : Environment) (kind : Shape) (leaf : Leaf (Shaped.shape Settings) kind) :
    leaf.of env.overlay
      = kind.change (fun held => (Environment.textVariables.lookup leaf.path).elim held env.value) id
          kind.unset := by
  revert kind
  refine Shape.Each.forall _ ?_
  simp only [Shape.Each, Schema.Fields.Each, Shaped.shape, and_true]
  and_intros <;> rfl

theorem of_withFlags (env : Environment) (kind : Shape) (leaf : Leaf (Shaped.shape Settings) kind) :
    leaf.of (s.withFlags env)
      = kind.change id
          (fun held => (Environment.flagVariables.lookup leaf.path).elim held (env.flag · held))
          (leaf.of s) := by
  revert kind
  refine Shape.Each.forall _ ?_
  simp only [Shape.Each, Schema.Fields.Each, Shaped.shape, and_true]
  and_intros <;> rfl

theorem of_applyEnvironment (env : Environment) (kind : Shape)
    (leaf : Leaf (Shaped.shape Settings) kind) :
    leaf.of (s.applyEnvironment env)
      = kind.change (env.text? leaf.path).getD (· || env.turnsOn leaf.path) (leaf.of s) := by
  rw [Settings.applyEnvironment, of_withFlags, Leaf.of_merge, of_overlay]
  generalize leaf.of s = held
  cases kind with
  | text => exact env.merge_text leaf.path held
  | flag => exact (congrArg _ (Bool.or_false held)).trans (env.elim_flag leaf.path held)
  | integer => exact Shape.merge_unset .integer held
  | texts => exact Shape.merge_unset .texts held
  | table => exact Shape.merge_unset .table held
  | record name fields => exact Shape.merge_unset (.record name fields) held

theorem of_withExternal (url? : Option Url) (kind : Shape) (leaf : Leaf (Shaped.shape Settings) kind) :
    leaf.of (s.withExternal url?)
      = kind.change (fun held =>
          if leaf.path = Settings.databaseUrlPath then url?.elim held Url.text else held) id
          (leaf.of s) := by
  revert kind
  refine Shape.Each.forall _ ?_
  simp only [Shape.Each, Schema.Fields.Each, Shaped.shape, and_true]
  and_intros <;> rfl

theorem of_withDecision (decision : Decision) (kind : Shape)
    (leaf : Leaf (Shaped.shape Settings) kind) :
    leaf.of (s.withDecision decision)
      = kind.change id
          (fun held => if leaf.path = Settings.upgradeFlagPath then decision.needsUpgrade else held)
          (leaf.of s) := by
  revert kind
  refine Shape.Each.forall _ ?_
  simp only [Shape.Each, Schema.Fields.Each, Shaped.shape, and_true]
  and_intros <;> rfl

/-! ### Leaves of a special kind -/

/-- Secrets are texts. -/
theorem eq_text_of_mem_paths (kind : Shape) (leaf : Leaf (Shaped.shape Settings) kind) :
    leaf.path ∈ SecretField.paths → kind = .text := by
  revert kind
  refine Shape.Each.forall _ ?_
  simp only [Shape.Each, Schema.Fields.Each, Shaped.shape, and_true]
  and_intros <;> intro hmem <;> trivial

/-- A specification overrides no list of texts. -/
theorem of_specification_texts (specification : Specification) (kind : Shape)
    (leaf : Leaf (Shaped.shape Settings) kind) :
    kind = .texts → leaf.of specification.settings = kind.unset := by
  revert kind
  refine Shape.Each.forall _ ?_
  simp only [Shape.Each, Schema.Fields.Each, Shaped.shape, and_true]
  and_intros <;> intro h <;> first | rfl | cases h

/-! ### Agreement but for the secrets -/

namespace SecretField

theorem get_applyEnvironment (field : SecretField) (env : Environment) (s : Settings) :
    field.get (s.applyEnvironment env) = field.get s := by
  cases field <;> rfl

theorem at?_eq_none {path : List String} (hpath : path ∉ paths) : at? path = none := by
  refine List.find?_eq_none.mpr fun field _ heq => hpath ?_
  exact List.mem_map.mpr ⟨field, field.mem_all, of_decide_eq_true heq⟩

theorem exists_at?_eq_some {path : List String} (hpath : path ∈ paths) :
    ∃ field, at? path = some field := by
  obtain ⟨field, hmem, heq⟩ := List.mem_map.mp hpath
  exact Option.isSome_iff_exists.mp (List.find?_isSome.mpr ⟨field, hmem, decide_eq_true heq⟩)

/-- Settings agree but for the secrets where they are equal with any other secrets in place. -/
theorem agreeOff_iff_fill (values : SecretField → String) (a b : Settings) :
    Schema.AgreeOff paths a b ↔ fill values a = fill values b := by
  constructor
  · intro hagree
    refine Leaf.ext_of fun kind leaf => ?_
    rw [of_fill, of_fill]
    by_cases hpath : leaf.path ∈ paths
    · cases eq_text_of_mem_paths kind leaf hpath
      obtain ⟨field, hfield⟩ := exists_at?_eq_some hpath
      rw [hfield]
      rfl
    · rw [hagree kind leaf hpath]
  · intro hfill kind leaf hpath
    have hleaf := congrArg leaf.of hfill
    rw [of_fill, of_fill, at?_eq_none hpath] at hleaf
    cases kind <;> exact hleaf

end SecretField

end OperatorConfig
