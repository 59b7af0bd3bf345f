import OperatorConfig.Proofs.Settings.Stages

/-!
# What the environment pins

A variable that is set decides over the text that it stands for, whatever the settings hold there, and a
variable of a flag can only turn the flag on. Both are rules for one leaf and one variable, so environments
that agree on the known variables do the same, and two environments one after the other are one environment.
-/

namespace OperatorConfig

open Schema (Shape Leaf Shaped)

/-! ### One variable -/

namespace Environment

theorem get?_eq_true_iff (env : Environment) (name : String) :
    env.get? name = some "true" ↔ env.value name = "true" := by
  unfold get?
  split
  next hunset => simp [hunset]
  next => simp

theorem get?_ofTable (table : Table) (name : String) :
    (ofTable table).get? name = (table.get? name).filter (· ≠ "") := by
  change (if (table.get? name).getD "" = "" then none else some ((table.get? name).getD "")) = _
  cases table.get? name with
  | none => rfl
  | some value => by_cases hempty : value = "" <;> simp [Option.filter, hempty]

/-- The environment that has the variables of the second one over those of the first one. A variable of a
flag keeps what turns the flag on. -/
def followedBy (first second : Environment) : Environment where
  value name :=
    if name ∈ flagVariables.map Prod.snd ∧ (first.value name = "true" ∨ second.value name = "true") then
      "true"
    else (second.get? name).getD (first.value name)

section Variables

variable {path : List String} {name : String}

theorem mem_of_lookup {names : List (List String × String)} (h : names.lookup path = some name) :
    (path, name) ∈ names := by
  obtain ⟨before, after, heq, -⟩ := List.lookup_eq_some_iff.mp h
  rw [heq]
  exact List.mem_append_right before List.mem_cons_self

theorem lookup_eq_none_of_not_mem {names : List (List String × String)} (h : path ∉ names.map Prod.fst) :
    names.lookup path = none := by
  cases hlookup : names.lookup path with
  | none => rfl
  | some name => exact absurd (List.mem_map_of_mem (mem_of_lookup hlookup)) h

theorem mem_variableNames (h : (path, name) ∈ textVariables ++ flagVariables) :
    name ∈ Settings.variableNames := by
  have hall : ∀ entry ∈ textVariables ++ flagVariables, entry.2 ∈ Settings.variableNames := by decide
  exact hall _ h

/-- No variable of a text is one of a flag. -/
theorem not_mem_flagVariables (h : (path, name) ∈ textVariables) :
    name ∉ flagVariables.map Prod.snd := by
  have hall : ∀ entry ∈ textVariables, entry.2 ∉ flagVariables.map Prod.snd := by decide
  exact hall _ h

theorem text?_of_mem (h : (path, name) ∈ textVariables) (env : Environment) :
    env.text? path = env.get? name := by
  have hall : ∀ entry ∈ textVariables, textVariables.lookup entry.1 = some entry.2 := by decide
  rw [text?, hall _ h]
  rfl

theorem turnsOn_of_mem (h : (path, name) ∈ flagVariables) (env : Environment) :
    env.turnsOn path = decide (env.get? name = some "true") := by
  have hall : ∀ entry ∈ flagVariables, flagVariables.lookup entry.1 = some entry.2 := by decide
  rw [turnsOn, hall _ h]
  rfl

theorem text?_of_not_mem (h : path ∉ textVariables.map Prod.fst) (env : Environment) :
    env.text? path = none := by
  rw [text?, lookup_eq_none_of_not_mem h]
  rfl

theorem turnsOn_of_not_mem (h : path ∉ flagVariables.map Prod.fst) (env : Environment) :
    env.turnsOn path = false := by
  rw [turnsOn, lookup_eq_none_of_not_mem h]
  rfl

end Variables

/-! ### One leaf -/

section Leaves

variable {first second : Environment}

theorem text?_congr (h : ∀ name ∈ Settings.variableNames, first.get? name = second.get? name)
    (path : List String) : first.text? path = second.text? path := by
  unfold text?
  cases hlookup : textVariables.lookup path with
  | none => rfl
  | some name => exact h name (mem_variableNames (List.mem_append_left _ (mem_of_lookup hlookup)))

theorem turnsOn_congr (h : ∀ name ∈ Settings.variableNames, first.get? name = second.get? name)
    (path : List String) : first.turnsOn path = second.turnsOn path := by
  unfold turnsOn
  cases hlookup : flagVariables.lookup path with
  | none => rfl
  | some name =>
      have hname := h name (mem_variableNames (List.mem_append_right _ (mem_of_lookup hlookup)))
      simp only [Option.any_some, hname]

variable (first second) (path : List String)

theorem text?_followedBy :
    (first.followedBy second).text? path = (second.text? path).or (first.text? path) := by
  unfold text?
  cases hlookup : textVariables.lookup path with
  | none => rfl
  | some name =>
      have hname := not_mem_flagVariables (mem_of_lookup hlookup)
      simp only [Option.bind_some, get?, followedBy, hname, false_and, if_false]
      by_cases hsecond : second.value name = "" <;> simp [hsecond]

theorem turnsOn_followedBy :
    (first.followedBy second).turnsOn path = (first.turnsOn path || second.turnsOn path) := by
  unfold turnsOn
  cases hlookup : flagVariables.lookup path with
  | none => rfl
  | some name =>
      have hname : name ∈ flagVariables.map Prod.snd :=
        List.mem_map_of_mem (mem_of_lookup hlookup)
      simp only [Option.any_some, get?_eq_true_iff, followedBy, hname, true_and]
      by_cases hon : first.value name = "true" ∨ second.value name = "true"
      · rw [if_pos hon]
        simpa using hon
      · obtain ⟨hfirst, hsecond⟩ := not_or.mp hon
        rw [if_neg hon, get?]
        by_cases hunset : second.value name = "" <;> simp [hfirst, hsecond, hunset]

end Leaves

end Environment

/-! ### All settings -/

namespace Settings

variable (s : Settings)

theorem applyEnvironment_congr {first second : Environment}
    (h : ∀ name ∈ variableNames, first.get? name = second.get? name) :
    s.applyEnvironment first = s.applyEnvironment second := by
  refine Leaf.ext_of fun kind leaf => ?_
  rw [of_applyEnvironment, of_applyEnvironment, Environment.text?_congr h, Environment.turnsOn_congr h]

theorem applyEnvironment_ofTable_congr {table other : Table}
    (h : ∀ name ∈ variableNames,
      (table.get? name).filter (· ≠ "") = (other.get? name).filter (· ≠ "")) :
    s.applyEnvironment (.ofTable table) = s.applyEnvironment (.ofTable other) := by
  refine s.applyEnvironment_congr fun name hname => ?_
  rw [Environment.get?_ofTable, Environment.get?_ofTable, h name hname]

theorem applyEnvironment_applyEnvironment (first second : Environment) :
    (s.applyEnvironment first).applyEnvironment second
      = s.applyEnvironment (first.followedBy second) := by
  refine Leaf.ext_of fun kind leaf => ?_
  rw [of_applyEnvironment, of_applyEnvironment, of_applyEnvironment, Schema.Shape.change_change,
    Environment.text?_followedBy, Environment.turnsOn_followedBy]
  generalize leaf.of s = held
  cases kind with
  | text => exact (Option.getD_or ..).symm
  | flag => exact Bool.or_assoc held _ _
  | integer | texts | table | record => rfl

theorem applyEnvironment_twice (env : Environment) :
    (s.applyEnvironment env).applyEnvironment env = s.applyEnvironment env := by
  refine Leaf.ext_of fun kind leaf => ?_
  rw [of_applyEnvironment, of_applyEnvironment, Schema.Shape.change_change]
  generalize leaf.of s = held
  cases kind with
  | text => cases env.text? leaf.path <;> rfl
  | flag => exact (Bool.or_assoc held _ _).trans (congrArg (or held) (Bool.or_self _))
  | integer | texts | table | record => rfl

theorem exists_textLeaf {path : List String} {name : String}
    (h : (path, name) ∈ Environment.textVariables) :
    ∃ leaf : Leaf (Shaped.shape Settings) .text, leaf.path = path := by
  have hall : ∀ entry ∈ Environment.textVariables, ∃ leaf : Leaf (Shaped.shape Settings) .text,
      (Shaped.shape Settings).leafAt? entry.1 = some ⟨.text, leaf⟩ := by
    simp only [Environment.textVariables, List.forall_mem_cons, List.not_mem_nil, IsEmpty.forall_iff,
      implies_true, and_true]
    and_intros <;> exact ⟨_, rfl⟩
  obtain ⟨leaf, hleaf⟩ := hall _ h
  exact ⟨leaf, Shape.path_of_leafAt? _ hleaf⟩

theorem exists_flagLeaf {path : List String} {name : String}
    (h : (path, name) ∈ Environment.flagVariables) :
    ∃ leaf : Leaf (Shaped.shape Settings) .flag, leaf.path = path := by
  have hall : ∀ entry ∈ Environment.flagVariables, ∃ leaf : Leaf (Shaped.shape Settings) .flag,
      (Shaped.shape Settings).leafAt? entry.1 = some ⟨.flag, leaf⟩ := by
    simp only [Environment.flagVariables, List.forall_mem_cons, List.not_mem_nil, IsEmpty.forall_iff,
      implies_true, and_true]
    and_intros <;> exact ⟨_, rfl⟩
  obtain ⟨leaf, hleaf⟩ := hall _ h
  exact ⟨leaf, Shape.path_of_leafAt? _ hleaf⟩

section OneVariable

variable (env : Environment) {path : List String} {name : String}

theorem textOf_applyEnvironment (hmem : (path, name) ∈ Environment.textVariables)
    {leaf : Leaf (Shaped.shape Settings) .text} (hpath : leaf.path = path) :
    leaf.textOf (s.applyEnvironment env) = (env.get? name).getD (leaf.textOf s) := by
  rw [← env.text?_of_mem hmem, ← hpath]
  exact of_applyEnvironment s env .text leaf

theorem flagOf_applyEnvironment (hmem : (path, name) ∈ Environment.flagVariables)
    {leaf : Leaf (Shaped.shape Settings) .flag} (hpath : leaf.path = path) :
    leaf.flagOf (s.applyEnvironment env) = (leaf.flagOf s || decide (env.get? name = some "true")) := by
  rw [← env.turnsOn_of_mem hmem, ← hpath]
  exact of_applyEnvironment s env .flag leaf

theorem textOf_applyEnvironment_of_not_mem {leaf : Leaf (Shaped.shape Settings) .text}
    (hpath : leaf.path ∉ Environment.textVariables.map Prod.fst) :
    leaf.textOf (s.applyEnvironment env) = leaf.textOf s := by
  have hleaf := of_applyEnvironment s env .text leaf
  rw [env.text?_of_not_mem hpath] at hleaf
  exact hleaf

theorem flagOf_applyEnvironment_of_not_mem {leaf : Leaf (Shaped.shape Settings) .flag}
    (hpath : leaf.path ∉ Environment.flagVariables.map Prod.fst) :
    leaf.flagOf (s.applyEnvironment env) = leaf.flagOf s := by
  have hleaf := of_applyEnvironment s env .flag leaf
  rw [env.turnsOn_of_not_mem hpath] at hleaf
  exact hleaf.trans (Bool.or_false _)

theorem of_applyEnvironment_of_ne {kind : Shape} (leaf : Leaf (Shaped.shape Settings) kind)
    (htext : kind ≠ .text) (hflag : kind ≠ .flag) :
    leaf.of (s.applyEnvironment env) = leaf.of s := by
  rw [of_applyEnvironment]
  cases kind with
  | text => exact absurd rfl htext
  | flag => exact absurd rfl hflag
  | integer | texts | table | record => rfl

end OneVariable

/-- A variable that is set decides over its text, a variable with the value `true` turns its flag on, and
nothing else is touched: no secret, no table, no list and no integer. So only the known variables count,
an environment that is applied twice is applied once, and two environments one after the other come to one
that has the variables of both, the later one first. -/
theorem applyEnvironment_pins (s : Settings) (env : Environment) :
    (∀ path name, (path, name) ∈ Environment.textVariables →
      (∃ leaf : Leaf (Shaped.shape Settings) .text, leaf.path = path) ∧
      ∀ leaf : Leaf (Shaped.shape Settings) .text, leaf.path = path →
        leaf.textOf (s.applyEnvironment env) = (env.get? name).getD (leaf.textOf s)) ∧
    (∀ path name, (path, name) ∈ Environment.flagVariables →
      (∃ leaf : Leaf (Shaped.shape Settings) .flag, leaf.path = path) ∧
      ∀ leaf : Leaf (Shaped.shape Settings) .flag, leaf.path = path →
        leaf.flagOf (s.applyEnvironment env) = (leaf.flagOf s || decide (env.get? name = some "true"))) ∧
    (∀ leaf : Leaf (Shaped.shape Settings) .text, leaf.path ∉ Environment.textVariables.map Prod.fst →
      leaf.textOf (s.applyEnvironment env) = leaf.textOf s) ∧
    (∀ leaf : Leaf (Shaped.shape Settings) .flag, leaf.path ∉ Environment.flagVariables.map Prod.fst →
      leaf.flagOf (s.applyEnvironment env) = leaf.flagOf s) ∧
    (∀ kind (leaf : Leaf (Shaped.shape Settings) kind), kind ≠ .text → kind ≠ .flag →
      leaf.of (s.applyEnvironment env) = leaf.of s) ∧
    (∀ field : SecretField, field.get (s.applyEnvironment env) = field.get s) ∧
    (∀ other : Environment, (∀ name ∈ variableNames, env.get? name = other.get? name) →
      s.applyEnvironment env = s.applyEnvironment other) ∧
    (∀ table other : Table,
      (∀ name ∈ variableNames,
        (table.get? name).filter (· ≠ "") = (other.get? name).filter (· ≠ "")) →
      s.applyEnvironment (.ofTable table) = s.applyEnvironment (.ofTable other)) ∧
    (s.applyEnvironment env).applyEnvironment env = s.applyEnvironment env ∧
    ∀ later : Environment,
      (s.applyEnvironment env).applyEnvironment later = s.applyEnvironment (env.followedBy later) := by
  exact ⟨fun _ _ hmem => ⟨exists_textLeaf hmem, fun _ => s.textOf_applyEnvironment env hmem⟩,
    fun _ _ hmem => ⟨exists_flagLeaf hmem, fun _ => s.flagOf_applyEnvironment env hmem⟩,
    fun _ => s.textOf_applyEnvironment_of_not_mem env, fun _ => s.flagOf_applyEnvironment_of_not_mem env,
    fun _ leaf => s.of_applyEnvironment_of_ne env leaf, fun field => field.get_applyEnvironment env s,
    fun _ => s.applyEnvironment_congr, fun _ _ => s.applyEnvironment_ofTable_congr,
    s.applyEnvironment_twice env, s.applyEnvironment_applyEnvironment env⟩

end Settings

end OperatorConfig
