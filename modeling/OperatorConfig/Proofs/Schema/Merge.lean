import OperatorConfig.Proofs.Schema.Leaf
import OperatorConfig.Proofs.Table

/-!
# The laws of merging

What merging does to a leaf depends on that leaf alone, so a law of merging is a law of the five kinds of
leaves, and holds of every record as soon as it holds of these. Values of one shape are a monoid with the
unset value as its unit. It is not commutative, but a value that is merged again hides where it was merged
before.
-/

namespace OperatorConfig

namespace Table

theorem overlay_assoc (a b c : Table) : (a.overlay b).overlay c = a.overlay (b.overlay c) := by
  refine ext_get? fun name => ?_
  simp only [get?_overlay]
  cases c.get? name <;> rfl

theorem overlay_overlay_self (a b : Table) : (a.overlay b).overlay a = b.overlay a := by
  refine ext_get? fun name => ?_
  simp only [get?_overlay]
  cases a.get? name with
  | none => exact Option.or_none
  | some held => rfl

end Table

namespace Schema

/-! ### Leaves that are replaced as a whole -/

section Replacing

variable {α : Type} [DecidableEq α] (unset a b c : α)

theorem replace_unset : (if a = unset then unset else a) = a := by
  by_cases ha : a = unset
  · rw [if_pos ha, ha]
  · rw [if_neg ha]

theorem replace_assoc :
    (if c = unset then (if b = unset then a else b) else c)
      = if (if c = unset then b else c) = unset then a else (if c = unset then b else c) := by
  by_cases hc : c = unset
  · simp only [if_pos hc]
  · simp only [if_neg hc]

theorem replace_replaced :
    (if a = unset then (if b = unset then a else b) else a) = if a = unset then b else a := by
  by_cases ha : a = unset
  · rw [if_pos ha, if_pos ha, ha]
    exact replace_unset unset b
  · rw [if_neg ha, if_neg ha]

end Replacing

theorem or_or_self (a b : Bool) : (a || b || a) = (b || a) := by
  rw [Bool.or_comm a b, Bool.or_assoc, Bool.or_self]

/-! ### Leaves -/

section Scalars

variable {kind : Shape}

theorem unset_merge_of_scalar (hscalar : kind.isRecord = false) (a : kind.Value) :
    kind.merge kind.unset a = a := by
  cases kind with
  | text => exact replace_unset "" a
  | flag => exact Bool.false_or a
  | integer => exact replace_unset (0 : Int32) a
  | texts => exact replace_unset ([] : List String) a
  | table => exact Table.empty_overlay a
  | record name fields => cases hscalar

theorem merge_assoc_of_scalar (hscalar : kind.isRecord = false) (a b c : kind.Value) :
    kind.merge (kind.merge a b) c = kind.merge a (kind.merge b c) := by
  cases kind with
  | text => exact replace_assoc "" a b c
  | flag => exact Bool.or_assoc a b c
  | integer => exact replace_assoc (0 : Int32) a b c
  | texts => exact replace_assoc ([] : List String) a b c
  | table => exact Table.overlay_assoc a b c
  | record name fields => cases hscalar

theorem merge_merge_self_of_scalar (hscalar : kind.isRecord = false) (a b : kind.Value) :
    kind.merge (kind.merge a b) a = kind.merge b a := by
  cases kind with
  | text => exact replace_replaced "" a b
  | flag => exact or_or_self a b
  | integer => exact replace_replaced (0 : Int32) a b
  | texts => exact replace_replaced ([] : List String) a b
  | table => exact Table.overlay_overlay_self a b
  | record name fields => cases hscalar

end Scalars

/-! ### All values of a shape -/

namespace Shape

variable (shape : Shape)

theorem unset_merge (a : shape.Value) : shape.merge shape.unset a = a := by
  refine shape.ext_leaf _ _ fun kind leaf => ?_
  rw [leaf.get_merge, leaf.get_unset]
  exact unset_merge_of_scalar leaf.isRecord_eq_false _

theorem merge_assoc (a b c : shape.Value) :
    shape.merge (shape.merge a b) c = shape.merge a (shape.merge b c) := by
  refine shape.ext_leaf _ _ fun kind leaf => ?_
  simp only [leaf.get_merge]
  exact merge_assoc_of_scalar leaf.isRecord_eq_false _ _ _

theorem merge_merge_self (a b : shape.Value) :
    shape.merge (shape.merge a b) a = shape.merge b a := by
  refine shape.ext_leaf _ _ fun kind leaf => ?_
  simp only [leaf.get_merge]
  exact merge_merge_self_of_scalar leaf.isRecord_eq_false _ _

end Shape

/-! ### All settings -/

def unset (α : Type) [Shaped α] : α := Shaped.ofValue (Shaped.shape α).unset

section Settings

variable {α : Type} [Shaped α] (a b c : α)

theorem merge_unset : merge a (unset α) = a := by
  rw [merge, unset, Shaped.toValue_ofValue, Shape.merge_unset, Shaped.ofValue_toValue]

theorem unset_merge : merge (unset α) a = a := by
  rw [merge, unset, Shaped.toValue_ofValue, Shape.unset_merge, Shaped.ofValue_toValue]

theorem merge_assoc : merge (merge a b) c = merge a (merge b c) := by
  simp only [merge, Shaped.toValue_ofValue, Shape.merge_assoc]

theorem merge_merge_self : merge (merge a b) a = merge b a := by
  simp only [merge, Shaped.toValue_ofValue, Shape.merge_merge_self]

theorem merge_self : merge a a = a := by
  calc
    merge a a = merge (merge a (unset α)) a := by rw [merge_unset]
    _ = merge (unset α) a := merge_merge_self a (unset α)
    _ = a := unset_merge a

/-- Where nothing is set, everything stays. -/
theorem AgreeOff.merge {paths : List (List String)} {upper : α} (hunset : AgreeOff paths upper (unset α))
    (base : α) : AgreeOff paths (merge base upper) base := by
  intro kind leaf hpath
  have hupper : leaf.of upper = kind.unset := by
    rw [hunset kind leaf hpath, Leaf.of, unset, Shaped.toValue_ofValue, leaf.get_unset]
  rw [leaf.of_merge, hupper, Shape.merge_unset]

end Settings

end Schema

end OperatorConfig
