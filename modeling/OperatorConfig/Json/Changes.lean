import OperatorConfig.Json.Printer

/-!
# What differs between two values

Values are compared leaf by leaf. The leaves of an object are those of its members, and every other
value is a leaf; a pointer names the way to a leaf.
-/

namespace OperatorConfig.Json

/-- A key as a step of a pointer. -/
def pointerStep (key : String) : String :=
  "/" ++ key.toList.foldl
    (fun step c => step ++ (if c = '~' then "~0" else if c = '/' then "~1" else c.toString)) ""

mutual
/-- The leaves of a value that stands at a pointer. -/
def leavesAt (pointer : String) : Json → List (String × Json)
  | .object members => memberLeaves pointer members
  | .null => [(pointer, .null)]
  | .flag value => [(pointer, .flag value)]
  | .number value => [(pointer, .number value)]
  | .text value => [(pointer, .text value)]
  | .array items => [(pointer, .array items)]
def memberLeaves (pointer : String) : List (String × Json) → List (String × Json)
  | [] => []
  | (key, value) :: rest => leavesAt (pointer ++ pointerStep key) value ++ memberLeaves pointer rest
end

/-- The leaves of a value with the pointers to them. -/
def leaves (value : Json) : List (String × Json) := leavesAt "" value

/-- The leaves of `after` that `before` has not, and null for each leaf that has gone. -/
def changes (before after : Json) : List (String × Json) :=
  let old := before.leaves
  let new := after.leaves
  let fresh := new.filter fun (pointer, value) =>
    (lookup pointer old).all fun held => held.compact ≠ value.compact
  let gone := old.filter fun (pointer, _) => (lookup pointer new).isNone
  fresh ++ gone.map fun (pointer, _) => (pointer, .null)

end OperatorConfig.Json
