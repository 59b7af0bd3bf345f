import OperatorConfig.Text.Utf8
import OperatorConfig.Url.Basic
import OperatorConfig.Url.Domain.Direction
import OperatorConfig.Url.Domain.Joining
import OperatorConfig.Url.Domain.Mapping
import OperatorConfig.Url.Domain.Punycode

/-!
# Domain names

A domain name is a sequence of labels with points between them. It is looked up in ASCII: its characters
are brought into one form, and a label that still has others than ASCII characters is written with the
prefix `xn--`. A label that comes with the prefix must stand for such a label in exactly this way.
-/

namespace OperatorConfig.Url.Domain

/-- Characters that no domain name has. -/
def isForbidden (c : Char) : Bool :=
  c.toNat ≤ 0x20 || c.toNat = 0x7F || "%/:<>?@[\\]^|#".contains c

def isAscii (s : List Char) : Bool := s.all (·.toNat < 0x80)

/-- The name in its one form: mapped and composed. -/
def uniform (name : List Char) : Option (List Char) :=
  if isAscii name then some (name.map Char.toLower)
  else (name.mapM mapped).map fun images => Text.composed images.flatten

/-- The labels of a name; `held` is the beginning of the first, in reverse. -/
def labels (held : List Char) : List Char → List (List Char)
  | [] => [held.reverse]
  | '.' :: rest => held.reverse :: labels [] rest
  | c :: rest => labels (c :: held) rest

/-- What stands behind the prefix of a label, if it has one. -/
def behindMark? : List Char → Option (List Char)
  | 'x' :: 'n' :: '-' :: '-' :: rest => some rest
  | _ => none

/-- Whether characters beyond ASCII may make up a label as they stand. -/
def isProper (label : List Char) : Bool :=
  !label.head?.any isAttached && joinersFit [] label

/-- Whether a label is in its one form. -/
def isUniform (label : List Char) : Bool :=
  label.all (fun c => mapped c = some [c]) && Text.composed label = label

/-- A label as it is written, and the label that is meant. -/
structure Label where
  written : List Char
  meant : List Char

def label? (label : List Char) : Option Label :=
  match behindMark? label with
  | some code => do
      let meant ← Punycode.decode code
      if isAscii code && !isAscii meant && isUniform meant && isProper meant then
        return ⟨label, meant⟩
      else none
  | none =>
      if isAscii label then some ⟨label, label⟩
      else if isProper label then some ⟨"xn--".toList ++ Punycode.encode label, label⟩
      else none

/-- Whether the labels of a name have each one direction, where that matters. -/
def haveDirections (labels : List Label) : Bool :=
  let directions := labels.map fun label => label.meant.map Direction.of
  !(directions.any fun label => label.any Direction.isRightToLeft) || directions.all Direction.fits

def joined : List (List Char) → List Char
  | [] => []
  | [label] => label
  | label :: rest => label ++ '.' :: joined rest

/-- The name that is looked up for the name in the bytes. -/
def toAscii (bytes : List UInt8) : Option (List Char) := do
  let name ← Text.ofBytes? bytes
  let name ← uniform name.toList
  if name.any isForbidden then none
  let labels ← (labels [] name).mapM label?
  if haveDirections labels then return joined (labels.map (·.written)) else none

end OperatorConfig.Url.Domain
