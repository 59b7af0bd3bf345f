import OperatorConfig.Text.Blank
import OperatorConfig.Url.Address
import OperatorConfig.Url.Domain
import OperatorConfig.Url.Path

/-!
# URLs from texts

A text is read from left to right: the scheme up to a colon, an authority between two slashes and the
path, the path, and behind a question mark and a number sign the query and the fragment. Blanks and
controls at the ends do not count, and neither do tabs and line ends anywhere.
-/

namespace OperatorConfig.Url

/-- Whether the character counts nowhere. -/
def isIgnored (c : Char) : Bool :=
  c = '\t' || c = '\n' || c = '\r'

/-- Whether the character does not count at the ends of a URL. -/
def isMargin (c : Char) : Bool := c.toNat ≤ 0x20

def endsPath (c : Char) : Bool := c = '?' || c = '#'

def endsAuthority (kind : Kind) (c : Char) : Bool :=
  endsPath c || Path.isSeparator kind c

/-- What stands before and behind the last occurrence of a character. -/
def splitLast (separator : Char) (cs : List Char) : Option (List Char × List Char) :=
  (Text.splitFirst separator cs.reverse).map fun (behind, before) =>
    (before.reverse, behind.reverse)

/-- The scheme, in lower case, and what follows its colon. -/
def readScheme (cs : List Char) : Option (String × List Char) :=
  match cs with
  | first :: _ =>
      if ¬ first.isAlpha then none
      else
        match Text.splitFirst ':' cs with
        | some (scheme, rest) =>
            if scheme.all fun c => c.isAlphanum || c = '+' || c = '-' || c = '.' then
              some (String.ofList (scheme.map Char.toLower), rest)
            else none
        | none => none
  | [] => none

def readSuffix (kind : Kind) (cs : List Char) : Option String × Option String :=
  let query := if kind.isSpecial then Text.Percent.webQuery else Text.Percent.query
  let fragment (cs : List Char) := some (Text.Percent.encode Text.Percent.fragment cs)
  match cs with
  | '#' :: rest => (none, fragment rest)
  | '?' :: rest =>
      match Text.splitFirst '#' rest with
      | some (before, behind) => (some (Text.Percent.encode query before), fragment behind)
      | none => (some (Text.Percent.encode query rest), none)
  | _ => (none, none)

/-- The name and the password in front of the last `@`. -/
def readUser (cs : List Char) : String × Option String :=
  let encode := Text.Percent.encode Text.Percent.user
  match Text.splitFirst ':' cs with
  | some (user, password) =>
      (encode user, if password = [] then none else some (encode password))
  | none => (encode cs, none)

def readBracketed (cs : List Char) : Except UrlFault String := do
  if cs.getLast? ≠ some ']' then throw .badIpv6
  let address ← Address.version6 (cs.drop 1).dropLast
  return "[" ++ Address.version6Text address ++ "]"

def isForbiddenInHost (c : Char) : Bool :=
  c = '\x00' || isIgnored c || c = ' ' || "#/:<>?@[\\]^|".contains c

/-- The host of a URL, by the kind of its scheme. -/
def readHost (kind : Kind) (cs : List Char) : Except UrlFault String := do
  if cs.head? = some '[' then readBracketed cs
  else if kind.isSpecial then
    let decoded := Text.Percent.decode (Text.bytes (String.ofList cs))
    let some name := Domain.toAscii decoded | throw .badDomainName
    if name = [] then throw .emptyHost
    else if Address.endsInNumber name then
      return Address.version4Text (← Address.version4 name)
    else return String.ofList name
  else if cs.any isForbiddenInHost then throw .badHostCharacter
  else return Text.Percent.encode Text.Percent.control cs

def readPort (kind : Kind) (cs : List Char) : Except UrlFault (Option Nat × List Char) := do
  let digits := cs.takeWhile Char.isDigit
  let rest := cs.dropWhile Char.isDigit
  let port := Address.number 10 digits
  if 65535 < port then throw .badPort
  match rest with
  | c :: _ => if ¬ (c = '/' ∨ c = '\\' ∨ endsPath c) then throw .badPort
  | [] => pure ()
  return (if digits = [] ∨ kind.defaultPort? = some port then none else some port, rest)

/-- What belongs to a host: up to a colon outside brackets. -/
def hostLength (bracketed : Bool) : List Char → Nat
  | [] => 0
  | c :: rest =>
      if c = ':' ∧ ¬ bracketed then 0
      else 1 + hostLength (if c = '[' then true else if c = ']' then false else bracketed) rest

/-- The authority of a URL that is no file, and what follows. -/
def readAuthority (kind : Kind) (cs : List Char) : Except UrlFault (Authority × List Char) := do
  let written := cs.takeWhile fun c => !endsAuthority kind c
  let behind := cs.dropWhile fun c => !endsAuthority kind c
  let (credentials, written) := (splitLast '@' written).elim (none, written) fun (c, w) => (some c, w)
  if credentials = some [] ∧ written = [] ∧ behind ≠ [] then throw .emptyHost
  let (user, password) := (credentials.map readUser).getD ("", none)
  let size := hostLength false written
  let host := written.take size
  if kind.isSpecial ∧ host = [] then throw .emptyHost
  let text ← readHost kind host
  let rest := written.drop size ++ behind
  let authority (port : Option Nat) : Authority := { user, password, host := text, port }
  match rest with
  | ':' :: rest =>
      if host = [] then throw .emptyHost
      let (port, rest) ← readPort kind rest
      return (authority port, rest)
  | _ =>
      if host = [] ∧ (user ≠ "" ∨ password.isSome) then throw .emptyHost
      return (authority none, rest)

/-- A URL with a path and what follows it. -/
def assemble (kind : Kind) (scheme : String) (authority : Option Authority) (path : List Char)
    (suffix : List Char) : Url :=
  let (query, fragment) := readSuffix kind suffix
  { scheme, authority, query, fragment
    guarded := authority.isNone && path.take 2 = ['/', '/']
    path := String.ofList path }

def readFile (cs : List Char) : Except UrlFault Url := do
  let before := cs.takeWhile fun c => !endsPath c
  let suffix := cs.dropWhile fun c => !endsPath c
  let file (host : String) (path : List Char) :=
    assemble .file "file" (some { host }) path suffix
  match before with
  | a :: b :: rest =>
      if Path.isSeparator .file a ∧ Path.isSeparator .file b then
        let written := rest.takeWhile fun c => !Path.isSeparator .file c
        let behind := rest.dropWhile fun c => !Path.isSeparator .file c
        if written = [] then return file "" (Path.read .file true rest).path
        else if Path.isDrive written then return file "" (Path.readBehind .file ['/'] rest).path
        else
          let host ← readHost .file written
          if host = "localhost" then return file "" (Path.read .file true behind).path
          else
            let progress := Path.read .file false behind
            return file (if progress.onDrive then "" else host) progress.path
      else if Path.isSeparator .file a then return file "" (Path.readBehind .file [] before).path
      else return file "" (Path.readBehind .file ['/'] before).path
  | [a] =>
      if Path.isSeparator .file a then return file "" (Path.readBehind .file [] before).path
      else return file "" (Path.readBehind .file ['/'] before).path
  | [] => return file "" (Path.readBehind .file ['/'] []).path

def readAfterScheme (scheme : String) (cs : List Char) : Except UrlFault Url := do
  let kind := Kind.ofScheme scheme
  let withAuthority (cs : List Char) : Except UrlFault Url := do
    let (authority, rest) ← readAuthority kind cs
    let path := rest.takeWhile fun c => !endsPath c
    let suffix := rest.dropWhile fun c => !endsPath c
    return assemble kind scheme (some authority) (Path.read kind false path).path suffix
  match kind with
  | .file => readFile cs
  | .web _ => withAuthority (cs.dropWhile (Path.isSeparator kind))
  | .other =>
      match cs with
      | '/' :: '/' :: rest => withAuthority rest
      | _ =>
          let path := cs.takeWhile fun c => !endsPath c
          let suffix := cs.dropWhile fun c => !endsPath c
          match path with
          | '/' :: rest =>
              return assemble kind scheme none (Path.readBehind kind ['/'] rest).path suffix
          | _ => return assemble kind scheme none (Path.readOpaque path) suffix

/-- The URL that a text holds. -/
def ofText (s : String) : Except UrlFault Url :=
  let cs := (Text.trimWhile isMargin s.toList).filter (!isIgnored ·)
  match readScheme cs with
  | some (scheme, rest) => readAfterScheme scheme rest
  | none => .error .noScheme

/-- The URL with another path. An opaque path cannot begin with a slash, which is then written as a
byte. -/
def withPath (url : Url) (path : String) : Url :=
  let cs := path.toList.filter (!isIgnored ·)
  if url.isOpaque then
    let shown :=
      match path.toList with
      | '/' :: _ => "%2F" ++ String.ofList (Path.readOpaque (cs.drop 1))
      | _ => String.ofList (Path.readOpaque cs)
    { url with path := shown }
  else
    let kind := Kind.ofScheme url.scheme
    let afterSlash := decide (kind = .file) && (url.authority.all fun a => decide (a.host = ""))
    { url with path := String.ofList (Path.read kind afterSlash cs).path }

end OperatorConfig.Url
