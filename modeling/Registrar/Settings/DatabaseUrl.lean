import Registrar.Settings.Address
import Registrar.Text.Percent

/-!
# Database URLs

Where the database is, as an absolute URL: a scheme, a colon, and what follows.
After two slashes comes the authority, that is a user with a password, a host and
a number, each of which may be missing. A host is needed if any of the others is
there, and always under the schemes of the web. Then come a path, which names the
database, and parameters.

Blanks and control characters at both ends are dropped, and tabs and line ends
anywhere. Whatever is percent-encoded must be UTF-8.

## Main definitions

* `DatabaseUrl.Parts`: A URL taken apart.
* `DatabaseUrl.parts?`: Take a URL apart.
* `DatabaseUrl.isUsable`: Whether a text is a URL that can be connected to.
-/

namespace Registrar

namespace DatabaseUrl

/-- A URL taken apart. -/
structure Parts where
  scheme : List Char
  authority : Option (List Char)
  path : List Char
  parameters : List Char
  deriving Repr

/-- The text without blanks and control characters at both ends, and without tabs
    and line ends. -/
def cleaned (text : List Char) : List Char :=
  let outer (c : Char) : Bool := c.toNat ≤ 0x20
  (((text.dropWhile outer).reverse.dropWhile outer).reverse).filter fun c =>
    !(c = '\t' || c = '\n' || c = '\r')

/-- Whether a character may come after the first one in a scheme. -/
def isSchemeChar (c : Char) : Bool :=
  c.isAlphanum || c = '+' || c = '-' || c = '.'

/-- The scheme in lower case, and what follows its colon. -/
def cutScheme? (text : List Char) : Option (List Char × List Char) := do
  let (scheme, rest) ← Text.cutAt? ':' text
  let first ← scheme.head?
  if first.isAlpha ∧ scheme.all isSchemeChar then pure (scheme.map Char.toLower, rest) else none

/-- The schemes of the web, under which there has to be a host. -/
def webSchemes : List String := ["http", "https", "ws", "wss", "ftp"]

/-- Whether a scheme is one of the web. -/
def isWeb (scheme : List Char) : Bool := String.ofList scheme ∈ webSchemes

/-- Whether a character ends the authority. -/
def endsAuthority (web : Bool) (c : Char) : Bool :=
  c = '/' || c = '?' || c = '#' || (web && c = '\\')

/-- The authority and what follows it. Under a web scheme any number of slashes
    comes before it, of either kind; else it takes two. -/
def cutAuthority (web : Bool) (text : List Char) : Option (List Char) × List Char :=
  let after (text : List Char) : Option (List Char) × List Char :=
    (some (text.takeWhile fun c => !endsAuthority web c),
      text.dropWhile fun c => !endsAuthority web c)
  match web, text with
  | true, text => after (text.dropWhile fun c => c = '/' || c = '\\')
  | false, '/' :: '/' :: rest => after rest
  | false, text => (none, text)

/-- Take a URL apart. What follows a `#` is left out. -/
def parts? (text : String) : Option Parts := do
  let (scheme, rest) ← cutScheme? (cleaned text.toList)
  let (authority, rest) := cutAuthority (isWeb scheme) rest
  let rest := rest.takeWhile (· ≠ '#')
  match Text.cutAt? '?' rest with
  | some (path, parameters) => pure ⟨scheme, authority, path, parameters⟩
  | none => pure ⟨scheme, authority, rest, []⟩

/-- What comes before the last `@`, if there is one, and what comes after it. -/
def cutUser (authority : List Char) : Option (List Char) × List Char :=
  let behind := (authority.reverse.takeWhile (· ≠ '@')).reverse
  if '@' ∈ authority then (some (authority.take (authority.length - behind.length - 1)), behind)
  else (none, authority)

/-- The host, and what follows it from a colon on. A colon between brackets is part
    of the host. -/
def cutHost (inside : Bool) : List Char → List Char × List Char
  | [] => ([], [])
  | c :: rest =>
    if c = ':' ∧ !inside then ([], c :: rest)
    else
      let inside := if c = '[' then true else if c = ']' then false else inside
      let (host, after) := cutHost inside rest
      (c :: host, after)

/-- Whether a character may not occur in a host. -/
def isForbiddenInHost (c : Char) : Bool :=
  c = '\x00' || c ∈ " #/:<>?[\\]^|@".toList

/-- A host: an address of eight groups in brackets, or a name. -/
def isHost (text : List Char) : Bool :=
  match text with
  | '[' :: rest =>
    match Text.beforeLast? ']' rest with
    | some inner => (Address.groups? inner).isSome
    | none => false
  | text => !text.any isForbiddenInHost

/-- Whether a text is nothing, or a colon and a number of 16 bits, which may be
    left out. -/
def isNumberPart : List Char → Bool
  | [] => true
  | _ :: digits => digits.isEmpty || ((Text.digits? digits).any (· < Nat.pow 2 16))

/-- Whether an authority is in order. -/
def isAuthority (web : Bool) (authority : List Char) : Bool :=
  let (user, rest) := cutUser authority
  let (host, number) := cutHost false rest
  let named := (user.map fun u => !(u.isEmpty || u = [':'])).getD false
  isHost host && isNumberPart number &&
    (!host.isEmpty || (!web && !named && number.isEmpty))

/-- Whether what is percent-encoded in a text is UTF-8. -/
def isDecodable (text : List Char) : Bool := (Percent.decode? text).isSome

/-- How the connection may be secured. -/
def securityModes : List String :=
  ["disable", "allow", "prefer", "require", "verify-ca", "verify-full"]

/-- Whether a parameter of the connection has a value that it can have. -/
def isParameter (name value : String) : Bool :=
  if name = "sslmode" ∨ name = "ssl-mode" then
    String.ofList (value.toList.map Char.toLower) ∈ securityModes
  else if name = "port" then (Text.unsigned? value.toList).any (· < Nat.pow 2 16)
  else if name = "statement-cache-capacity" then (Text.natural64? value.toList).isSome
  else if name = "hostaddr" then (Address.parse? value).isSome
  else true

/-- Whether a text is a URL that can be connected to. -/
def isUsable (text : String) : Bool :=
  match parts? text with
  | none => false
  | some parts =>
    -- Without an authority there is no host, and the default one is used.
    let authority := parts.authority.getD []
    parts.authority.all (isAuthority (isWeb parts.scheme)) && isDecodable authority &&
      isDecodable parts.path &&
      (Percent.formPairs parts.parameters).all fun pair => isParameter pair.1 pair.2

end DatabaseUrl

end Registrar
