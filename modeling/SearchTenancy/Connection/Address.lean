import SearchTenancy.Connection.Host

/-!
# Addresses

The address of a backend, a URL. It has to name a scheme; under the schemes of the web
it has to name a host, and may name a port. An address under the scheme of files may
name a host but no port, and under any other scheme the host may be missing if there is
no user and no port either.
-/

namespace SearchTenancy

/-- Why a text is no usable address. -/
inductive AddressFault where
  | withoutScheme
  | invalidPort
  | host (fault : HostFault)
  deriving DecidableEq

/-- The text of a fault. -/
def AddressFault.message : AddressFault → String
  | withoutScheme => "relative URL without a base"
  | invalidPort => "invalid port number"
  | host fault => fault.message

/-- An address. An address under a scheme outside the web may be without a host. -/
structure Address where
  scheme : String
  host : String
  port : Option Nat
  path : String
  deriving DecidableEq

namespace Address

/-- The schemes of the web. -/
def webSchemes : List String := ["http", "https", "ws", "wss", "ftp"]

/-- The text without the characters that do not belong to it: controls and spaces at its ends, tabs
and line ends anywhere. -/
def clean (text : List Char) : List Char :=
  let isOuter (c : Char) : Bool := c.toNat ≤ 0x20
  let trimmed := ((text.dropWhile isOuter).reverse.dropWhile isOuter).reverse
  trimmed.filter fun c => c ≠ '\t' ∧ c ≠ '\n' ∧ c ≠ '\r'

/-- Splits off a scheme: a letter, then letters, digits and `+-.`, up to a colon. -/
def splitScheme (text : List Char) : Option (List Char × List Char) :=
  let isPart (c : Char) : Bool := c.isAlphanum || ['+', '-', '.'].contains c
  let scheme := text.takeWhile isPart
  match scheme.head?, text.drop scheme.length with
  | some first, ':' :: rest => if first.isAlpha then some (scheme.map Char.toLower, rest) else none
  | _, _ => none

/-- Whether a character divides the parts of a path under a scheme of the web. -/
def isSlash (c : Char) : Bool := c = '/' || c = '\\'

/-- Splits off the part that names user, host and port. -/
def splitAuthority (web : Bool) (text : List Char) : List Char × List Char :=
  let inside (c : Char) : Bool := !(['/', '?', '#'].contains c || (web && c = '\\'))
  (text.takeWhile inside, text.dropWhile inside)

/-- Splits off the user, whom the last `@` ends. -/
def splitUser (authority : List Char) : Option (List Char) × List Char :=
  let rest := (authority.reverse.takeWhile (· ≠ '@')).reverse
  if authority.contains '@' then (some (authority.take (authority.length - rest.length - 1)), rest)
  else (none, authority)

/-- Whether a user has a name or a password. -/
def isSomeone (user : Option (List Char)) : Bool := user.any fun name => name ≠ [] ∧ name ≠ [':']

/-- Splits a host from what stands behind the first colon outside brackets. -/
def splitHost (inside : Bool) : List Char → List Char × Option (List Char)
  | [] => ([], none)
  | ':' :: rest => if inside then add ':' (splitHost inside rest) else ([], some rest)
  | c :: rest => add c (splitHost (if c = '[' then true else if c = ']' then false else inside) rest)
where
  add (c : Char) (split : List Char × Option (List Char)) : List Char × Option (List Char) :=
    (c :: split.1, split.2)

/-- Reads a port of 16 bits; an empty one is none. -/
def readPort (text : List Char) : Except AddressFault (Option Nat) :=
  if text.isEmpty then .ok none
  else if !text.all Char.isDigit then .error .invalidPort
  else
    let port := Text.digitsValue 10 text
    if port < UInt16.size then .ok (some port) else .error .invalidPort

/-- Reads what stands behind the scheme and the slashes. A backslash ends a port under every
scheme. -/
def readAuthority (scheme : String) (web : Bool) (text : List Char) : Except AddressFault Address := do
  let (authority, path) := splitAuthority web text
  let (user, hostAndPort) := splitUser authority
  if user = some [] ∧ hostAndPort = [] ∧ path ≠ [] then throw (.host .empty)
  let (hostText, behind) := splitHost false hostAndPort
  let host ← (if web then Host.read hostText else Host.readAny hostText).mapError .host
  if host.isEmpty ∧ behind.isSome then throw (.host .empty)
  let portAndPath := behind.getD []
  let port ← readPort (portAndPath.takeWhile (· ≠ '\\'))
  if host.isEmpty ∧ isSomeone user then throw (.host .empty)
  let path := portAndPath.dropWhile (· ≠ '\\') ++ path
  return ⟨scheme, String.ofList host, port, String.ofList path⟩

/-- Whether a text is the letter of a drive, which is no host. -/
def isDrive : List Char → Bool
  | [letter, mark] => letter.isAlpha && (mark = ':' || mark = '|')
  | _ => false

/-- Reads the address of a file. -/
def readFile (rest : List Char) : Except AddressFault Address := do
  let (hostText, path) :=
    match rest with
    | a :: b :: more => if isSlash a && isSlash b then splitAuthority true more else ([], rest)
    | _ => ([], rest)
  if hostText.isEmpty || isDrive hostText then
    return ⟨"file", "", none, String.ofList (hostText ++ path)⟩
  else
    let host ← (Host.read hostText).mapError .host
    return ⟨"file", String.ofList host, none, String.ofList path⟩

/-- The address that a text gives. -/
def read (text : String) : Except AddressFault Address :=
  match splitScheme (clean text.toList) with
  | none => .error .withoutScheme
  | some (scheme, rest) =>
    let scheme := String.ofList scheme
    if webSchemes.contains scheme then readAuthority scheme true (rest.dropWhile isSlash)
    else if scheme = "file" then readFile rest
    else
      match rest with
      | '/' :: '/' :: rest => readAuthority scheme false rest
      | _ => .ok ⟨scheme, "", none, String.ofList rest⟩

end Address

end SearchTenancy
