import SearchTenancy.Connection.DomainName

/-!
# Hosts

What an address names as its host. In brackets stands an IPv6 address. Under a scheme
of the web everything else is a domain name, in which `%` and two digits may stand for
a byte. A name that ends in a number has to be an IPv4 address.

Under other schemes a host is taken as it stands.
-/

namespace SearchTenancy

/-- Why a text is no host. -/
inductive HostFault where
  | empty
  | invalidName
  | invalidCharacter
  | invalidIpv4
  | invalidIpv6
  deriving DecidableEq

/-- The text of a fault. -/
def HostFault.message : HostFault → String
  | empty => "empty host"
  | invalidName => "invalid international domain name"
  | invalidCharacter => "invalid domain character"
  | invalidIpv4 => "invalid IPv4 address"
  | invalidIpv6 => "invalid IPv6 address"

namespace Host

open Text (isHexDigit digitsValue partsAt)

/-! ## Numbers in place of names -/

/-- The value of a part of an IPv4 address: octal behind a zero, hexadecimal behind `0x`. -/
def ipv4Number? : List Char → Option Nat
  | [] => none
  | ['0'] => some 0
  | '0' :: x :: rest =>
    if x = 'x' ∨ x = 'X' then (if rest.all isHexDigit then some (digitsValue 16 rest) else none)
    else if (x :: rest).all (fun c => '0' ≤ c && c ≤ '7') then some (digitsValue 8 (x :: rest)) else none
  | text => if text.all Char.isDigit then some (digitsValue 10 text) else none

/-- The parts of a name between its points; an empty last part is dropped. -/
def nameParts (name : List Char) : List (List Char) :=
  let parts := partsAt '.' name
  if parts.getLast? = some [] then parts.dropLast else parts

/-- Whether the last part of a name is a number. -/
def endsInNumber (name : List Char) : Bool :=
  match (nameParts name).getLast? with
  | some part => (!part.isEmpty && part.all Char.isDigit) || (ipv4Number? part).isSome
  | none => false

/-- Whether a name that ends in a number is an IPv4 address: at most four numbers, of which all but
the last are bytes and the last fills the rest. -/
def isIpv4 (name : List Char) : Bool :=
  let numbers := (nameParts name).map ipv4Number?
  numbers.length ≤ 4 && numbers.all Option.isSome &&
    (numbers.dropLast.all fun n => n.getD 256 < 256) &&
    ((numbers.getLast?.bind id).getD 0 < Nat.pow 256 (5 - numbers.length))

/-- Whether a text is a group of an IPv6 address. -/
def isGroup (text : List Char) : Bool := !text.isEmpty && text.length ≤ 4 && text.all isHexDigit

/-- Whether a text is an IPv4 address in its plain form. -/
def isPlainIpv4 (text : List Char) : Bool :=
  let parts := partsAt '.' text
  parts.length == 4 && parts.all fun part =>
    !part.isEmpty && part.length ≤ 3 && part.all Char.isDigit && digitsValue 10 part < 256 &&
      (part.length == 1 || part.head? != some '0')

/-- The number of groups in a part of an IPv6 address; at its end an IPv4 address counts twice. -/
def groupCount? (last : Bool) (text : List Char) : Option Nat :=
  if text.isEmpty then some 0
  else
    let groups := partsAt ':' text
    let final := groups.getLast?.getD []
    if groups.all isGroup then some groups.length
    else if last && groups.dropLast.all isGroup && isPlainIpv4 final then some (groups.length + 1)
    else none

/-- The parts of a text before and after the first double colon. -/
def splitDoubleColon : List Char → Option (List Char × List Char)
  | ':' :: ':' :: rest => some ([], rest)
  | c :: rest => (splitDoubleColon rest).map fun (before, after) => (c :: before, after)
  | [] => none

/-- Whether a text is an IPv6 address: eight groups, of which one run may be left out. -/
def isIpv6 (text : List Char) : Bool :=
  match splitDoubleColon text with
  | some (before, after) =>
    match groupCount? false before, groupCount? true after with
    | some a, some b => a + b ≤ 7
    | _, _ => false
  | none => groupCount? true text == some 8

/-! ## Names -/

/-- The bytes of a text in which `%` and two hexadecimal digits stand for a byte. -/
def decodePercent : List Char → List UInt8
  | [] => []
  | '%' :: high :: low :: rest =>
    if isHexDigit high && isHexDigit low then
      (digitsValue 16 [high, low]).toUInt8 :: decodePercent rest
    else String.utf8EncodeChar '%' ++ decodePercent (high :: low :: rest)
  | c :: rest => String.utf8EncodeChar c ++ decodePercent rest

/-- Reads a name; the result is what is sent. -/
def readName (text : List Char) : Except HostFault (List Char) :=
  match (String.fromUTF8? ⟨(decodePercent text).toArray⟩).bind fun name => DomainName.read? name.toList with
  | none => .error .invalidName
  | some name =>
    if name.isEmpty then .error .empty
    else if endsInNumber name && !isIpv4 name then .error .invalidIpv4
    else .ok name

/-! ## Hosts -/

/-- Reads what stands in brackets, from the first bracket on. -/
def readBrackets (text : List Char) : Except HostFault (List Char) :=
  if text.getLast? = some ']' && isIpv6 (text.drop 1).dropLast then .ok text else .error .invalidIpv6

/-- Reads the host of an address under a scheme of the web. -/
def read (text : List Char) : Except HostFault (List Char) :=
  match text with
  | [] => .error .empty
  | '[' :: _ => readBrackets text
  | _ => readName text

/-- Whether a character may not stand in a host under another scheme. -/
def isDivider (c : Char) : Bool :=
  ['\x00', '\t', '\n', '\r', ' ', '#', '/', ':', '<', '>', '?', '@', '[', '\\', ']', '^', '|'].contains c

/-- Reads the host of an address under another scheme; there may be none. -/
def readAny (text : List Char) : Except HostFault (List Char) :=
  match text with
  | '[' :: _ => readBrackets text
  | _ => if text.any isDivider then .error .invalidCharacter else .ok text

end Host

end SearchTenancy
