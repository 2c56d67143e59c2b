import SearchTenancy.Connection.DomainName.Mapping
import SearchTenancy.Text.Direction
import SearchTenancy.Text.Joining
import SearchTenancy.Text.Punycode

/-!
# Domain names

A name of labels with points between them, which may be written in any script. It is
brought into its plain form first. A label that starts with `xn--` stands for another
one, and one with characters beyond ASCII is sent in that form; both are held to the
same rules (UTS #46, with joiners and directions checked).
-/

namespace SearchTenancy.DomainName

open Text (partsAt)

/-- Whether a character is ASCII. -/
def isAscii (c : Char) : Bool := c.toNat < 128

/-- Whether a character is ASCII and has no place in a name: a control, a space, or a mark that
divides an address. -/
def isDivider (c : Char) : Bool :=
  c.toNat ≤ 0x20 || c.toNat = 0x7f ||
    ['%', '#', '/', ':', '<', '>', '?', '@', '[', '\\', ']', '^', '|'].contains c

/-- The plain form of a text, `none` if some character has no place in a name. -/
def plainText? (text : List Char) : Option (List Char) :=
  (text.mapM plainForm?).map fun forms => Text.Canonical.normalForm forms.flatten

/-- The mark of a label that stands for another one. -/
def encodedMark : List Char := ['x', 'n', '-', '-']

/-- A label as it is sent, and as it is meant. -/
structure Label where
  sent : List Char
  meant : List Char

namespace Label

/-- How many characters a label may have if some are beyond ASCII, as the time to encode it grows
with the square of them. -/
def maxLength : Nat := 1000

/-- How many characters may be decoded, for the same reason. -/
def maxCodeLength : Nat := 2000

/-- Whether a text is in its plain form. -/
def isPlain (text : List Char) : Bool :=
  text.all (fun c => plainForm? c == some [c]) && Text.Canonical.normalForm text == text

/-- Whether a text may be meant by a label: it has no dividers, does not start with a mark, is not
too long, and its joiners make a difference. -/
def isProper (text : List Char) : Bool :=
  !text.any isDivider && !text.head?.any Text.isMark &&
    (text.all isAscii || text.length ≤ maxLength) && Text.Joining.allFit [] text

/-- Reads what is encoded in a label. It is no plain ASCII, is in its plain form, and is not encoded
once more. -/
def decode? (code : List Char) : Option (List Char) :=
  if code.length ≤ maxCodeLength then
    (Text.Punycode.decode? code).filter fun meant =>
      !meant.all isAscii && isPlain meant && !encodedMark.isPrefixOf meant
  else none

/-- Reads a label in plain form. -/
def read? (text : List Char) : Option Label := do
  let meant ←
    if encodedMark.isPrefixOf text then decode? (text.drop encodedMark.length) else some text
  guard (isProper meant)
  return ⟨if text.all isAscii then text else encodedMark ++ Text.Punycode.encode text, meant⟩

/-- Whether part of a label is written from right to left. -/
def isRightward (label : Label) : Bool :=
  label.meant.any fun c => (Text.Direction.of c).isRightward

end Label

/-- Whether labels can be told apart. That is in doubt only if part of one is written from right to
left; then each of them has to stand apart from its neighbours. -/
def areApart (labels : List Label) : Bool :=
  !labels.any Label.isRightward || labels.all fun label => Text.Direction.isApart label.meant

/-- Reads a name; the result is what is sent. -/
def read? (text : List Char) : Option (List Char) := do
  let labels ← (partsAt '.' (← plainText? text)).mapM Label.read?
  guard (areApart labels)
  return ['.'].intercalate (labels.map (·.sent))

end SearchTenancy.DomainName
