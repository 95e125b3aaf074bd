import GatewayConfig.Text.Direction
import GatewayConfig.Text.Joining
import GatewayConfig.Text.Normal
import GatewayConfig.Url.DomainMapping
import GatewayConfig.Url.Punycode

/-!
# Domain names

The ASCII spelling of a domain name. The characters of the name are mapped, the name is brought
into its normal spelling and cut into labels, and a label outside ASCII is written in Punycode
behind a mark. A label that has the mark already is read, so that it is held to the same rules:
no label starts with a combining mark, a joiner stands only where it changes how letters join, and
where letters are written from right to left every label keeps one direction.
-/

namespace GatewayConfig.Url.DomainName

open Text

/-- What a domain name cannot hold. -/
def forbidden (c : Char) : Bool :=
  c.toNat ≤ 0x20 || c.toNat == 0x7F ||
    ['%', '#', '/', ':', '<', '>', '?', '@', '[', '\\', ']', '^', '|'].contains c

/-- Whether all characters are ASCII characters. -/
def isAscii (l : List Char) : Bool := l.all (·.toNat < 128)

/-- The mark in front of a label in Punycode. -/
def aceMark : List Char := ['x', 'n', '-', '-']

/-- What follows the mark of a label in Punycode. -/
def cutAceMark? (label : List Char) : Option (List Char) :=
  if aceMark.isPrefixOf label then some (label.drop 4) else none

/-- Whether letters join across the place between two texts, the first of which is given in
reverse. -/
def joinsAcross (before after : List Char) : Bool :=
  ((before.find? fun c => !isJoinedThrough c).map joinsAfter).getD false &&
    ((after.find? fun c => !isJoinedThrough c).map joinsBefore).getD false

/-- Whether each joiner behind a text, which is given in reverse, stands where it may: behind a
virama, or, if it is the one that keeps letters apart, where letters join. -/
def joinersAllowed (before : List Char) : List Char → Bool
  | [] => true
  | c :: rest =>
    let afterVirama := (before.head?.map isVirama).getD false
    let allowed :=
      if c = '\u200c' then afterVirama || joinsAcross before rest
      else if c = '\u200d' then afterVirama
      else true
    allowed && joinersAllowed (c :: before) rest

/-- Whether a character may stand in a label that starts with a letter written from left to
right. -/
def fitsLeftToRight (c : Char) : Bool :=
  [.leftToRight, .europeanNumber, .neutral, .attached].contains (direction c)

/-- Whether a character may stand in a label that starts with a letter written from right to
left. -/
def fitsRightToLeft (c : Char) : Bool :=
  [.rightToLeft, .arabicNumber, .europeanNumber, .neutral, .attached].contains (direction c)

/-- The direction of the last character that is not attached to another one. -/
def lastDirection? (label : List Char) : Option Direction :=
  (label.map direction).reverse.find? (· != .attached)

/-- Whether a label keeps one direction: it starts with a letter, holds only what fits the
direction of that letter, and ends in a letter of that direction or in a digit. Digits of two kinds
do not stand in one label. -/
def keepsDirection (label : List Char) : Bool :=
  match label with
  | [] => true
  | first :: _ =>
    match direction first, lastDirection? label with
    | .leftToRight, some last =>
      label.all fitsLeftToRight && [.leftToRight, .europeanNumber].contains last
    | .rightToLeft, some last =>
      label.all fitsRightToLeft &&
        [.rightToLeft, .europeanNumber, .arabicNumber].contains last &&
        !(label.any (direction · == .europeanNumber) && label.any (direction · == .arabicNumber))
    | _, _ => false

/-- Whether a character makes the direction of all labels count. -/
def turnsDirection (c : Char) : Bool := [.rightToLeft, .arabicNumber].contains (direction c)

/-- Whether a label may be written in a domain name. -/
def isLabel (label : List Char) : Bool :=
  !((label.head?.map isMark).getD false) && joinersAllowed [] label

/-- The most characters of a label that has a spelling in Punycode. -/
def maxLabel : Nat := 1000

/-- The longest spelling in Punycode that is read. -/
def maxSpelling : Nat := 2000

/-- A label of a domain name. -/
structure Label where
  /-- Its characters. -/
  characters : List Char
  /-- Its spelling in ASCII. -/
  spelling : List Char
  deriving DecidableEq, Repr

/-- The label that a spelling in Punycode behind the mark stands for. It is the spelling of a
label that need not be mapped. -/
def readSpelling? (spelling : List Char) : Option Label := do
  if spelling = [] ∨ spelling.getLast? = some '-' ∨ maxSpelling < spelling.length ∨
      isAscii spelling = false then
    none
  let characters ← Punycode.decode? spelling
  if characters.length ≤ maxLabel && characters.all DomainMapping.isKept &&
      normal characters == characters && isLabel characters then
    some ⟨characters, aceMark ++ spelling⟩
  else none

/-- The label that text between two dots spells, once it is mapped. -/
def readLabel? (l : List Char) : Option Label :=
  match cutAceMark? l with
  | some spelling => readSpelling? spelling
  | none =>
    if isAscii l then some ⟨l, l⟩
    else if l.length ≤ maxLabel && isLabel l then some ⟨l, aceMark ++ Punycode.encode l⟩
    else none

/-- Whether nothing has to be mapped or read: the name is in ASCII and no label has the mark. -/
def isPlain (name : List Char) : Bool :=
  isAscii name && (name.splitOn '.').all fun label => !aceMark.isPrefixOf label

/-- The ASCII spelling of a domain name with ASCII capitals made small. -/
def spell? (name : List Char) : Option (List Char) := do
  let name := normal (← DomainMapping.map? name)
  if name.any forbidden then none
  let labels ← (name.splitOn '.').mapM readLabel?
  if labels.any (·.characters.any turnsDirection) && !labels.all (keepsDirection ·.characters) then
    none
  some (['.'].intercalate (labels.map (·.spelling)))

/-- The ASCII spelling of a domain name. -/
def toAscii? (name : List Char) : Option (List Char) :=
  let small := name.map Char.toLower
  if isPlain small then if small.any forbidden then none else some small
  else spell? small

/-- A name in ASCII has its capitals made small. -/
example : toAscii? "Example.COM".toList = some "example.com".toList := by decide +kernel

end GatewayConfig.Url.DomainName
