import GatewayConfig.Url.Basic
import GatewayConfig.Url.Escape

/-!
# Paths of URLs

A path is read piece by piece, a piece being what stands between two slashes, and dot segments are
resolved on the way. While it is read the path is kept last segment first: its head is the segment
that is still open, which the next piece adds to and a slash closes.

A letter with a colon or a bar behind it is the root of a drive. Under every scheme a path does not
climb out of such a root, and a path of a file that starts with one spells it with a colon.
-/

namespace GatewayConfig.Url

/-- Whether a character parts segments. A backslash does under the schemes with a fixed
meaning. -/
def isSlash (kind : SchemeKind) (c : Char) : Bool := c == '/' || (c == '\\' && kind != .other)

/-- Whether a segment names the directory itself. -/
def isDot (segment : List Char) : Bool :=
  [".", "%2e"].contains (String.ofList (segment.map Char.toLower))

/-- Whether a segment names the directory above. -/
def isDotDot (segment : List Char) : Bool :=
  ["..", ".%2e", "%2e.", "%2e%2e"].contains (String.ofList (segment.map Char.toLower))

/-- Whether a segment is a letter and a colon, or a bar in its place: the root of a drive. -/
def isDrive : List Char → Bool
  | [letter, mark] => letter.isAlpha && (mark == ':' || mark == '|')
  | _ => false

/-- Whether a segment is the root of a drive, spelled with a colon. -/
def isColonDrive : List Char → Bool
  | [letter, mark] => letter.isAlpha && mark == ':'
  | _ => false

/-- Whether a path does not climb out of this segment: the root of a drive, alone or before a
backslash. -/
def isGuarded : List Char → Bool
  | letter :: mark :: '\\' :: _ => isDrive [letter, mark]
  | segment => isDrive segment

/-- A path while it is read. -/
structure OpenPath where
  /-- Its segments, last segment first. The head is still open. -/
  segments : List String := [""]
  /-- Whether the root of a drive was found where the path starts. -/
  drive : Bool := false
  deriving DecidableEq, Repr

namespace OpenPath

/-- The path of a base, whose last segment is open. -/
def ofNames (names : List String) : OpenPath := { segments := names.reverse }

/-- The segments in their order. -/
def names (p : OpenPath) : List String := p.segments.reverse

/-- The path after a slash. -/
def close (p : OpenPath) : OpenPath := { p with segments := "" :: p.segments }

/-- Whether nothing stands behind the last slash. -/
def isClosed (p : OpenPath) : Bool := p.segments.head? == some ""

/-- The path with text added to its open segment. -/
def addText (text : String) (p : OpenPath) : OpenPath :=
  match p.segments with
  | [] => { p with segments := [text] }
  | segment :: rest => { p with segments := (segment ++ text) :: rest }

/-- The path with its last segment taken back. The root of a drive stays in a path of a file. -/
def clear (kind : SchemeKind) (p : OpenPath) : OpenPath :=
  match p.segments with
  | [] => { p with segments := [""] }
  | segment :: rest =>
    if kind = .file ∧ isColonDrive segment.toList then p else { p with segments := "" :: rest }

/-- The directory above. -/
def parent (kind : SchemeKind) (p : OpenPath) : OpenPath :=
  match p.segments with
  | segment :: above :: rest =>
    if segment ≠ "" then p.clear kind
    else if isGuarded above.toList then p
    else { p with segments := "" :: rest }
  | _ => p.clear kind

/-- The path after one more piece, without the slash behind it. -/
def addPiece (kind : SchemeKind) (p : OpenPath) (piece : List Char) : OpenPath :=
  if isDotDot piece then p.parent kind
  else if isDot piece then if p.isClosed then p else p.close
  else p.addText (.ofList (escape escapedInPath piece))

/-- A drive of a file's path that more text follows on the spot is closed first. -/
def closeDrive (p : OpenPath) : OpenPath :=
  match p.segments with
  | [segment] => if isColonDrive segment.toList then p.close else p
  | _ => p

/-- The root of a drive and what follows it, where only a line end parts the two. -/
def brokenDrive? (piece : List Char) : Option (List Char × List Char) :=
  match dropLineBreaks piece with
  | letter :: ':' :: c :: rest =>
    if letter.isAlpha ∧ (((piece.dropWhile (· != ':')).drop 1).head?.map isLineBreak) = some true
    then some ([letter, ':'], c :: rest)
    else none
  | _ => none

/-- The path of a file after one more piece. Where the path starts, the root of a drive is spelled
with a colon, and a line end behind it acts as a slash, after which nothing is a dot segment. Other
line ends do not count. -/
def addFilePiece (p : OpenPath) (piece : List Char) : OpenPath :=
  let text := dropLineBreaks piece
  if p.segments = [""] then
    match brokenDrive? piece with
    | some (drive, rest) =>
      { p with segments := [.ofList (escape escapedInPath rest), .ofList drive] }
    | none =>
      if isDrive text then { segments := [.ofList (text.take 1 ++ [':'])], drive := true }
      else p.addPiece .file text
  else if text = [] then p
  else p.closeDrive.addPiece .file text

/-- The path after one more piece of a URL of some kind. -/
def addPieceOf (kind : SchemeKind) (p : OpenPath) (piece : List Char) : OpenPath :=
  if kind = .file then p.addFilePiece piece else p.addPiece kind (dropLineBreaks piece)

/-- The path after more pieces with a slash between neighbours. The slash after a dot segment adds
nothing to a path that ends in a slash already. -/
def addPieces (kind : SchemeKind) (p : OpenPath) : List (List Char) → OpenPath
  | [] => p
  | [piece] => p.addPieceOf kind piece
  | piece :: rest =>
    let text := dropLineBreaks piece
    let next := p.addPieceOf kind piece
    addPieces kind
      (if (isDotDot text || isDot text) && next.isClosed then next else next.close) rest

/-- The path after more text. -/
def add (kind : SchemeKind) (p : OpenPath) (l : List Char) : OpenPath :=
  p.addPieces kind (l.splitOnP (isSlash kind))

end OpenPath

/-- The path that text after the authority spells. -/
def absolutePath (kind : SchemeKind) (l : List Char) : List String :=
  match l with
  | c :: rest => (OpenPath.add kind {} (if isSlash kind c then rest else l)).names
  | [] => [""]

/-- A path beside the path of a base, whose last segment it replaces. -/
def siblingPath (kind : SchemeKind) (base : List String) (l : List Char) : List String :=
  (((OpenPath.ofNames base).clear kind).add kind l).names

/-- A path of a file starts with no empty segment unless that is its only one. -/
def trimPath (names : List String) : List String :=
  match names.dropWhile (· = "") with
  | [] => [""]
  | names => names

/-- A path does not climb above its root, whatever it holds. -/
example : absolutePath .special "/a/./b/../../../c".toList = ["c"] := by decide +kernel

/-- A path does not climb out of a drive. -/
example : absolutePath .special "/a/c:/../x".toList = ["a", "c:", "x"] := by decide +kernel

/-- The root of a drive at the start of the path of a file is spelled with a colon. -/
example : absolutePath .file "/C|/x".toList = ["C:", "x"] := by decide +kernel

end GatewayConfig.Url
