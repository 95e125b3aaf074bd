import GatewayConfig.Text.Split

/-!
# URLs

A URL in normal form: every component is escaped already, the host is in its canonical spelling,
and a `portNumber` is present only where it differs from the scheme's own. `toText` writes the URL
and `target` writes what a request for it names: path and query without the fragment.
-/

namespace GatewayConfig

/-- How the rest of a URL is read depends on its scheme. -/
inductive SchemeKind where
  /-- The scheme of files, whose host may be empty. -/
  | file
  /-- The schemes with a fixed meaning and a host that cannot be empty. -/
  | special
  /-- Any other scheme. -/
  | other
  deriving DecidableEq, Repr

/-- Where a URL points. -/
inductive Host where
  /-- A domain name, or the empty host of a file. -/
  | domain (name : String)
  /-- Four bytes. -/
  | ipv4 (address : List Nat)
  /-- Eight pieces of sixteen bits. -/
  | ipv6 (pieces : List Nat)
  deriving DecidableEq, Repr

/-- The part of a URL after two slashes. -/
structure Authority where
  /-- The user name and the password, escaped; empty when there is neither. -/
  userinfo : String := ""
  /-- The host. -/
  host : Host
  /-- The TCP number of the service, when it is not that of the scheme. -/
  portNumber : Option Nat := none
  deriving DecidableEq, Repr

/-- The path of a URL. -/
inductive UrlPath where
  /-- A path of segments, each after a slash. -/
  | segments (names : List String)
  /-- Text without structure, to which nothing can be relative. -/
  | verbatim (text : String)
  deriving DecidableEq, Repr

/-- A URL in normal form. -/
structure Url where
  /-- The scheme in small letters, without its colon. -/
  scheme : String
  /-- User, host and `portNumber`. -/
  authority : Option Authority
  /-- The path. -/
  path : UrlPath
  /-- The query without its question mark. -/
  query : Option String := none
  /-- The fragment without its number sign. -/
  fragment : Option String := none
  deriving DecidableEq, Repr

/-- The kind of a scheme. -/
def SchemeKind.ofScheme (scheme : String) : SchemeKind :=
  if scheme = "file" then file
  else if ["http", "https", "ws", "wss", "ftp"].contains scheme then special
  else other

/-- The TCP number that a scheme implies. -/
def defaultPortNumber? (scheme : String) : Option Nat :=
  if scheme = "http" ∨ scheme = "ws" then some 80
  else if scheme = "https" ∨ scheme = "wss" then some 443
  else if scheme = "ftp" then some 21
  else none

namespace Host

/-- The number of zeros that a list starts with. -/
def zeroRun (pieces : List Nat) : Nat := (pieces.takeWhile (· == 0)).length

/-- Start and length of the first of the longest runs of zeros. -/
def longestZeroRun (pieces : List Nat) : Nat × Nat :=
  (List.range pieces.length).foldl (fun best i =>
    let n := zeroRun (pieces.drop i)
    if best.2 < n then (i, n) else best) (0, 0)

/-- Pieces in hexadecimal with a colon between neighbours. -/
def pieceText (pieces : List Nat) : String :=
  Text.join ':' (pieces.map fun n => .ofList (Nat.toDigits 16 n))

/-- Eight pieces, the longest run of two or more zeros left out. -/
def ipv6Text (pieces : List Nat) : String :=
  let (start, length) := longestZeroRun pieces
  if length < 2 then pieceText pieces
  else pieceText (pieces.take start) ++ "::" ++ pieceText (pieces.drop (start + length))

/-- The host as a URL spells it. -/
def toText : Host → String
  | domain name => name
  | ipv4 address => Text.join '.' (address.map toString)
  | ipv6 pieces => "[" ++ ipv6Text pieces ++ "]"

end Host

/-- The authority as a URL spells it, without its slashes. -/
def Authority.toText (a : Authority) : String :=
  (if a.userinfo = "" then "" else a.userinfo ++ "@") ++ a.host.toText ++
    (match a.portNumber with
      | some n => ":" ++ toString n
      | none => "")

/-- The path as a URL spells it. -/
def UrlPath.toText : UrlPath → String
  | segments names => String.join (names.map ("/" ++ ·))
  | verbatim text => text

namespace Url

/-- A query with its question mark. -/
def queryText (u : Url) : String :=
  match u.query with
  | some q => "?" ++ q
  | none => ""

/-- What stands between the scheme and the path. A path that starts with an empty segment is
kept apart from the two slashes of an authority. -/
def beforePath (u : Url) : String :=
  match u.authority, u.path with
  | some a, _ => "//" ++ a.toText
  | none, .segments ("" :: _ :: _) => "/."
  | none, _ => ""

/-- The URL as text. -/
def toText (u : Url) : String :=
  u.scheme ++ ":" ++ u.beforePath ++ u.path.toText ++ u.queryText ++
    (match u.fragment with
      | some f => "#" ++ f
      | none => "")

/-- What a request for the URL names: its path and its query. -/
def target (u : Url) : String := u.path.toText ++ u.queryText

end Url

end GatewayConfig
