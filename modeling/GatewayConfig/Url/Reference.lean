import GatewayConfig.Text.Case
import GatewayConfig.Url.Host
import GatewayConfig.Url.Path

/-!
# URL references

A reference is a URL, or text that becomes one beside a base. `Url.parse` reads a URL that stands
alone and `Url.join` one beside a base: blanks around the text and line ends inside it do not
count, a path that starts with a slash replaces the whole path of the base, and a relative path
replaces its last segment.
-/

namespace GatewayConfig.Url

/-- What follows the scheme and the authority of a reference. -/
structure Rest where
  /-- Authority and path. -/
  body : List Char
  /-- The query, when there is a question mark. -/
  query : Option (List Char)
  /-- The fragment, when there is a number sign. -/
  fragment : Option (List Char)

/-- What stands before the first mark, and after it if there is one. -/
def cutMark (mark : Char) (l : List Char) : List Char × Option (List Char) :=
  match Text.cutChars? mark l with
  | some (before, after) => (before, some after)
  | none => (l, none)

/-- The number sign ends everything and the question mark ends the path. -/
def Rest.ofChars (l : List Char) : Rest :=
  let (shown, fragment) := cutMark '#' l
  let (body, query) := cutMark '?' shown
  ⟨body, query, fragment⟩

/-- The reference without the line ends in its authority and path. -/
def Rest.joined (r : Rest) : Rest := { r with body := dropLineBreaks r.body }

/-- The text without the blanks around it. -/
def trimmed (s : String) : List Char :=
  let dull (c : Char) := decide (c.toNat ≤ 0x20)
  ((s.toList.dropWhile dull).reverse.dropWhile dull).reverse

/-- Whether a character can stand in a scheme after its first letter. -/
def isSchemeChar (c : Char) : Bool := c.isAlphanum || ['+', '-', '.'].contains c

/-- The scheme of a reference and what follows its colon. -/
def cutScheme? (l : List Char) : Option (String × List Char) :=
  match Text.cutChars? ':' l with
  | some (name, rest) =>
    match dropLineBreaks name with
    | c :: name =>
      if c.isAlpha && name.all isSchemeChar then some (Text.lower (.ofList (c :: name)), rest)
      else none
    | [] => none
  | none => none

/-- The user part and what follows the last at sign. -/
def cutUser (l : List Char) : Option (List Char) × List Char :=
  match Text.cutChars? '@' l.reverse with
  | some (after, before) => (some before.reverse, after.reverse)
  | none => (none, l)

/-- The user name and the password, escaped, without an empty password. -/
def userinfoText (l : List Char) : String :=
  match cutMark ':' l with
  | (name, some (c :: password)) =>
    .ofList (escape escapedInUserinfo name ++ ':' :: escape escapedInUserinfo (c :: password))
  | (name, _) => .ofList (escape escapedInUserinfo name)

/-- The host, and what follows the colon after it. A colon in brackets belongs to the host. -/
def cutHost : Bool → List Char → List Char × Option (List Char)
  | _, [] => ([], none)
  | inside, c :: rest =>
    if c = ':' ∧ inside = false then ([], some rest)
    else
      let inside := if c = '[' then true else if c = ']' then false else inside
      let (host, number) := cutHost inside rest
      (c :: host, number)

/-- The TCP number, unless it is missing or that of the scheme, and what a backslash behind it
starts. -/
def readPortNumber (scheme : String) : Option (List Char) → Except Fault (Option Nat × List Char)
  | none => .ok (none, [])
  | some l =>
    let (digits, after) := (l.takeWhile Char.isDigit, l.dropWhile Char.isDigit)
    match digitsValue? 10 digits with
    | some n =>
      if n < 65536 ∧ (after.isEmpty ∨ after.head? = some '\\') then
        .ok (if digits.isEmpty ∨ defaultPortNumber? scheme = some n then none else some n, after)
      else .error .portNumber
    | none => .error .portNumber

/-- The authority that the text between two slashes and the path spells, and what a backslash
behind its TCP number starts. The user part may be blank, but where more follows the host then
has to be there. -/
def readAuthority (scheme : String) (isLast : Bool) (l : List Char) :
    Except Fault (Authority × List Char) := do
  let kind := SchemeKind.ofScheme scheme
  let (user, place) := cutUser l
  let userinfo := ((user.map userinfoText).getD "")
  let (host, number) := cutHost false place
  let lonely := user = some [] ∧ place = [] ∧ isLast = false
  if host.isEmpty ∧ (kind = .special ∨ number.isSome ∨ userinfo ≠ "" ∨ lonely) then
    throw .emptyHost
  let host ← readHost kind host
  let (portNumber, after) ← readPortNumber scheme number
  return ({ userinfo, host, portNumber }, after)

/-- The URL that an authority and a path after two slashes spell. -/
def afterSlashes (scheme : String) (rest : Rest) : Except Fault Url := do
  let kind := SchemeKind.ofScheme scheme
  let (name, path) := rest.body.span fun c => !isSlash kind c
  let isLast := path.isEmpty && rest.query.isNone && rest.fragment.isNone
  let (authority, after) ← readAuthority scheme isLast name
  let path := after ++ path
  let names := if kind = .other ∧ path = [] then [] else absolutePath kind path
  return { scheme, authority := some authority, path := .segments names }

/-- What follows a slash. -/
def cutSlash? (l : List Char) : Option (List Char) :=
  match l.dropWhile isLineBreak with
  | c :: rest => if isSlash .file c then some rest else none
  | [] => none

/-- Whether the text of a path starts with the root of a drive. -/
def startsWithDrive (l : List Char) : Bool :=
  match dropLineBreaks l with
  | letter :: mark :: rest =>
    isDrive [letter, mark] && (rest.head?.map (isSlash .file)).getD true
  | _ => false

/-- The URL of a file on a host. -/
def fileUrl (host : Host) (names : List String) : Url :=
  { scheme := "file", authority := some { host }, path := .segments (trimPath names) }

/-- The host of a file. Neither a host without a name nor the local host is written. -/
def fileHost (l : List Char) : Except Fault Host := do
  if l.isEmpty then return .domain ""
  let host ← readHost .file l
  return if host = .domain "localhost" then .domain "" else host

/-- The URL of a file that two slashes start. The root of a drive is no host, and behind a host it
takes the place of the host. Without a host the path starts with an empty segment, so that no drive
stands where it starts. -/
def fileAfterSlashes (l : List Char) : Except Fault Url := do
  let (name, path) := l.span fun c => !isSlash .file c
  let name := dropLineBreaks name
  if isDrive name then return fileUrl (.domain "") (OpenPath.add .file {} l).names
  let host ← fileHost name
  if host = .domain "" then return fileUrl host (OpenPath.add .file {} path).names
  let path := OpenPath.add .file {} (path.drop 1)
  return fileUrl (if path.drive then .domain "" else host) path.names

/-- The segments of a path that has them. -/
def segmentsOf (u : Url) : List String :=
  match u.path with
  | .segments names => names
  | .verbatim _ => []

/-- The host of a base. -/
def hostOf (u : Url) : Host := (u.authority.map (·.host)).getD (.domain "")

/-- The URL of a file whose path one slash starts. A base lends its drive, or else its host. -/
def fileAfterSlash (base : Option Url) (l : List Char) : Url :=
  let lent := if startsWithDrive l then none else base
  let root := (lent.bind fun u => u.segmentsOf.head?).filter (isColonDrive ·.toList)
  match root with
  | some root => fileUrl (.domain "") ((OpenPath.ofNames [root]).close.add .file l).names
  | none => fileUrl ((lent.map hostOf).getD (.domain "")) (OpenPath.add .file {} l).names

/-- The URL of a file. A path that no slash starts is beside that of a base, unless it starts with
the root of a drive. -/
def readFile (base : Option Url) (body : List Char) : Except Fault Url :=
  match cutSlash? body with
  | some after =>
    match cutSlash? after with
    | some after => fileAfterSlashes after
    | none => .ok (fileAfterSlash base after)
  | none =>
    match if startsWithDrive body then none else base with
    | some u => .ok (fileUrl u.hostOf (siblingPath .file u.segmentsOf body))
    | none => .ok (fileUrl (.domain "") (OpenPath.add .file {} body).names)

/-- The URL with the query and the fragment of a reference. -/
def withRest (u : Url) (rest : Rest) : Url :=
  let special := SchemeKind.ofScheme u.scheme != .other
  { u with
    query := rest.query.map fun q => .ofList (escape (escapedInQuery special) (dropLineBreaks q))
    fragment := rest.fragment.map fun f => .ofList (escape escapedInFragment (dropLineBreaks f)) }

/-- What follows the two slashes that start an authority. Where one of them is a backslash, more
slashes may follow. -/
def afterMark? : List Char → Option (List Char)
  | '/' :: '/' :: rest => some rest
  | c :: d :: rest =>
    if isSlash .special c && isSlash .special d then some (rest.dropWhile (isSlash .special))
    else none
  | _ => none

/-- A reference without a scheme of its own, beside a base with a path of segments. -/
def beside (base : Url) (rest : Rest) : Except Fault Url :=
  let kind := SchemeKind.ofScheme base.scheme
  match rest.body with
  | [] =>
    if rest.query.isSome then .ok (base.withRest rest)
    else .ok { base.withRest rest with query := base.query }
  | c :: body =>
    match afterMark? (c :: body) with
    | some body => (afterSlashes base.scheme { rest with body }).map (·.withRest rest)
    | none =>
      let names :=
        if isSlash .special c then absolutePath kind ('/' :: body)
        else siblingPath kind base.segmentsOf (c :: body)
      .ok ({ base with path := .segments names }.withRest rest)

/-- Whether a base has no path of segments. -/
def isRigid (u : Url) : Bool :=
  match u.path with
  | .verbatim _ => true
  | .segments _ => false

/-- A reference to a file. What it leaves out is that of a base, if it is one of a file. -/
def readFileReference (base : Option Url) (rest : Rest) : Except Fault Url :=
  match base.filter (·.scheme == "file"), dropLineBreaks rest.body with
  | some u, [] => beside u rest.joined
  | known?, _ => (readFile known? rest.body).map (·.withRest rest)

/-- A reference without a scheme. Beside a base without structure only its fragment can
change. -/
def readRelative (base : Url) (rest : Rest) : Except Fault Url :=
  if base.isRigid then
    if rest.joined.body.isEmpty ∧ rest.query.isNone ∧ rest.fragment.isSome then
      .ok { base.withRest rest with query := base.query }
    else .error .rigidBase
  else if base.scheme = "file" then readFileReference (some base) rest
  else beside base rest.joined

/-- A reference with a scheme of a fixed meaning. Fewer than two slashes after the scheme of the
base make it relative. -/
def readSpecial (base : Option Url) (scheme : String) (rest : Rest) : Except Fault Url :=
  let slashes := (rest.body.takeWhile (isSlash .special)).length
  match base.filter fun u => u.scheme == scheme && slashes < 2 with
  | some u => beside u rest
  | none => (afterSlashes scheme { rest with body := rest.body.drop slashes }).map (·.withRest rest)

/-- A reference with a scheme of no fixed meaning. -/
def readOther (scheme : String) (rest : Rest) : Except Fault Url :=
  match rest.body with
  | '/' :: '/' :: body => (afterSlashes scheme { rest with body }).map (·.withRest rest)
  | '/' :: body =>
    let url : Url :=
      { scheme, authority := none, path := .segments (OpenPath.add .other {} body).names }
    .ok (url.withRest rest)
  | body =>
    let text := String.ofList (escape escapedEverywhere body)
    let url : Url := { scheme, authority := none, path := .verbatim text }
    .ok (url.withRest rest)

/-- The URL that a reference denotes beside an optional base. -/
def resolve (base : Option Url) (s : String) : Except Fault Url :=
  let l := trimmed s
  match cutScheme? l with
  | some (scheme, after) =>
    let rest := Rest.ofChars after
    match SchemeKind.ofScheme scheme with
    | .file => readFileReference base rest
    | .special => readSpecial base scheme rest.joined
    | .other => readOther scheme rest.joined
  | none =>
    match base with
    | some u => readRelative u (.ofChars l)
    | none => .error .noBase

/-- The URL that a text denotes by itself. -/
def parse (s : String) : Except Fault Url := resolve none s

/-- The URL that a text denotes beside a base. -/
def join (base : Url) (s : String) : Except Fault Url := resolve (some base) s

/-- The URL with another query. -/
def withQuery (u : Url) (query : String) : Url :=
  let special := SchemeKind.ofScheme u.scheme != .other
  { u with query := some (.ofList (escape (escapedInQuery special) (dropLineBreaks query.toList))) }

end GatewayConfig.Url
