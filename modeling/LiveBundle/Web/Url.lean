import LiveBundle.Web.Host

/-!
# URLs

Reading URLs and following relative references, as browsers do it: tabs and line breaks are passed
over, backslashes count as slashes in web addresses, dot segments are resolved, and what may not
stand in a part of a URL is percent encoded.

* `Url.parse` reads an absolute URL, `Url.join` follows a reference, `Url.text` writes a URL.
-/

namespace LiveBundle.Web

/-- The part of a URL that tells where it is served. -/
structure Authority where
  /-- The user name and the password, each in encoded form. -/
  user : List Char
  password : List Char
  host : Host
  /-- The port, unless it is the usual one of the scheme. -/
  port : Option Nat
deriving DecidableEq, Repr

/-- The path of a URL. -/
inductive UrlPath where
  /-- A path without structure, behind a scheme without slashes. -/
  | opaqueText (text : List Char)
  | segments (parts : List (List Char))
deriving DecidableEq, Repr

/-- A URL in its normal form. -/
structure Url where
  scheme : List Char
  authority : Option Authority
  path : UrlPath
  query : Option (List Char)
  fragment : Option (List Char)
deriving DecidableEq, Repr

namespace Url

/-! ## Schemes -/

/-- How the text behind a scheme is read. -/
inductive Kind where
  /-- Web addresses and the like, which always have a host. -/
  | web
  | file
  | other
deriving DecidableEq, Repr

/-- The usual ports of web schemes. -/
def usualPorts : List (List Char × Nat) := [
  (['h', 't', 't', 'p'], 80), (['h', 't', 't', 'p', 's'], 443), (['w', 's'], 80),
  (['w', 's', 's'], 443), (['f', 't', 'p'], 21)]

/-- The scheme of files. -/
def fileScheme : List Char := ['f', 'i', 'l', 'e']

/-- The kind of a scheme. -/
def kindOf (scheme : List Char) : Kind :=
  if usualPorts.any (·.1 == scheme) then .web
  else if scheme == fileScheme then .file
  else .other

/-- Whether backslashes count as slashes. -/
def Kind.isSpecial : Kind → Bool
  | .other => false
  | _ => true

/-- The usual port of a scheme. -/
def usualPort? (scheme : List Char) : Option Nat := usualPorts.lookup scheme

/-- A slash, or a backslash where it counts as one. -/
def isSlash (kind : Kind) (c : Char) : Bool := c == '/' || (kind.isSpecial && c == '\\')

/-! ## What is encoded where -/

/-- Characters that may stay in a fragment. -/
def keptInFragment (c : Char) : Bool :=
  !Host.isControl c && !([' ', '"', '<', '>', Char.ofNat 96].contains c)

/-- Characters that may stay in a query. -/
def keptInQuery (kind : Kind) (c : Char) : Bool :=
  !Host.isControl c && !([' ', '"', '#', '<', '>'].contains c) && !(kind.isSpecial && c == '\'')

/-- Characters that may stay in a path. -/
def keptInPath (c : Char) : Bool :=
  keptInFragment c && !(['#', '?', '\x7b', '\x7d'].contains c)

/-- Characters that may stay in a user name or a password. -/
def keptInUser (c : Char) : Bool :=
  keptInPath c && !(['/', ':', ';', '=', '@', '[', '\\', ']', '^', '|'].contains c)

/-! ## Reading the parts -/

/-- The text without controls and blanks at its ends, and without tabs and line breaks. -/
def normalInput (s : List Char) : List Char :=
  let trimmed := ((s.dropWhile (·.toNat ≤ 0x20)).reverse.dropWhile (·.toNat ≤ 0x20)).reverse
  trimmed.filter fun c => c != '\t' && c != '\n' && c != '\r'

/-- The scheme in lower case and the text behind its colon. -/
def scheme? (s : List Char) : Option (List Char × List Char) :=
  match s with
  | c :: _ =>
    let name := s.takeWhile fun c => Text.isAsciiAlphanumeric c || ['+', '-', '.'].contains c
    match s.drop name.length with
    | ':' :: rest => if c.isAlpha then some (name.map Char.toLower, rest) else none
    | _ => none
  | [] => none

/-- Cuts off a query and a fragment. -/
def splitTail (s : List Char) : List Char × List Char :=
  (s.takeWhile fun c => c != '?' && c != '#', s.dropWhile fun c => c != '?' && c != '#')

/-- The query and the fragment in a text that starts with one of them or is empty. -/
def readTail (kind : Kind) : List Char → Option (List Char) × Option (List Char)
  | '#' :: fragment => (none, some (Percent.encode keptInFragment fragment))
  | '?' :: rest =>
    let query := Percent.encode (keptInQuery kind) (rest.takeWhile (· != '#'))
    match rest.dropWhile (· != '#') with
    | _ :: fragment => (some query, some (Percent.encode keptInFragment fragment))
    | [] => (some query, none)
  | _ => (none, none)

/-- A segment that means the directory itself. -/
def isSingleDot (segment : List Char) : Bool :=
  let s := segment.map Char.toLower
  s == ['.'] || s == ['%', '2', 'e']

/-- A segment that means the directory above. -/
def isDoubleDot (segment : List Char) : Bool :=
  let s := segment.map Char.toLower
  s == ['.', '.'] || s == ['.', '%', '2', 'e'] || s == ['%', '2', 'e', '.'] ||
    s == ['%', '2', 'e', '%', '2', 'e']

/-- A drive letter with its colon. -/
def isDriveLetter (segment : List Char) : Bool :=
  match segment with
  | [c, ':'] => c.isAlpha
  | _ => false

/-- Removes the last segment; the drive letter of a file stays. -/
def shorten (kind : Kind) : List (List Char) → List (List Char)
  | [] => []
  | [only] => if kind = .file && isDriveLetter only then [only] else []
  | a :: b :: rest => a :: shorten .other (b :: rest)

/-- Cuts a text at its slashes. -/
def splitSlashes (kind : Kind) : List Char → List (List Char)
  | [] => [[]]
  | c :: cs =>
    match splitSlashes kind cs with
    | [] => [[c]]
    | s :: ss => if isSlash kind c then [] :: s :: ss else (c :: s) :: ss

/-- Follows the segments of a reference from a list of segments. A dot segment at the end leaves an
empty one. -/
def follow (kind : Kind) : List (List Char) → List (List Char) → List (List Char)
  | path, [] => path
  | path, segment :: rest =>
    if isDoubleDot segment then
      let path := shorten kind path
      follow kind (if rest.isEmpty then path ++ [[]] else path) rest
    else if isSingleDot segment then
      follow kind (if rest.isEmpty then path ++ [[]] else path) rest
    else follow kind (path ++ [Percent.encode keptInPath segment]) rest

/-- The segments of the path in a text, seen from some segments. -/
def readPath (kind : Kind) (start : List (List Char)) (s : List Char) : List (List Char) :=
  follow kind start (splitSlashes kind s)

/-- The user name and the password in the text before the last `@`. A password counts if it is not
empty. -/
def readUser (s : List Char) : List Char × List Char :=
  let encode := Percent.encode keptInUser
  match Text.splitAt? ':' s with
  | some (user, password) => (encode user, encode password)
  | none => (encode s, [])

/-- A port; the usual one counts as none. -/
def readPort (scheme digits : List Char) : Except UrlFault (Option Nat) :=
  if digits.all Char.isDigit then
    let port := digits.foldl (fun n c => n * 10 + Text.hexValue c) 0
    if 0xFFFF < port then .error .invalidPort
    else if digits.isEmpty || usualPort? scheme = some port then .ok none
    else .ok (some port)
  else .error .invalidPort

/-- The text of a host and the text behind it. A colon between brackets belongs to the host. -/
def splitHost : Bool → List Char → List Char × List Char
  | _, [] => ([], [])
  | inside, c :: cs =>
    if c = ':' && !inside then ([], c :: cs)
    else
      let inside := if c = '[' then true else if c = ']' then false else inside
      let (host, rest) := splitHost inside cs
      (c :: host, rest)

/-- Reads the text between the two slashes and the path. -/
def readAuthority (scheme : List Char) (s : List Char) : Except UrlFault Authority := do
  let kind := kindOf scheme
  let (user, rest) := (Text.splitAtLast? '@' s).getD ([], s)
  if s.contains '@' && user.isEmpty && rest.isEmpty then throw .emptyHost
  let (host, port) := splitHost false rest
  if kind = .web && host.isEmpty then throw .emptyHost
  let host ← if kind = .web then Host.parse host else Host.parseOpaque host
  if host = .domain [] && !port.isEmpty then throw .emptyHost
  let port ← readPort scheme (port.drop 1)
  let (user, password) := readUser user
  if host = .domain [] && !(user.isEmpty && password.isEmpty) then throw .emptyHost
  pure { user, password, host, port }

/-- The text of an authority and the text behind it. -/
def splitAuthority (kind : Kind) (s : List Char) : List Char × List Char :=
  let ends (c : Char) : Bool := isSlash kind c || c == '?' || c == '#'
  (s.takeWhile (!ends ·), s.dropWhile (!ends ·))

/-- The segments of the path in the text behind an authority. -/
def pathBehind (kind : Kind) : List Char → List (List Char)
  | [] => if kind.isSpecial then [[]] else []
  | c :: cs => if isSlash kind c then readPath kind [] cs else readPath kind [] (c :: cs)

/-- Reads the text behind the slashes of an authority. -/
def readBehindSlashes (scheme : List Char) (s : List Char) : Except UrlFault Url := do
  let kind := kindOf scheme
  let (authority, rest) := splitAuthority kind s
  let authority ← readAuthority scheme authority
  let (path, tail) := splitTail rest
  let (query, fragment) := readTail kind tail
  pure { scheme, authority := some authority, path := .segments (pathBehind kind path), query,
         fragment }

/-- The authority of a file without a host. -/
def localAuthority : Authority := ⟨[], [], .domain [], none⟩

/-- The host of a file; `localhost` and a drive letter mean none. -/
def readFileAuthority (host : List Char) : Except UrlFault Authority :=
  if host.isEmpty then .ok localAuthority
  else match Host.parse host with
    | .ok host =>
      if host = .domain "localhost".toList then .ok localAuthority
      else .ok { localAuthority with host }
    | .error e => .error e

/-- Segments without the empty ones in front, one segment at least. -/
def dropEmptyFront : List (List Char) → List (List Char)
  | [] => [[]]
  | [s] => [s]
  | s :: t :: rest => if s.isEmpty then dropEmptyFront (t :: rest) else s :: t :: rest

/-- The URL of a file with an authority and the text of a path. -/
def fileUrl (authority : Authority) (start : List (List Char)) (s : List Char) : Url :=
  let (path, tail) := splitTail s
  let (query, fragment) := readTail .file tail
  { scheme := fileScheme, authority := some authority
    path := .segments (dropEmptyFront (readPath .file start path)), query, fragment }

/-- Reads the text behind the scheme of a file, or a reference that starts with a slash. -/
def readFile (base : Authority) (s : List Char) : Except UrlFault Url :=
  match s with
  | a :: b :: rest =>
    if isSlash .file a && isSlash .file b then do
      let (host, behind) := splitAuthority .file rest
      if isDriveLetter host then pure (fileUrl localAuthority [] rest)
      else
        let authority ← readFileAuthority host
        pure (fileUrl authority [] (behind.drop 1))
    else if isSlash .file a then .ok (fileUrl base [] (b :: rest))
    else .ok (fileUrl base [] s)
  | [a] => .ok (fileUrl base [] (if isSlash .file a then [] else s))
  | [] => .ok (fileUrl base [] [])

/-- Reads the text behind a scheme that is no web scheme. -/
def readOther (scheme : List Char) (s : List Char) : Except UrlFault Url :=
  match s with
  | '/' :: '/' :: rest => readBehindSlashes scheme rest
  | _ =>
    let (path, tail) := splitTail s
    let (query, fragment) := readTail .other tail
    let path := match path with
      | '/' :: rest => .segments (readPath .other [] rest)
      | _ => .opaqueText (Percent.encode (!Host.isControl ·) path)
    .ok { scheme, authority := none, path, query, fragment }

/-- Reads an absolute URL. -/
def parse (s : String) : Except UrlFault Url :=
  match scheme? (normalInput s.toList) with
  | none => .error .relativeWithoutBase
  | some (scheme, rest) =>
    match kindOf scheme with
    | .web => readBehindSlashes scheme (rest.dropWhile (isSlash .web))
    | .file => readFile localAuthority rest
    | .other => readOther scheme rest

/-! ## References -/

/-- The segments of the path; a path without structure has none. -/
def pathSegments (u : Url) : List (List Char) :=
  match u.path with
  | .segments parts => parts
  | .opaqueText _ => []

/-- The URL of a path below an authority. -/
def withPath (base : Url) (start : List (List Char)) (s : List Char) : Url :=
  let kind := kindOf base.scheme
  let (path, tail) := splitTail s
  let (query, fragment) := readTail kind tail
  let segments := readPath kind start path
  { base with path := .segments (if kind = .file then dropEmptyFront segments else segments), query,
              fragment }

/-- Follows a reference that starts with a path or with slashes. -/
def followPath (base : Url) (s : List Char) : Except UrlFault Url :=
  let kind := kindOf base.scheme
  match s with
  | a :: rest =>
    if a = '/' || a = '\\' then
      match rest with
      | b :: behind =>
        if b = '/' || b = '\\' then
          if kind = .file then readFile localAuthority s
          else if a = '/' && b = '/' then readBehindSlashes base.scheme behind
          else readBehindSlashes base.scheme (s.dropWhile fun c => c = '/' || c = '\\')
        else .ok (withPath base [] rest)
      | [] => .ok (withPath base [] [])
    else .ok (withPath base (shorten kind base.pathSegments) s)
  | [] => .ok { base with fragment := none }

/-- Follows a reference from a URL. -/
def join (base : Url) (reference : String) : Except UrlFault Url :=
  let s := normalInput reference.toList
  match scheme? s with
  | some _ => parse reference
  | none =>
    let kind := kindOf base.scheme
    match s, base.path with
    | '#' :: fragment, _ =>
      .ok { base with fragment := some (Percent.encode keptInFragment fragment) }
    | _, .opaqueText _ => .error .relativeWithOpaqueBase
    | '?' :: _, _ =>
      let (query, fragment) := readTail kind s
      .ok { base with query, fragment }
    | _, _ => followPath base s

/-! ## Writing -/

/-- A user name and a password in front of a host. -/
def userText (a : Authority) : List Char :=
  if a.user.isEmpty && a.password.isEmpty then []
  else if a.password.isEmpty then a.user ++ ['@']
  else a.user ++ ':' :: a.password ++ ['@']

/-- An authority with its two slashes. -/
def authorityText (a : Authority) : List Char :=
  let port := match a.port with
    | some port => ':' :: (toString port).toList
    | none => []
  '/' :: '/' :: userText a ++ a.host.text ++ port

/-- The text of a path. Without an authority, a path must not start like one. -/
def pathText (hasAuthority : Bool) : UrlPath → List Char
  | .opaqueText text => text
  | .segments parts =>
    let text := parts.flatMap ('/' :: ·)
    if !hasAuthority && parts.head? = some [] && 1 < parts.length then '/' :: '.' :: text else text

/-- A part behind its mark, if there is one. -/
def markedPart (mark : Char) : Option (List Char) → List Char
  | some text => mark :: text
  | none => []

/-- A URL in its normal form. -/
def text (u : Url) : String :=
  String.ofList (u.scheme ++ ':' :: ((u.authority.map authorityText).getD [] ++
    pathText u.authority.isSome u.path ++ markedPart '?' u.query ++ markedPart '#' u.fragment))

end Url

end LiveBundle.Web
