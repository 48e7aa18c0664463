import Polyhierarchy.Url.Basic
/-!
# Reading URLs

A text is read as an absolute URL the way browsers read it: blanks at both ends and line breaks
inside are dropped, backslashes count as slashes, `.` and `..` are resolved, and characters that may
not stand in a part are percent-encoded.

## Main definitions

* `Url.read` — the URL that a text denotes, or why it denotes none.
* `Url.readWeb` — the URL of a web page, from what follows its scheme.
* `Url.resolvePath` — the segments of a path once `.` and `..` are resolved.
-/

namespace Polyhierarchy.Url

/-! ### Preparation and scheme -/

/-- A blank or a control, which is dropped at both ends. -/
def isOuterBlank (c : Char) : Bool := c.toNat ≤ 0x20

/-- A line break or a tabulator, which is dropped wherever it stands. -/
def isDropped (c : Char) : Bool := c == '\t' || c == '\n' || c == '\r'

/-- The text without blanks at its ends and without line breaks. -/
def prepare (s : List Char) : List Char :=
  let s := s.dropWhile isOuterBlank
  ((s.reverse.dropWhile isOuterBlank).reverse).filter fun c => !isDropped c

/-- Whether a character may stand in a scheme after its first letter. -/
def isSchemeChar (c : Char) : Bool := c.isAlphanum || c == '+' || c == '-' || c == '.'

/-- The scheme of a text, in small letters, and what follows its colon. -/
def readScheme (s : List Char) : Option (List Char × List Char) :=
  let scheme := s.takeWhile isSchemeChar
  match scheme.head?, s.dropWhile isSchemeChar with
  | some c, ':' :: rest => if c.isAlpha then some (scheme.map Char.toLower, rest) else none
  | _, _ => none

/-! ### Authority -/

/-- Whether a character ends the authority; a backslash does in the schemes of the web. -/
def endsAuthority (isSpecial : Bool) (c : Char) : Bool :=
  c == '/' || c == '?' || c == '#' || (isSpecial && c == '\\')

/-- The authority that a text starts with, cut at its last `@` sign if it has one, and the rest of
the text after it. -/
def splitAuthority (isSpecial : Bool) (s : List Char) :
    Option (List Char) × List Char × List Char :=
  let authority := s.takeWhile fun c => !endsAuthority isSpecial c
  let rest := s.dropWhile fun c => !endsAuthority isSpecial c
  let afterAt := (authority.reverse.takeWhile (· != '@')).reverse
  if afterAt.length = authority.length then (none, authority, rest)
  else (some (authority.take (authority.length - afterAt.length - 1)), afterAt, rest)

/-- The encoded user name and password. -/
def readUserInfo (s : List Char) : List Char × List Char :=
  let name := s.takeWhile (· != ':')
  (percentEncode inUserInfo name, percentEncode inUserInfo (s.drop (name.length + 1)))

/-- The text of the host and that of the port: they are parted by the first colon outside
brackets. -/
def splitPort : Bool → List Char → List Char × Option (List Char)
  | _, [] => ([], none)
  | inBrackets, c :: cs =>
    if c = ':' ∧ inBrackets = false then ([], some cs)
    else
      let inBrackets := if c = '[' then true else if c = ']' then false else inBrackets
      let (host, port) := splitPort inBrackets cs
      (c :: host, port)

/-- The inside of a text that begins with a bracket. -/
def bracketed (s : List Char) : Except Fault Host :=
  match s.getLast? with
  | some ']' =>
    match Ipv6.parse? ((s.drop 1).dropLast) with
    | some a => .ok (.ipv6 a)
    | none => .error .invalidIpv6
  | _ => .error .invalidIpv6

/-- The host that a text denotes in the schemes of the web. -/
def readHost (s : List Char) : Except Fault Host :=
  if s.head? = some '[' then bracketed s
  else
    match (Text.utf8Strict? (percentDecode s)).bind domainToAscii? with
    | none => .error .invalidDomain
    | some [] => .error .emptyHost
    | some name =>
      if endsInNumber name then
        match Ipv4.parse? name with
        | some a => .ok (.ipv4 a)
        | none => .error .invalidIpv4
      else .ok (.domain name)

/-- The characters that no host holds, whatever the scheme. -/
def isForbiddenInHost (c : Char) : Bool :=
  ['\x00', '\t', '\n', '\r', ' ', '#', '/', ':', '<', '>', '?', '@', '[', '\\', ']', '^',
    '|'].contains c

/-- Checks the host of a scheme that is not of the web. -/
def checkPlainHost (s : List Char) : Except Fault Unit :=
  if s.head? = some '[' then (bracketed s).map fun _ => ()
  else if s.any isForbiddenInHost then .error .invalidHostCharacter
  else .ok ()

/-- The port that a text denotes: none if there are no digits. -/
def readPort (s : List Char) : Except Fault (Option Nat) :=
  if s.isEmpty then .ok none
  else match Text.natOfDigits? s with
    | some n => if n < UInt16.size then .ok (some n) else .error .invalidPort
    | none => .error .invalidPort

/-! ### Path, query and fragment -/

/-- A segment that stands for the directory it is in. -/
def isDot (s : List Char) : Bool :=
  let s := s.map Char.toLower
  s == ['.'] || s == "%2e".toList

/-- A segment that stands for the directory above. -/
def isDoubleDot (s : List Char) : Bool :=
  let s := s.map Char.toLower
  s == "..".toList || s == "%2e.".toList || s == ".%2e".toList || s == "%2e%2e".toList

/-- A segment that names a drive: a letter and a colon or a bar. The directory of a drive is never
left. -/
def isDrive : List Char → Bool
  | [c, d] => c.isAlpha && (d == ':' || d == '|')
  | _ => false

/-- Leaves the innermost directory of a path, given backwards, unless it is a drive. -/
def leave : List (List Char) → List (List Char)
  | [] => []
  | s :: up => if isDrive s then s :: up else up

/-- The segments of a path once `.` and `..` are resolved, given the directories entered so far,
backwards. -/
def resolvePath : List (List Char) → List (List Char) → List (List Char)
  | entered, [] => (entered.reverse ++ [[]])
  | entered, [s] =>
    if isDoubleDot s then (leave entered).reverse ++ [[]]
    else if isDot s then entered.reverse ++ [[]]
    else entered.reverse ++ [s]
  | entered, s :: rest =>
    if isDoubleDot s then resolvePath (leave entered) rest
    else if isDot s then resolvePath entered rest
    else resolvePath (s :: entered) rest

/-- Cuts a path at slashes and backslashes. -/
def splitPath : List Char → List (List Char)
  | [] => [[]]
  | c :: cs =>
    match splitPath cs with
    | [] => [[c]]
    | segment :: rest =>
      if c = '/' ∨ c = '\\' then [] :: segment :: rest else (c :: segment) :: rest

/-- The path, and what follows it. -/
def readPath (s : List Char) : List (List Char) × List Char :=
  let path := s.takeWhile fun c => c != '?' && c != '#'
  let rest := s.dropWhile fun c => c != '?' && c != '#'
  let inside := match path with
    | '/' :: p => p
    | '\\' :: p => p
    | p => p
  (resolvePath [] (splitPath (percentEncode inPath inside)), rest)

/-- The query and the fragment of what follows a path. -/
def readQuery (s : List Char) : Option (List Char) × Option (List Char) :=
  let fragmentOf := fun (r : List Char) =>
    match r with
    | '#' :: f => some (percentEncode inFragment f)
    | _ => none
  match s with
  | '?' :: q =>
    (some (percentEncode inQuery (q.takeWhile (· != '#'))), fragmentOf (q.dropWhile (· != '#')))
  | s => (none, fragmentOf s)

/-! ### URLs -/

/-- The port that a scheme of the web uses by itself. -/
def defaultPort (isSecure : Bool) : Nat := if isSecure then 443 else 80

/-- The URL of a web page, from what follows the scheme and its slashes. -/
def readWeb (isSecure : Bool) (s : List Char) : Except Fault Web := do
  let (user, hostPort, rest) := splitAuthority true s
  if user = some [] ∧ hostPort = [] ∧ rest ≠ [] then throw .emptyHost
  let (hostText, portText) := splitPort false hostPort
  if hostText = [] then throw .emptyHost
  let host ← readHost hostText
  let port ← readPort (portText.getD [])
  let (username, password) := readUserInfo (user.getD [])
  let (path, rest) := readPath rest
  let (query, fragment) := readQuery rest
  return {
    isSecure := isSecure
    username := username
    password := password
    host := host
    port := if port = some (defaultPort isSecure) then none else port
    path := path
    query := query
    fragment := fragment }

/-- Checks what follows the two slashes of a scheme that is not of the web. -/
def checkPlainAuthority (s : List Char) : Except Fault Unit := do
  let (user, hostPort, _) := splitAuthority false s
  let (hostText, portText) := splitPort false hostPort
  checkPlainHost hostText
  if hostText = [] then
    let (username, password) := readUserInfo (user.getD [])
    if portText.isSome ∨ username ≠ [] ∨ password ≠ [] then throw .emptyHost
  discard (readPort ((portText.getD []).takeWhile (· != '\\')))

/-- Checks the host of a file, if it names one. -/
def checkFile (s : List Char) : Except Fault Unit :=
  match s.map (fun c => if c = '\\' then '/' else c) with
  | '/' :: '/' :: _ =>
    let host := (s.drop 2).takeWhile fun c => !endsAuthority true c
    if host = [] ∨ isDrive host then .ok () else (readHost host).map fun _ => ()
  | _ => .ok ()

/-- The URL that a text denotes. -/
def read (s : List Char) : Except Fault Url := do
  match readScheme (prepare s) with
  | none => throw .relativeWithoutBase
  | some (scheme, rest) =>
    let afterSlashes := rest.dropWhile fun c => c == '/' || c == '\\'
    if scheme = "http".toList then
      return .web (← readWeb false afterSlashes)
    else if scheme = "https".toList then
      return .web (← readWeb true afterSlashes)
    else if ["ws".toList, "wss".toList, "ftp".toList].contains scheme then
      discard (readWeb false afterSlashes)
    else if scheme = "file".toList then
      checkFile rest
    else
      match rest with
      | '/' :: '/' :: rest => checkPlainAuthority rest
      | _ => pure ()
    return .other scheme

end Polyhierarchy.Url
