import AvroLink.Url.Host

/-!
# URLs

A URL is read once into its parts, which are kept in their written form. The path is a list of
segments, or a plain text when the scheme is followed by no slash; `below` adds segments to it, each
as one segment whatever characters it has. A segment that names a drive is not left on the way up.
-/

namespace AvroLink

inductive UrlPath where
  | segments (segments : List String)
  | plain (text : String)
  deriving DecidableEq, Repr

structure Authority where
  user : String
  password : String
  host : String
  portNumber : Option Nat
  deriving DecidableEq, Repr

structure Url where
  scheme : String
  authority : Option Authority
  /-- Whether `/.` stands before the path, which would read as a host otherwise. -/
  guarded : Bool
  path : UrlPath
  query : Option String
  fragment : Option String
  deriving DecidableEq, Repr

def UrlPath.text : UrlPath → String
  | segments ss => String.join (ss.map ("/" ++ ·))
  | plain t => t

def Authority.text (a : Authority) : String :=
  let password := if a.password = "" then "" else ":" ++ a.password
  let user := if a.user = "" ∧ a.password = "" then "" else a.user ++ password ++ "@"
  user ++ a.host ++ match a.portNumber with
    | some p => s!":{p}"
    | none => ""

namespace Url

/-- The path with the query, as it is asked for. -/
def target (u : Url) : String := u.path.text ++ match u.query with
  | some q => "?" ++ q
  | none => ""

def text (u : Url) : String :=
  let authority := match u.authority with
    | some a => "//" ++ a.text
    | none => ""
  let guard := if u.guarded then "/." else ""
  u.scheme ++ ":" ++ authority ++ guard ++ u.target ++ match u.fragment with
    | some f => "#" ++ f
    | none => ""

/-- The number that a special scheme takes when none is given; `file` has none. -/
def defaultPort? : String → Option Nat
  | "http" => some 80
  | "https" => some 443
  | "ws" => some 80
  | "wss" => some 443
  | "ftp" => some 21
  | _ => none

def isSpecial (scheme : String) : Bool := scheme = "file" || (defaultPort? scheme).isSome

/-! ## Paths -/

def isDot (s : List Char) : Bool := (String.ofList s).toLower ∈ [".", "%2e"]

def isTwoDots (s : List Char) : Bool :=
  (String.ofList s).toLower ∈ ["..", ".%2e", "%2e.", "%2e%2e"]

/-- Whether a text begins with the name of a drive: a letter and a colon, or a bar in its place. -/
def startsWithDrive : List Char → Bool
  | c :: d :: _ => c.isAlpha && (d == ':' || d == '|')
  | _ => false

def isDrive (s : List Char) : Bool := startsWithDrive s && s.length == 2

/-- Whether a segment is a drive, which a backslash may follow. -/
def isDriveSegment (s : List Char) : Bool :=
  startsWithDrive s && (s.drop 2).head?.all (· == '\\')

/-- The path one segment up; a drive is not left. -/
def goUp (path : List String) : List String :=
  if path.getLast?.any fun s => isDriveSegment s.toList then path else path.dropLast

/-- Add a segment, written already, to a path: `.` stays where it is and `..` goes up, and each
leaves an empty segment when it comes last. A drive at the front of a file's path gets its colon. -/
def addSegment (file last : Bool) (path : List String) (s : List Char) : List String :=
  let ending := if last then [""] else []
  if isTwoDots s then goUp path ++ ending
  else if isDot s then path ++ ending
  else if file && path.isEmpty && isDrive s then [String.ofList (s.take 1 ++ [':'])]
  else path ++ [String.ofList s]

def addSegments (file : Bool) (path : List String) : List (List Char) → List String
  | [] => path
  | [s] => addSegment file true path s
  | s :: ss => addSegments file (addSegment file false path s) ss

/-- An empty last segment gives way to what is added, unless it is a place of its own. -/
def dropEmptyLast (path : List String) : List String :=
  match path.reverse with
  | "" :: s :: ss => (s :: ss).reverse
  | _ => path

/-- Add one segment with all its characters; `.` and `..` are left out. -/
def pushSegment (scheme : String) (path : List String) (s : String) : List String :=
  if s = "." ∨ s = ".." then path
  else
    let cs := s.toList.filter fun c => c ∉ ['\t', '\n', '\r']
    addSegment (scheme = "file") true (if path = [""] then [] else path)
      (encode (inSegmentSet (isSpecial scheme)) cs)

/-- The URL with segments behind its path. -/
def below (u : Url) (segments : List String) : Url :=
  match u.path with
  | .plain _ => u
  | .segments path =>
    let path := segments.foldl (pushSegment u.scheme) (dropEmptyLast path)
    { u with path := .segments path }

/-! ## Reading -/

/-- The scheme in lower case and what follows its colon. -/
def cutScheme (cs : List Char) : Option (String × List Char) :=
  match cs.takeWhile (fun c => c.isAlphanum || c ∈ ['+', '-', '.']),
      cs.dropWhile (fun c => c.isAlphanum || c ∈ ['+', '-', '.']) with
  | c :: s, ':' :: rest =>
    if c.isAlpha then some ((String.ofList (c :: s)).toLower, rest) else none
  | _, _ => none

def isSlash (special : Bool) (c : Char) : Bool := c == '/' || (special && c == '\\')

/-- Whether a character ends the part with the host. -/
def endsAuthority (special : Bool) (c : Char) : Bool := isSlash special c || c == '?' || c == '#'

/-- The host and what follows its colon; a colon between brackets belongs to the host. -/
def cutPort (bracket : Bool) : List Char → List Char × Option (List Char)
  | [] => ([], none)
  | c :: cs =>
    if c = ':' ∧ !bracket then ([], some cs)
    else
      let bracket := if c = '[' then true else if c = ']' then false else bracket
      let (host, number) := cutPort bracket cs
      (c :: host, number)

def readPort (scheme : String) (cs : List Char) : Except UrlError (Option Nat) :=
  match numberIn 10 cs with
  | none => .error .badPort
  | some n =>
    if 65535 < n then .error .badPort
    else if cs.isEmpty ∨ defaultPort? scheme = some n then .ok none
    else .ok (some n)

/-- User, password, host and its number, and what a backslash cuts off behind that; `ended` tells
that something follows. -/
def readAuthority (scheme : String) (ended : Bool) (cs : List Char) :
    Except UrlError (Authority × List Char) := do
  let special := isSpecial scheme
  let (login, rest) := (Text.cutLast '@' cs).getD ([], cs)
  if login.isEmpty ∧ rest ≠ cs ∧ rest.isEmpty ∧ ended then throw .emptyHost
  let (user, password) := (Text.cutFirst ':' login).getD (login, [])
  let (name, after) := cutPort false rest
  if special ∧ name.isEmpty then throw .emptyHost
  let h ← if special then host name else plainHost name
  if h = "" ∧ after.isSome then throw .emptyHost
  let p ← match after with
    | some ds => readPort scheme (ds.takeWhile (· ≠ '\\'))
    | none => pure none
  if h = "" ∧ (user ≠ [] ∨ password ≠ []) then throw .emptyHost
  return (⟨String.ofList (encode inUserSet user), String.ofList (encode inUserSet password), h, p⟩,
    (after.getD []).dropWhile (· ≠ '\\'))

/-- The path, and the query and the fragment behind it. -/
def cutPath (cs : List Char) : List Char × List Char :=
  (cs.takeWhile fun c => c ≠ '?' && c ≠ '#', cs.dropWhile fun c => c ≠ '?' && c ≠ '#')

/-- Segments of a text between slashes. -/
def cutSegments (special : Bool) (cs : List Char) : List (List Char) :=
  (Text.pieces '/' (cs.map fun c => if isSlash special c then '/' else c)).map (encode inPathSet)

/-- A text without the slash it begins with. -/
def dropSlash (special : Bool) : List Char → List Char
  | [] => []
  | c :: cs => if isSlash special c then cs else c :: cs

/-- Put the query and the fragment behind a URL. -/
def finish (u : Url) (rest : List Char) : Url :=
  let (before, fragment) := match Text.cutFirst '#' rest with
    | some (b, f) => (b, some (String.ofList (encode inFragmentSet f)))
    | none => (rest, none)
  let query := match before with
    | '?' :: q => some (String.ofList (encode (inQuerySet (isSpecial u.scheme)) q))
    | _ => none
  { u with query := query, fragment := fragment }

/-- A path that two slashes would begin. -/
def beginsEmpty : List String → Bool
  | "" :: _ :: _ => true
  | _ => false

/-- A path and what follows it; the scheme decides on an empty one. -/
def withPath (scheme : String) (a : Option Authority) (cs : List Char) : Url :=
  let special := isSpecial scheme
  let (front, rest) := cutPath cs
  let path :=
    if front.isEmpty && !special then []
    else addSegments false [] (cutSegments special (dropSlash special front))
  finish ⟨scheme, a, a.isNone && beginsEmpty path, .segments path, none, none⟩ rest

/-- What follows two slashes. -/
def withAuthority (scheme : String) (cs : List Char) : Except UrlError Url := do
  let special := isSpecial scheme
  let front := cs.takeWhile fun c => !endsAuthority special c
  let rest := cs.dropWhile fun c => !endsAuthority special c
  let (a, cut) ← readAuthority scheme (!rest.isEmpty) front
  return withPath scheme (some a) (cut ++ rest)

/-! ## Files -/

/-- A file on a host, by the text behind the slash that begins its path. Empty segments do not begin
the path, and a drive is on no host. -/
def fileOn (host : String) (cs : List Char) : Url :=
  let (front, rest) := cutPath cs
  let path := addSegments true [] (cutSegments true front)
  let shown := if path.head?.any fun s => isDrive s.toList then "" else host
  let path := match path.dropWhile (· = "") with
    | [] => [""]
    | path => path
  finish ⟨"file", some ⟨"", "", shown, none⟩, false, .segments path, none, none⟩ rest

/-- A file: its host may be missing, and `localhost` is none. -/
def fileUrl (cs : List Char) : Except UrlError Url := do
  match cs with
  | a :: b :: rest =>
    if isSlash true a && isSlash true b then
      let name := rest.takeWhile fun c => !endsAuthority true c
      let after := rest.dropWhile fun c => !endsAuthority true c
      if isDrive name then return fileOn "" rest
      else
        let h ← if name.isEmpty then pure "" else host name
        if h = "" ∨ h = "localhost" then return fileOn "" after
        else return fileOn h (dropSlash true after)
    else return fileOn "" (dropSlash true cs)
  | _ => return fileOn "" (dropSlash true cs)

/-! ## All schemes -/

/-- The text without blanks and controls at its ends and without tabs and line ends. -/
def clean (cs : List Char) : List Char :=
  let blank (c : Char) : Bool := c.toNat ≤ 0x20
  ((cs.dropWhile blank).reverse.dropWhile blank).reverse.filter fun c => c ∉ ['\t', '\n', '\r']

def parse (text : String) : Except UrlError Url :=
  match cutScheme (clean text.toList) with
  | none => .error .noScheme
  | some (scheme, rest) =>
    if scheme = "file" then fileUrl rest
    else if isSpecial scheme then withAuthority scheme (rest.dropWhile (isSlash true))
    else
      match rest with
      | '/' :: '/' :: rest => withAuthority scheme rest
      | '/' :: _ => .ok (withPath scheme none rest)
      | _ =>
        let (path, rest) := cutPath rest
        let path := String.ofList (encode isControl path)
        .ok (finish ⟨scheme, none, false, .plain path, none, none⟩ rest)

/-- Whether nothing can lie below the path. -/
def isPlain (u : Url) : Bool :=
  match u.path with
  | .plain _ => true
  | .segments _ => false

end Url

end AvroLink
