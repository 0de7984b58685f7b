import AvroLink.Json.Skip
import AvroLink.Json.Typed
import AvroLink.Source.Basic
import AvroLink.Url.Basic

/-!
# Definitions in a schema registry

A registry lists its subjects and answers for each with its latest version. Versions are asked for
at the same time and come in as they are answered; they are sorted by the subject
they name themselves.
-/

namespace AvroLink

/-- What a server does with a request. -/
inductive Response where
  /-- The connection fails. -/
  | dropped
  | answer (status : Nat) (body : String)
  deriving DecidableEq, Repr

abbrev Server := Url → Response

/-- The latest version of a subject. -/
structure SubjectVersion where
  subject : String
  version : Nat
  id : Nat
  schema : String
  deriving DecidableEq, Repr

namespace SubjectVersion

open Json

/-- Fields read so far. -/
structure Draft where
  subject : Option String
  version : Option Nat
  id : Option Nat
  schema : Option String

/-- A field that has been read already. -/
def Draft.has (d : Draft) (key : String) : Bool :=
  (key == "subject" && d.subject.isSome) || (key == "version" && d.version.isSome) ||
    (key == "id" && d.id.isSome) || (key == "schema" && d.schema.isSome)

/-- The value of a key; unknown ones are passed over. -/
def Draft.member (d : Draft) (key : String) (s : List Char) : Except Fault (Step s Draft) :=
  if key = "subject" then (stringValue s).map fun p => p.map fun v => { d with subject := some v }
  else if key = "version" then
    (word32Value s).map fun p => p.map fun v => { d with version := some v }
  else if key = "id" then (word32Value s).map fun p => p.map fun v => { d with id := some v }
  else if key = "schema" then
    (stringValue s).map fun p => p.map fun v => { d with schema := some v }
  else (skipValue s).map fun p => p.map fun _ => d

/-- The version, or the first field that is missing. -/
def Draft.finish (d : Draft) : Except String SubjectVersion := do
  let need {α : Type} (name : String) (v : Option α) : Except String α :=
    match v with
    | some a => .ok a
    | none => .error name
  return ⟨← need "subject" d.subject, ← need "version" d.version, ← need "id" d.id,
    ← need "schema" d.schema⟩

/-- Blanks, and the closing character if it comes next: where a fault without a place of its own is
reported. -/
def pastClose (close : Char) (s : List Char) : List Char :=
  match skipBlank s with
  | [] => []
  | c :: r => if c = close then r else c :: r

/-- The members up to the end of an object. -/
def members (d : Draft) (first : Bool) (s : List Char) : Except Fault (Step s SubjectVersion) :=
  match nextKey first s with
  | .error e => .error e
  | .ok none =>
    match closeObject s with
    | .error e => .error e
    | .ok p =>
      match d.finish with
      | .ok v => .ok (p.map fun _ => v)
      | .error name => .error (.here (.missingField name) p.rest)
  | .ok (some ⟨t, ht⟩) =>
    match string t with
    | .error e => .error e
    | .ok k =>
      if d.has k.value then .error (.here (.duplicateField k.value) (pastClose '\x7d' k.rest))
      else
        match colon k.rest with
        | .error e => .error e
        | .ok u =>
          match d.member k.value u.rest with
          | .error e => .error e
          | .ok v =>
            have hk := k.shorter
            have hu := u.shorter
            have hv := v.shorter
            (members v.value false v.rest).map fun p => p.weaken (by omega)
termination_by s.length

/-- The next item of an array of four; there are `i` before it. -/
def item {α : Type} (i : Nat) (s : List Char)
    (read : (s : List Char) → Except Fault (Step s α)) : Except Fault (α × List Char) := do
  match ← nextItem (i == 0) s with
  | none =>
    throw (.here (.invalidLength i "struct SubjectVersion with 4 elements") (pastClose ']' s))
  | some t =>
    let p ← read t.1
    return (p.value, p.rest)

/-- The four fields in their order, behind the bracket, and what follows the array. -/
def items (s : List Char) : Except Fault (SubjectVersion × List Char) := do
  let (subject, s) ← item 0 s stringValue
  let (version, s) ← item 1 s word32Value
  let (id, s) ← item 2 s word32Value
  let (schema, s) ← item 3 s stringValue
  let p ← closeArray s
  return (⟨subject, version, id, schema⟩, p.rest)

/-- The version a text holds: an object, or an array of its fields. -/
def read (source : List Char) : Except Fault SubjectVersion :=
  match skipBlank source with
  | [] => .error (.past 1 .eofValue [])
  | c :: r =>
    if c = '[' then do
      let (v, rest) ← items r
      atEnd rest
      return v
    else if c = '\x7b' then do
      let p ← members ⟨none, none, none, none⟩ true r
      atEnd p.rest
      return p.value
    else .error (mismatch "struct SubjectVersion" (c :: r))

end SubjectVersion

structure RegistrySource where
  base : Url
  filter : Option Regex
  /-- How many requests may be open at once. -/
  concurrency : Nat

namespace RegistrySource

def defaultConcurrency : Nat := 8

def ofUrl (base : String) : Except SourceError RegistrySource :=
  match Url.parse base with
  | .error e => .error (.invalidUrl base e.message)
  | .ok u =>
    if u.isPlain then .error (.invalidUrl base "not a base URL")
    else .ok ⟨u, none, defaultConcurrency⟩

/-- At least one request may be open. -/
def withConcurrency (s : RegistrySource) (n : Nat) : RegistrySource :=
  { s with concurrency := max n 1 }

def subjectsUrl (s : RegistrySource) : Url := s.base.below ["subjects"]

def latestUrl (s : RegistrySource) (subject : String) : Url :=
  s.base.below ["subjects", subject, "versions", "latest"]

/-- The body of a successful answer, without a byte order mark. -/
def fetch (server : Server) (u : Url) : Except SourceError String :=
  match server u with
  | .dropped => .error (.noAnswer u.text)
  | .answer status body =>
    if status = 204 then .ok "" -- no content
    else if 200 ≤ status ∧ status < 300 then
      match body.toList with
      | '\ufeff' :: cs => .ok (String.ofList cs)
      | _ => .ok body
    else .error (.badStatus u.text status)

/-- The subjects that pass the filter, sorted, each once. -/
def select (s : RegistrySource) (subjects : List String) : List String :=
  ((subjects.filter (passes s.filter)).mergeSort fun a b => decide (a ≤ b)).eraseDups

def subjects (s : RegistrySource) (server : Server) : Except SourceError (List String) := do
  let body ← fetch server s.subjectsUrl
  match Json.readStrings body.toList with
  | .ok names => return s.select names
  | .error e => throw (.badBody s.subjectsUrl.text body e)

def latest (s : RegistrySource) (server : Server) (subject : String) :
    Except SourceError SubjectVersion := do
  let body ← fetch server (s.latestUrl subject)
  match SubjectVersion.read body.toList with
  | .ok v => return v
  | .error e => throw (.badBody (s.latestUrl subject).text body e)

/-- The definitions of versions in the order in which they came in. -/
def definitions (versions : List SubjectVersion) : List Definition :=
  Definition.sort (versions.map fun v => ⟨v.subject, v.schema⟩)

/-- All definitions; `arrival` gives the order in which the subjects asked for are answered. -/
def load (s : RegistrySource) (server : Server) (arrival : List String → List String) :
    Except SourceError (List Definition) := do
  let names ← s.subjects server
  return definitions (← (arrival names).mapM (s.latest server))

end RegistrySource

end AvroLink
