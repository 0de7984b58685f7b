import AvroLink.Name

/-!
# Renaming namespaces

A rule replaces the front of a namespace, whole segments at a time: `com.acme`
says nothing about `com.acmecorp`. Of the rules that match, the one with the longest
source counts. A source that is given again takes the new target and keeps its
place.
-/

namespace AvroLink

inductive RemapError where
  | malformed (entry : String)
  | invalidNamespace (entry side : String)
  deriving DecidableEq, Repr

def RemapError.message : RemapError → String
  | .malformed e => "remap `" ++ e ++ "` must have the form `source:target`"
  | .invalidNamespace e n => "remap `" ++ e ++ "`: `" ++ n ++ "` is not a valid namespace"

/-- Rules from source to target, each source once. -/
structure Remap where
  rules : List (String × String)
  deriving DecidableEq, Repr

namespace Remap

def empty : Remap := ⟨[]⟩

def putRule (source target : String) : List (String × String) → List (String × String)
  | [] => [(source, target)]
  | (s, t) :: rules =>
    if s = source then (s, target) :: rules else (s, t) :: putRule source target rules

def insert (r : Remap) (source target : String) : Remap := ⟨putRule source target r.rules⟩

/-- The two sides of an entry `source:target`. -/
def sides (entry : String) : Except RemapError (String × String) :=
  match Text.pieces ':' entry.toList with
  | [s, t] =>
    let source := String.ofList s
    let target := String.ofList t
    if !isValidNamespace source then .error (.invalidNamespace entry source)
    else if !isValidNamespace target then .error (.invalidNamespace entry target)
    else .ok (source, target)
  | _ => .error (.malformed entry)

/-- Add the rules of entries to a table. -/
def addEntries : Remap → List String → Except RemapError Remap
  | r, [] => .ok r
  | r, e :: es => do
    let (source, target) ← sides e
    addEntries (r.insert source target) es

def parse (entries : List String) : Except RemapError Remap := addEntries empty entries

/-- What follows `front` in `text`, if that is nothing or starts with a dot. -/
def afterSegments : List Char → List Char → Option (List Char)
  | [], [] => some []
  | [], c :: cs => if c = '.' then some (c :: cs) else none
  | _ :: _, [] => none
  | f :: fs, c :: cs => if f = c then afterSegments fs cs else none

/-- The rule that renames `space`, with what follows its source: a longer source wins over a
shorter one. -/
def best (space : List Char) : List (String × String) → Option (String × String × List Char)
  | [] => none
  | (s, t) :: rules =>
    let later := best space rules
    match afterSegments s.toList space with
    | none => later
    | some rest =>
      match later with
      | some (s', t', rest') =>
        if rest.length < rest'.length then some (s, t, rest) else some (s', t', rest')
      | none => some (s, t, rest)

/-- A namespace with its front replaced by the longest rule that matches. -/
def apply (r : Remap) (space : String) : String :=
  match best space.toList r.rules with
  | some (_, target, rest) => target ++ String.ofList rest
  | none => space

/-- A name with its namespace renamed; the null namespace stays. -/
def applyName (r : Remap) (n : FullName) : FullName :=
  match n.space with
  | some ns => n.withSpace (some (r.apply ns))
  | none => n

end Remap

end AvroLink
