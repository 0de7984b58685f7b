import AvroLink.Source
import AvroLink.TypeScript.Config

/-!
# Command line arguments

A command is followed by options and one directory in any order. An option takes its value behind
`=` or as the next argument, and one letter options may be put together; behind `--`
nothing is an option. An option without a value yet is pending: it is checked when the next
argument turns out to be known.
-/

namespace AvroLink.Cli

/-- What an option takes. -/
inductive Takes where
  | nothing
  /-- Nothing, any number of times. -/
  | level
  | text
  /-- A text, any number of times. -/
  | texts
  | path
  | choice (words : List String)
  /-- An integer that must lie in a range of 32 bits. -/
  | word32
  | size
  deriving DecidableEq, Repr

structure Parameter where
  name : String
  /-- The option as it is shown. -/
  shown : String
  letter : Option Char
  takes : Takes
  deriving DecidableEq, Repr

def Parameter.hasValue (p : Parameter) : Bool := p.takes ≠ .nothing && p.takes ≠ .level

def Parameter.repeats (p : Parameter) : Bool := p.takes = .texts || p.takes = .level

inductive UsageError where
  | noCommand
  | unknownCommand (word : String)
  | unexpected (argument : String)
  | missingValue (shown : String)
  | unexpectedValue (value shown : String)
  | repeated (shown : String)
  | badChoice (value shown : String)
  | badNumber (value shown reason : String)
  | missingInput
  | conflict (first second : String)
  deriving DecidableEq, Repr

/-- What the program does. -/
def about : String := "Resolve Avro schemas in any order and generate TypeScript"

def UsageError.message : UsageError → String
  | noCommand => about
  | unknownCommand w => "error: unrecognized subcommand '" ++ w ++ "'"
  | unexpected a => "error: unexpected argument '" ++ a ++ "' found"
  | missingValue s => "error: a value is required for '" ++ s ++ "' but none was supplied"
  | unexpectedValue v s =>
    "error: unexpected value '" ++ v ++ "' for '" ++ s ++ "' found; no more were expected"
  | repeated s => "error: the argument '" ++ s ++ "' cannot be used multiple times"
  | badChoice v s =>
    if v = "" then "error: a value is required for '" ++ s ++ "' but none was supplied"
    else "error: invalid value '" ++ v ++ "' for '" ++ s ++ "'"
  | badNumber v s r => "error: invalid value '" ++ v ++ "' for '" ++ s ++ "': " ++ r
  | missingInput => "error: the following required arguments were not provided:"
  | conflict a b => "error: the argument '" ++ a ++ "' cannot be used with '" ++ b ++ "'"

/-! ## Numbers -/

def notDigit : String := "invalid digit found in string"

/-- Digits of a number of the given sign as long as it lies between `lo` and `hi`. -/
def digits (negative : Bool) (lo hi : Int) : Int → List Char → Except String Int
  | n, [] => .ok n
  | n, c :: cs =>
    if c.isDigit then
      let m := n * 10 + (if negative then -1 else 1) * (c.toNat - 48 : Nat)
      if hi < m then .error "number too large to fit in target type"
      else if m < lo then .error "number too small to fit in target type"
      else digits negative lo hi m cs
    else .error notDigit

/-- An integer with an optional sign; a minus needs a range below zero. -/
def integer (lo hi : Int) (s : String) : Except String Int :=
  match s.toList with
  | [] => .error "cannot parse integer from empty string"
  | ['+'] => .error notDigit
  | ['-'] => .error notDigit
  | '+' :: cs => digits false lo hi 0 cs
  | '-' :: cs => if lo < 0 then digits true lo hi 0 cs else .error notDigit
  | cs => digits false lo hi 0 cs

def word32 (s : String) : Except String Int := do
  let n ← integer Int64.minValue.toInt Int64.maxValue.toInt s
  if 0 ≤ n ∧ n.toNat < UInt32.size then return n else throw s!"{n} is not in 0..=4294967295"

def size (s : String) : Except String Int := integer 0 (Int.ofNat (UInt64.size - 1)) s

/-! ## Scanning -/

/-- What the arguments read so far say. -/
structure Scan where
  /-- Parameters with their values, in the order in which they were given. -/
  given : List (Parameter × String)
  pending : Option (Parameter × Option String)
  /-- Whether `--` has been read. -/
  trailing : Bool

namespace Scan

def empty : Scan := ⟨[], none, false⟩

def has (sc : Scan) (p : Parameter) : Bool := sc.given.any fun (q, _) => q.name == p.name

def checkValue (p : Parameter) (v : String) : Except UsageError Unit :=
  match p.takes with
  | .path => if v = "" then .error (.missingValue p.shown) else .ok ()
  | .choice words => if v ∈ words then .ok () else .error (.badChoice v p.shown)
  | .word32 => (word32 v).map (fun _ => ()) |>.mapError (.badNumber v p.shown)
  | .size => (size v).map (fun _ => ()) |>.mapError (.badNumber v p.shown)
  | _ => .ok ()

/-- Take in a parameter with its value. -/
def accept (sc : Scan) (p : Parameter) (v : Option String) : Except UsageError Scan := do
  if p.hasValue ∧ v.isNone then throw (.missingValue p.shown)
  if sc.has p ∧ !p.repeats then throw (.repeated p.shown)
  checkValue p (v.getD "")
  return { sc with given := sc.given ++ [(p, v.getD "")] }

/-- Take in what is pending. -/
def settle (sc : Scan) : Except UsageError Scan :=
  match sc.pending with
  | none => .ok sc
  | some (p, v) => { sc with pending := none }.accept p v

/-- Either the arguments, or a wish for help. -/
abbrev Step := Except UsageError (Option Scan)

/-- An option whose value may stand in the same argument. -/
def option (sc : Scan) (p : Parameter) (attached : Option String) : Except UsageError Scan := do
  let sc ← sc.settle
  if p.hasValue ∧ attached.isNone then return { sc with pending := some (p, none) }
  else sc.accept p attached

/-- An argument behind two hyphens. -/
def long (ps : List Parameter) (sc : Scan) (cs : List Char) : Step :=
  let (name, attached) := match Text.cutFirst '=' cs with
    | some (n, v) => (String.ofList n, some (String.ofList v))
    | none => (String.ofList cs, none)
  match ps.find? fun p => p.name = name ∧ p.shown.startsWith "--" with
  | some p =>
    match attached with
    | some v => if p.hasValue then (sc.option p v).map some else .error (.unexpectedValue v p.shown)
    | none => (sc.option p none).map some
  | none =>
    if name = "help" then
      match attached with
      | some v => .error (.unexpectedValue v "--help")
      | none => sc.settle.map fun _ => none
    else .error (.unexpected ("--" ++ name))

/-- Letters behind one hyphen. -/
def letters (ps : List Parameter) (sc : Scan) : List Char → Step
  | [] => .ok (some sc)
  | c :: cs =>
    match ps.find? fun p => p.letter = some c with
    | some p =>
      if p.hasValue then
        let attached := match cs with
          | [] => none
          | '=' :: v => some (String.ofList v)
          | v => some (String.ofList v)
        (sc.option p attached).map some
      else do letters ps (← sc.option p none) cs
    | none =>
      if c = 'h' then sc.settle.map fun _ => none
      else .error (.unexpected (String.ofList ['-', c]))

/-- The directory that a command works on. -/
def directory : Parameter := ⟨"dir", "[DIR]", none, .path⟩

/-- An argument that is no option: the value of a pending one, or the directory. -/
def plain (sc : Scan) (a : String) : Except UsageError Scan :=
  match sc.pending, sc.trailing with
  | some (p, none), false => .ok { sc with pending := some (p, some a) }
  | _, _ =>
    if sc.has directory || sc.pending.any (fun (p, _) => p.name == directory.name) then
      .error (.unexpected a)
    else do
      let sc ← sc.settle
      return { sc with pending := some (directory, some a) }

def argument (ps : List Parameter) (sc : Scan) (a : String) : Step :=
  if sc.trailing then (sc.plain a).map some
  else
    match a.toList with
    | ['-', '-'] => .ok (some { sc with trailing := true })
    | '-' :: '-' :: cs => sc.long ps cs
    | '-' :: c :: cs => sc.letters ps (c :: cs)
    | _ => (sc.plain a).map some

def arguments (ps : List Parameter) (sc : Scan) : List String → Step
  | [] => sc.settle.map some
  | a :: as =>
    match sc.argument ps a with
    | .error e => .error e
    | .ok none => .ok none
    | .ok (some sc) => sc.arguments ps as

end Scan

/-! ## Commands -/

def registry : Parameter := ⟨"registry", "--registry <URL>", none, .text⟩

/-- Options that every command has. -/
def inputParameters : List Parameter := [
  registry,
  ⟨"match", "--match <REGEX>", none, .text⟩,
  ⟨"glob", "--glob <PATTERN>", none, .text⟩,
  ⟨"concurrency", "--concurrency <N>", none, .size⟩,
  ⟨"remap", "--remap <SRC:DST>", none, .texts⟩,
  ⟨"fuel", "--fuel <N>", none, .word32⟩,
  ⟨"color", "--color <WHEN>", none, .choice ["auto", "always", "never"]⟩,
  ⟨"verbose", "-v...", some 'v', .level⟩]

def checkParameters : List Parameter := ⟨"strict", "--strict", none, .nothing⟩ :: inputParameters

def generateParameters : List Parameter := [
  ⟨"output", "--output <DIR>", some 'o', .path⟩,
  ⟨"no-export", "--no-export", none, .nothing⟩,
  ⟨"optional", "--optional <STYLE>", none, .choice ["undefined", "null"]⟩,
  ⟨"enum-style", "--enum-style <STYLE>", none, .choice ["union", "enum"]⟩,
  ⟨"no-header", "--no-header", none, .nothing⟩] ++ inputParameters

def namesParameters : List Parameter := ⟨"json", "--json", none, .nothing⟩ :: inputParameters

/-- Where definitions are to come from. -/
inductive Origin where
  | directory (path : String)
  | registry (url : String)
  deriving DecidableEq, Repr

inductive Command where
  | check (strict : Bool)
  | generate (output : Option String) (config : TypeScript.Config)
  | names (json : Bool)
  deriving DecidableEq, Repr

structure Request where
  command : Command
  origin : Origin
  filter : Option String
  glob : String
  concurrency : Nat
  remap : List String
  fuel : Option UInt32
  colored : Bool

/-- What the arguments ask for. -/
inductive Wish where
  | help
  | version
  | run (request : Request)

namespace Scan

def value? (sc : Scan) (name : String) : Option String :=
  (sc.given.find? fun (p, _) => p.name = name).map Prod.snd

def values (sc : Scan) (name : String) : List String :=
  (sc.given.filter fun (p, _) => p.name = name).map Prod.snd

def isSet (sc : Scan) (name : String) : Bool := (sc.value? name).isSome

/-- A number that has been checked. -/
def number? (sc : Scan) (name : String) : Option Nat :=
  (sc.value? name).bind fun v => (size v).toOption.map Int.toNat

/-- Definitions come from a directory or from a registry, not from both. -/
def origin (sc : Scan) : Except UsageError Origin :=
  let inputs := sc.given.filter fun (p, _) => p.name = directory.name ∨ p.name = registry.name
  match inputs with
  | [] => .error .missingInput
  | [(p, v)] => .ok (if p.name = registry.name then .registry v else .directory v)
  | (p, _) :: (q, _) :: _ => .error (.conflict p.shown q.shown)

/-- The comment at the top of generated files. -/
def header : String := "Code generated by avrogen. DO NOT EDIT."

def config (sc : Scan) : TypeScript.Config where
  exported := !sc.isSet "no-export"
  optional := if sc.value? "optional" = some "null" then .null else .undefined
  enums := if sc.value? "enum-style" = some "enum" then .enum else .union
  header := if sc.isSet "no-header" then none else some header

def request (sc : Scan) (command : Command) : Except UsageError Request := do
  return {
    command := command
    origin := ← sc.origin
    filter := sc.value? "match"
    glob := (sc.value? "glob").getD FileSource.defaultGlob
    concurrency := (sc.number? "concurrency").getD RegistrySource.defaultConcurrency
    remap := sc.values "remap"
    fuel := (sc.number? "fuel").map UInt32.ofNat
    colored := sc.value? "color" = some "always" }

end Scan

/-- A command with its arguments. -/
def command (ps : List Parameter) (args : List String) (make : Scan → Command) :
    Except UsageError Wish := do
  match ← Scan.arguments ps .empty args with
  | none => return .help
  | some sc => return .run (← sc.request (make sc))

def commandNames : List String := ["check", "gen", "names", "help"]

/-- Help is given on the whole or on one command; no command has commands of its own. -/
def help : List String → Except UsageError Wish
  | [] => .ok .help
  | topic :: rest =>
    if topic ∉ commandNames then .error (.unknownCommand topic)
    else
      match rest with
      | [] => .ok .help
      | a :: _ => .error (.unknownCommand a)

/-- An argument where a command is expected. -/
def noCommand (a : String) : Except UsageError Wish :=
  match a.toList with
  | '-' :: '-' :: cs =>
    let name := cs.takeWhile (· ≠ '=')
    let known := name = "help".toList ∨ name = "version".toList
    match cs.dropWhile (· ≠ '=') with
    | '=' :: v =>
      .error (if known then .unexpectedValue (String.ofList v) ("--" ++ String.ofList name)
        else .unexpected ("--" ++ String.ofList name))
    | _ =>
      if name = "help".toList then .ok .help
      else if name = "version".toList then .ok .version
      else .error (.unexpected ("--" ++ String.ofList name))
  | '-' :: c :: _ =>
    if c = 'h' then .ok .help
    else if c = 'V' then .ok .version
    else .error (.unexpected (String.ofList ['-', c]))
  | _ => .error (.unknownCommand a)

def parse : List String → Except UsageError Wish
  | [] => .error .noCommand
  | "check" :: args => command checkParameters args fun sc => .check (sc.isSet "strict")
  | "gen" :: args =>
    command generateParameters args fun sc => .generate (sc.value? "output") sc.config
  | "names" :: args => command namesParameters args fun sc => .names (sc.isSet "json")
  | "help" :: topics => help topics
  | ["--"] => .error .noCommand
  | "--" :: a :: _ => .error (if a ∈ commandNames then .unexpected a else .unknownCommand a)
  | a :: _ => noCommand a

end AvroLink.Cli
