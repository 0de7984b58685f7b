import AvroLink.Cli.Arguments
import AvroLink.Diagnostic.Report
import AvroLink.Json.Name
import AvroLink.Regex.Parser
import AvroLink.Run

/-!
# Running a command

A command is a function of its arguments, the disk and the servers it can reach. It yields what it
prints, its exit code and the disk it leaves. What stays unresolved is reported as a
warning and is an error only for a strict check.
-/

namespace AvroLink.Cli

structure Outcome where
  exit : UInt32
  out : String
  err : String
  disk : Disk

def blue : String := "\x1b[34m"
def yellow : String := "\x1b[33m"
def dim : String := "\x1b[2m"
def reset : String := "\x1b[0m"

def paint (colored : Bool) (color text : String) : String :=
  if colored then color ++ text ++ reset else text

def usage : String :=
  about ++ "\n\nUsage: avrogen <COMMAND>\n\nCommands:\n" ++
    "  check  Resolve schemas and report unresolved definitions\n" ++
    "  gen    Generate TypeScript declarations\n" ++
    "  names  List resolved named types\n"

def versionLine : String := "avrogen 0.1.0\n"

/-- The source that a request names. -/
def Request.source (r : Request) (filter : Option Regex) : Except SourceError Source :=
  match r.origin with
  | .directory root => .ok (.files ⟨root, r.glob, filter⟩)
  | .registry url => do
    let source ← RegistrySource.ofUrl url
    return .registry ({ source with filter := filter }.withConcurrency r.concurrency)

/-- Why a request fails. -/
inductive Failure where
  | badFilter (pattern : String)
  | run (error : RunError)

def Failure.message : Failure → String
  | badFilter p => "invalid --match pattern: `" ++ p ++ "` is no regular expression"
  | run e => e.message

/-- Resolve what a request is about. The filter is read first, then the source, then the renaming
rules. -/
def resolve (r : Request) (d : Disk) (server : Server) :
    Except Failure (RunOptions × Resolve.AvroResolution) := do
  let filter ← match r.filter with
    | none => pure none
    | some p =>
      match Regex.parse? p with
      | some re => pure (some re)
      | none => throw (.badFilter p)
  let source ← (r.source filter).mapError fun e => Failure.run (.source e)
  let remap ← (Remap.parse r.remap).mapError fun e => Failure.run (.remap e)
  let definitions ← (source.load d server id).mapError fun e => Failure.run (.source e)
  let options : RunOptions := ⟨remap, r.fuel⟩
  return (options, ← (options.resolve definitions).mapError .run)

/-- The diagnostics of a run and the identifiers of what it left unresolved. -/
def unresolvedReport (colored : Bool) (r : Resolve.AvroResolution) : String :=
  if r.isComplete then ""
  else
    Diagnostic.report colored (Resolve.diagnostics r) ++ "warning: unresolved definitions: " ++
      Text.joinWith ", " (r.unresolvedIds.map (paint colored yellow)) ++ "\n"

/-- Artifacts one after another, each under its path. -/
def artifactsText (colored : Bool) (as : List Artifact) : String :=
  Text.joinWith "\n" (as.map fun a =>
    paint colored dim ("// ==> " ++ a.path) ++ "\n" ++ a.contents)

def padRight (n : Nat) (s : String) : String :=
  s ++ String.ofList (List.replicate (n - s.length) ' ')

/-- One line per type, in the order in which they were registered. -/
def namesText (colored : Bool) (types : Namespace) : String :=
  String.join (types.entries.map fun (n, s) =>
    paint colored dim (padRight 6 s.kind) ++ " " ++ paint colored blue n.text ++ "\n")

/-- The types as an indented JSON array. -/
def namesJson (types : Namespace) : String :=
  let item : FullName × Schema → String := fun (n, s) =>
    "  \x7b\n    \"name\": " ++ n.write ++ ",\n    \"kind\": " ++ Json.writeString s.kind ++
      "\n  \x7d"
  if types.entries.isEmpty then "[]"
  else "[\n" ++ Text.joinWith ",\n" (types.entries.map item) ++ "\n]"

/-- Generate files and print or write them. -/
def generate (o : RunOptions) (config : TypeScript.Config) (output : Option String) (colored : Bool)
    (r : Resolve.AvroResolution) (d : Disk) : Except RunError String × Disk :=
  match o.generate config r, output with
  | .error e, _ => (.error e, d)
  | .ok as, none => (.ok (artifactsText colored as), d)
  | .ok as, some dir =>
    let (written, d) := Artifact.writeAll dir as d
    (written.map (fun paths => String.join (paths.map (· ++ "\n"))) |>.mapError .write, d)

def runRequest (r : Request) (d : Disk) (server : Server) : Outcome :=
  match resolve r d server with
  | .error e => ⟨1, "", "error: " ++ e.message ++ "\n", d⟩
  | .ok (options, resolution) =>
    let report := unresolvedReport r.colored resolution
    match r.command with
    | .check strict => ⟨if strict && !resolution.isComplete then 1 else 0, "", report, d⟩
    | .names json =>
      let out := if json then namesJson resolution.types ++ "\n"
        else namesText r.colored resolution.types
      ⟨0, out, report, d⟩
    | .generate output config =>
      match generate options config output r.colored resolution d with
      | (.ok out, d) => ⟨0, out, report, d⟩
      | (.error e, d) => ⟨1, "", report ++ "error: " ++ e.message ++ "\n", d⟩

def run (args : List String) (d : Disk) (server : Server) : Outcome :=
  match parse args with
  | .error e => ⟨2, "", e.message ++ "\n", d⟩
  | .ok .help => ⟨0, usage, "", d⟩
  | .ok .version => ⟨0, versionLine, "", d⟩
  | .ok (.run r) => runRequest r d server

end AvroLink.Cli
