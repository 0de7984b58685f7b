import AvroLink.Cli.Run

/-!
# The program

The files that the program may read are named on standard input, one path a line, and nothing else
is looked at. Files that a command writes are written, and it reaches no servers.
-/

namespace AvroLink

/-- The lines of standard input that name a file. -/
partial def readNames (input : IO.FS.Stream) : IO (List String) := do
  let line ← input.getLine
  if line.isEmpty then return []
  let name := line.trimAscii.toString
  let names ← readNames input
  return if name.isEmpty then names else name :: names

/-- A disk with the named files and nothing else, below the working directory. -/
def readDisk : List String → Disk → IO Disk
  | [], d => return d
  | name :: names, d => do
    let bytes ← IO.FS.readBinFile name
    let place := (Path.components name).filterMap Path.Component.name?
    readDisk names (d.put (d.cwd ++ place) (.file bytes))

/-- Whether a disk holds a file with these contents. -/
def holds (d : Disk) (names : List String) (bytes : ByteArray) : Bool :=
  match d.root.get? names with
  | some (.file old) => old.data == bytes.data
  | _ => false

/-- Write the files that are new or have changed. -/
def writeNew (before after : Disk) : IO Unit := do
  for (names, bytes) in after.root.files do
    if !holds before names bytes then
      let path := Text.joinWith "/" names
      if let some above := Path.parent? path then
        if above ≠ "" then IO.FS.createDirAll above
      IO.FS.writeBinFile path bytes

end AvroLink

open AvroLink in
def main (args : List String) : IO UInt32 := do
  let before ← readDisk (← readNames (← IO.getStdin)) ⟨.dir [], []⟩
  let outcome := Cli.run args before fun _ => .dropped
  IO.eprint outcome.err
  IO.print outcome.out
  writeNew before outcome.disk
  return outcome.exit
