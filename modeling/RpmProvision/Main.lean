/-
The executable `pkgfetch`.

The files and directories that the command line names are read, the program runs on them, and what
it changed is written back. External programs cannot be started from here: to the program none of
them is installed.
-/
import RpmProvision.CommandLine.Program

namespace RpmProvision.Executable

/-- The names that lead to a place from the root. -/
def locationOf (workingDir : Location) (path : String) : Location :=
  let names := (Path.mk path).pieces.filter (!Path.isIdle ·)
  if (Path.mk path).isAbsolute then names else workingDir ++ names

/-- The text of the path that leads to a place. -/
def pathOf (l : Location) : String := "/" ++ String.intercalate "/" l

/-- How deep directories are read. -/
def maxDepth : Nat := 64

/-- Read what stands at a place, and everything below it. -/
def readTree (d : Disk) (l : Location) : Nat → IO Disk
  | 0 => pure d
  | depth + 1 => do
    let place := (← IO.currentDir) / pathOf l
    if ← place.isDir then
      let mut d := d.put l .directory
      for entry in ← place.readDir do
        d ← readTree d (l ++ [entry.fileName]) depth
      pure d
    else if ← place.pathExists then
      let bytes ← IO.FS.readBinFile place
      pure (d.put l (.file bytes.toList))
    else pure d

/-- The places on the way from the root to a place, and the place itself. -/
def wayTo (l : Location) : List Location := (List.range l.length).map fun k => l.take (k + 1)

/-- Take a note of the directories among some places. -/
def noteDirectories (d : Disk) : List Location → IO Disk
  | [] => pure d
  | l :: rest => do
    let place := (← IO.currentDir) / pathOf l
    if ← place.isDir then noteDirectories (d.put l .directory) rest else noteDirectories d rest

/-- Read what an argument may name, alone or behind an equals sign. -/
def readArg (d : Disk) (arg : String) : IO Disk := do
  let named := match Text.splitAtFirst? '=' arg.toList with
    | some (_, value) => String.ofList value
    | none => arg
  let l := locationOf d.workingDir named
  readTree (← noteDirectories d (wayTo l)) l maxDepth

/-- Read what the arguments of a command line may name. -/
def readDisk (args : List String) : IO Disk := do
  let workingDir := locationOf [] (← IO.currentDir).toString
  let bare : Disk := ⟨∅, workingDir, ∅⟩
  let d ← noteDirectories bare (wayTo workingDir ++ [locationOf [] World.systemTemp.text])
  args.foldlM readArg d

/-- Write what is new or changed. -/
def writeChanges (before after : Disk) : IO Unit :=
  after.entries.entries.forM fun e => do
    if before.entryAt e.1 = some e.2 then pure ()
    else
      match e.2 with
      | .directory => IO.FS.createDirAll (pathOf e.1)
      | .file content => IO.FS.writeBinFile (pathOf e.1) ⟨content.toArray⟩
      | .link _ => pure ()

end RpmProvision.Executable

/-- Run the program on the files that the command line names. -/
def main (args : List String) : IO UInt32 := do
  let disk ← RpmProvision.Executable.readDisk args
  let environment ← IO.getEnv "RUST_LOG"
  let (result, after) :=
    RpmProvision.CommandLine.run (fun _ _ _ => none) environment args (.start disk)
  RpmProvision.Executable.writeChanges disk after.disk
  IO.print result.out
  IO.eprint result.err
  pure (UInt32.ofNat result.exitCode)
