import DevSession.Command.Run
import Std.Time.DateTime.Timestamp

/-!
# The program

The command line on a real disk: the files that a command can touch are read, the command is run on
what was read, and the files that it has changed are written back. Writers of the same journal wait
for each other at its lock file.
-/

namespace DevSession.Program

/-- The path of a place. -/
def pathOf (place : List String) : String :=
  "/" ++ "/".intercalate place

/-- What stands at a place. -/
def look (place : List String) : IO (Option Entry) := do
  try
    return some (.file (← IO.FS.readBinFile (pathOf place)))
  catch
    | .noFileOrDirectory .. => return none
    | _ => return some .directory

/-- The disk with what stands on the way along a path, and at its end. -/
def probe (disk : Disk) (path : String) : IO Disk := do
  let mut disk := disk
  let mut place := []
  for name in disk.origin path ++ Path.names path do
    place := if name = ".." then place.dropLast else place ++ [name]
    if let some entry ← look place then
      disk := disk.put place entry
  return disk

/-- Writes what has changed. -/
def save (before after : Disk) : IO Unit := do
  for (place, entry) in after.entries.reverse do
    match entry, before.entry? place with
    | .directory, none => IO.FS.createDirAll (pathOf place)
    | .file new, some (.file old) =>
      if new.data != old.data then IO.FS.writeBinFile (pathOf place) new
    | .file new, none => IO.FS.writeBinFile (pathOf place) new
    | _, _ => pure ()

/-- The time, and drawn characters for a session's name. -/
def draw : IO Draw := do
  let nanos := (← Std.Time.Timestamp.now).toNanosecondsSinceUnixEpoch.toInt
  let now := (Instant.ofUnix? nanos).getD .epoch2000
  let drawn := (← IO.getRandomBytes 4).toList.flatMap fun b =>
    [Nat.digitChar (b.toNat / 16), Nat.digitChar (b.toNat % 16)]
  return ⟨fun _ => now, String.ofList drawn⟩

/-- Runs a command on the disk, with every path that it can touch. -/
def runOn (i : Invocation) (disk : Disk) (journal : String) : IO CommandLine.Result := do
  let before ← [journal, Store.lockPath journal, Path.join i.root stateDir].foldlM probe disk
  let (result, after) := i.run before (← draw)
  save before after
  match result with
  | .ok text => return ⟨0, text, ""⟩
  | .error failure => return CommandLine.ofFailure i.json failure

/-- Does something while no other writer holds the journal. -/
def holding {α : Type} (journal : String) (act : IO α) : IO α := do
  let lock? ← try
      let lock ← IO.FS.Handle.mk (Store.lockPath journal) .append
      lock.lock
      pure (some lock)
    catch _ => pure none
  try act
  finally
    match lock? with
    | some lock => lock.unlock
    | none => pure ()

/-- Runs a command line. -/
def run (args : List String) : IO CommandLine.Result := do
  match Arguments.parse args with
  | .error stop => return CommandLine.ofStop stop
  | .ok i =>
    let here := Path.names (← IO.currentDir).toString
    let disk ← probe { here } (Settings.path i.root)
    let settings := (Settings.load disk i.root).toOption.getD {}
    let journal := settings.journalPath i.root
    holding journal (runOn i disk journal)

end DevSession.Program

/-- The program: prints what the command line prints, and exits with its code. -/
def main (args : List String) : IO UInt32 := do
  let result ← DevSession.Program.run args
  IO.print result.stdout
  IO.eprint result.stderr
  return UInt32.ofNat result.exitCode
