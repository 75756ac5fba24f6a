import Std.Time.DateTime.Timestamp
import TrainingPortal.CommandLine.Synopsis
import TrainingPortal.Log.Stamp
import TrainingPortal.Run.Process

/-!
# The program on this machine

The outermost layer: it looks up what stands at the paths that a run may follow, runs the program
on that, writes back the files that changed and prints what the program printed. There is no
transport here, so that every portal is out of reach, and nothing is known of what readers remark on
texts that they cannot read.
-/

namespace TrainingPortal

/-- The variables of a block in which a zero byte ends each. -/
def parseVariables (block : List Char) : Variables :=
  (Text.splitAt '\x00' block).filterMap fun piece =>
    match Text.cutAt '=' piece with
    | (name, some value) => some (String.ofList name, String.ofList value)
    | (_, none) => none

/-- The environment variables. -/
def readVariables : IO Variables := do
  let block ← IO.FS.readBinFile "/proc/self/environ"
  return parseVariables (Text.Utf8.decodeLossy block.toList)

/-- What stands at a place of the disk. -/
def probe (place : List (List Char)) : IO (Option FileEntry) := do
  try
    let content ← IO.FS.readBinFile ("/" ++ Path.ofSegments place)
    return some (.file content.toList)
  catch
    | .inappropriateType _ 21 _ => return some .directory
    | _ => return none

/-- Adds what stands at the places that segments lead to. -/
def surveyFrom (fs : Files) (place : List (List Char)) : List (List Char) → IO Files
  | [] => return fs
  | segment :: rest => do
    let place :=
      if Path.isIdle segment then place
      else if segment = ['.', '.'] then place.dropLast
      else place ++ [segment]
    match ← probe place with
    | some entry => surveyFrom (fs.put place entry) place rest
    | none => return fs

/-- Adds what stands at the places on the way of a path. -/
def survey (fs : Files) (path : String) : IO Files :=
  match fs.start path with
  | .ok (place, segments) => surveyFrom fs place segments
  | .error _ => return fs

/-- Writes the entries that differ from what was there before, directories first. -/
def writeBack (before after : Files) : IO Unit := do
  let changed := after.entries.filter fun (place, entry) => before.entry? place != some entry
  for (place, entry) in changed.mergeSort fun a b => a.1.length ≤ b.1.length do
    let path := "/" ++ Path.ofSegments place
    match entry with
    | .directory => IO.FS.createDir path
    | .file content => IO.FS.writeBinFile path ⟨content.toArray⟩

/-- What is printed for a command line that leads to no command. -/
def explain (stop : CommandLine.UsageStop) : String :=
  let synopsis := "\n".intercalate (CommandLine.program.synopsis "")
  match stop with
  | .version => ""
  | .help | .helpForNothing => synopsis ++ "\n"
  | stop => "error: " ++ stop.name ++ "\n\n" ++ synopsis ++ "\n"

end TrainingPortal

open TrainingPortal in
/-- Runs the program with the words of its command line. -/
def main (words : List String) : IO UInt32 := do
  let vars ← readVariables
  let terminal ← (← IO.getStdout).isTty
  let around : Surroundings := { vars, colours := Run.coloursFor vars terminal }
  let home := (Path.segments (← IO.currentDir).toString.toList).filter (!Path.isIdle ·)
  let files ← (Run.pathsOf vars words).foldlM survey { home }
  let now ← Std.Time.Timestamp.now
  let stamp := Log.stamp now.toSecondsSinceUnixEpoch.val.toNat
  let outcome := Run.execute around words stamp { files, network := ⟨false, []⟩ }
  writeBack files outcome.world.files
  IO.print outcome.output
  IO.eprint (outcome.errors ++ (outcome.stop.map explain).getD "")
  return UInt32.ofNat outcome.exitCode
