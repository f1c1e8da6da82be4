import SoloScenario.Command.Run
import Std.Time.Zoned

/-! The command line. What the arguments name is read into a tree, the run itself
works on that tree, and what it changed is written back. -/

namespace SoloScenario.Main

/-- The time now, in the zone of the system if that is known. -/
def currentTime : IO Time.Stamp := do
  let t ← try Std.Time.DateTime.now
    catch _ => pure (Std.Time.DateTime.ofTimestampWithZone (← Std.Time.Timestamp.now) .UTC)
  let made := do
    let date ← Time.Date.make? t.year.toInt.toNat t.month.toNat t.day.toNat
    let zone ← Time.Zone.make? (1000000 * t.timezone.offset.second.val) t.timezone.abbreviation
    Time.Stamp.make? date t.hour.toNat t.minute.toNat t.second.toNat (t.nanosecond.toNat / 1000)
      zone
  IO.ofExcept (made.mapError Time.Fault.message)

/-- The loader of record files. Sets hold their members as they were given. -/
def loader : Loader := Markup.loader id

/-- Adds what is at a path to a tree. Its result tells whether that is a folder. -/
def addPath (t : Tree) (p : Path) : IO (Tree × Bool) := do
  try
    let bytes ← IO.FS.readBinFile p.text
    return (t.put (Tree.spot p) bytes.toList, false)
  catch
    | .inappropriateType .. => return ({ t with folders := Tree.spot p :: t.folders }, true)
    | _ => return (t, false)

/-- Adds what is at paths that lead to one another, up to the first that is no folder. -/
def addStages (t : Tree) : List Path → IO Tree
  | [] => return t
  | p :: rest => do
    let (t, isFolder) ← addPath t p
    if isFolder then addStages t rest else return t

def readTree (paths : List Path) : IO Tree :=
  paths.foldlM (fun t p => addStages t p.stages) { files := [], folders := [] }

/-- Writes back what is in a tree and was not there before. -/
def writeTree (before after : Tree) : IO Unit := do
  for s in after.folders.reverse do
    if s ∉ before.folders then IO.FS.createDirAll s.text
  for (s, bytes) in after.changedFrom before do
    IO.FS.writeBinFile s.text ⟨bytes.toArray⟩

end SoloScenario.Main

def main (args : List String) : IO UInt32 := do
  let tree ← SoloScenario.Main.readTree (SoloScenario.Command.paths args)
  let now ← SoloScenario.Main.currentTime
  let outcome := SoloScenario.Command.run SoloScenario.Main.loader now tree args
  SoloScenario.Main.writeTree tree outcome.tree
  IO.eprint outcome.stderr
  IO.print outcome.stdout
  if let some kind := outcome.exception then IO.eprintln kind
  return outcome.exitCode.toUInt32
