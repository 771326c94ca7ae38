import Storefront.Cli.Run
import Std.Time.DateTime.Timestamp

/-! # The program

Everything that the program decides is decided by `Cli.Host.run`. What is here reads the environment and
the files, asks questions on the terminal, and writes what a run leaves.
-/
namespace Storefront.Program
open Cli

def readText? (path : String) : IO (Option String) := do
  try return some (← IO.FS.readFile path) catch _ => return none

def bindings : IO (List (String × String)) :=
  ("PRICEWATCH_CONFIG" :: Settings.overrides.map Settings.Override.name).filterMapM fun name => do
    return (← IO.getEnv name).map (name, ·)

def environment (args : List String) : IO Environment := do
  let home := (← IO.getEnv "HOME").getD "."
  let bare : Environment := { home, bindings := ← bindings }
  let explicit := match Cli.read args with
    | .invocation i => i.config
    | _ => none
  let paths := [explicit, bare.value? "PRICEWATCH_CONFIG", some Environment.folderFile, some bare.homeFile]
  let files ← (paths.filterMap id).filterMapM fun path => do
    return (← readText? path).map (path, ·)
  return { bare with files }

def now : IO Timestamp := do
  let t ← Std.Time.Timestamp.now
  return ⟨t.val.second.val, t.val.nano.val.toNat⟩

def pageFiles (path : String) : IO (Table String PageFile) := do
  let folder ← IO.FS.realPath path
  if !(← folder.isDir) then return {}
  let mut files : Table String PageFile := {}
  for entry in ← folder.readDir do
    if !(← entry.path.isDir) then
      let data ← entry.path.metadata
      let written : Timestamp := ⟨data.modified.sec, data.modified.nsec.toNat⟩
      files := files.insert entry.fileName ⟨written, ← IO.FS.readBinFile entry.path⟩
  return files

def ratePlace (path : String) : IO RatePlace := do
  match ← readText? path with
  | some text => return .text text
  | none =>
    let place ← IO.FS.realPath path
    return if ← place.isDir then .folder else .missing

def store (e : Environment) (args : List String) : IO Store := do
  match Cli.read args with
  | .invocation i => match Settings.find e i.config with
    | .ok s => return ⟨.files (← pageFiles s.pageFolder), ← ratePlace s.rateFilePath⟩
    | .error _ => return ⟨.absent, .missing⟩
  | _ => return ⟨.absent, .missing⟩

/-- Removes the pages that a run has dropped, and writes the rate file that it has written. -/
def leave (s : Settings) (before after : Store) : IO Unit := do
  for (name, _) in before.folder.listing do
    if (after.folder.file? name).isNone then IO.FS.removeFile (Settings.joinPath s.pageFolder name)
  match after.rates with
  | .text contents =>
    if before.rates != after.rates then
      IO.FS.createDirAll s.dataDir
      IO.FS.writeFile s.rateFilePath contents
  | _ => return

/-- Runs until no question is open. On a terminal the next line answers an open question. -/
partial def converse (host : Host Unit) (args : List String) : IO Report := do
  let report := host.run args
  let input ← IO.getStdin
  match report.unanswered with
  | none => return report
  | some question =>
    if !(← input.isTty) then return report
    IO.eprint (Prompt.shown question)
    let line ← input.getLine
    converse { host with answers := host.answers ++ [line.toList] } args

def run (args : List String) : IO UInt32 := do
  let e ← environment args
  let before ← store e args
  let instant ← now
  let host : Host Unit :=
    { environment := e, transport := Transport.offline, net := (), store := fun _ => before
      clock := fun ms => instant.addSeconds (ms / 1000 : Nat) }
  let report ← converse host args
  match Cli.read args, report.store with
  | .invocation i, some after => match Settings.find e i.config with
    | .ok s => leave s before after
    | .error _ => pure ()
  | _, _ => pure ()
  IO.print report.out
  if let some error := report.error then IO.eprintln s!"Error: {error}"
  return report.code.toUInt32

end Storefront.Program

def main (args : List String) : IO UInt32 := Storefront.Program.run args
