import CardFirmware.Device.Script
import CardFirmware.Service.Program
import CardFirmware.Tool.Program

/-! The programs `fcp-tool` and `fcp-server`, the first word telling which. What they need of the
machine is read before they run; sockets cannot be reached from here and refuse connections. -/

namespace CardFirmware.Machine

/-- Adds what is at a path, and so many levels below it, to a tree. What a link leads to stands in
its place, and what cannot be opened counts as a socket. -/
def load (keep : String → Bool) : Nat → Path → FileTree → IO FileTree
  | 0, _, t => return t
  | depth + 1, path, t => do
    match ← ((← IO.currentDir) / path.display).readDir.toBaseIO with
    | .ok entries =>
      (entries.toList.filter (keep ·.fileName)).foldlM
        (fun t e => load keep depth (path.join e.fileName) t) (t.createDirectories path).2
    | .error _ =>
      let found := t.prepare path
      match ← (IO.FS.readBinFile path.display).toBaseIO with
      | .ok content => return (found.write path content.toList).toOption.getD found
      | .error (.noFileOrDirectory ..) => return t
      | .error _ => return (found.create path .socket).toOption.getD found

def files (keep : String → Bool) (places : List (Nat × Path)) : IO FileTree := do
  let here := Path.ofText (toString (← IO.currentDir))
  let start : FileTree := ⟨.directory true [], here.steps⟩
  places.foldlM (fun t (depth, path) => load keep depth path t) (start.createDirectories here).2

def environment : IO Environment := do
  return ⟨← IO.getEnv "RUNTIME_DIRECTORY", ← IO.getEnv "XDG_RUNTIME_DIR"⟩

def process : IO Nat := do
  match ← (IO.FS.readFile "/proc/self/stat").toBaseIO with
  | .ok text => return ((Text.firstWord? text).bind (Text.Numeral.unsigned? 10 UInt32.size)).getD 0
  | .error _ => return 0

def finish (status : Nat) (stdout stderr : String) : IO UInt32 := do
  IO.print stdout
  IO.eprint stderr
  return UInt32.ofNat status

def runTool (words : List String) : IO UInt32 := do
  let e ← environment
  let t ← files ToolProgram.isRead (ToolProgram.places e words)
  let (status, h) := ToolProgram.run Script.transport e words { files := t }
  finish status h.stdout h.stderr

/-- Prepares a service and leaves its lock file behind. -/
def runService (words : List String) : IO UInt32 := do
  let e ← environment
  match ServiceProgram.arguments e words with
  | .error _ =>
    let r := ServiceProgram.run e words 0 {} .empty
    finish r.status r.stdout r.stderr
  | .ok c =>
    let t ← files (fun _ => true)
      ([ServiceProgram.devicePath c.card, c.socketDirectory, c.lockFile].map (1, ·))
    let r := ServiceProgram.run e words (← process) {} t
    match r.files.readBytes c.lockFile with
    | .ok content =>
      IO.FS.createDirAll c.socketDirectory.display
      IO.FS.writeBinFile c.lockFile.display ⟨content.toArray⟩
    | .error _ => pure ()
    finish r.status r.stdout r.stderr

end CardFirmware.Machine

open CardFirmware.Machine in
def main : List String → IO UInt32
  | "fcp-tool" :: words => runTool words
  | "fcp-server" :: words => runService words
  | _ => finish 2 "" "Name one of the programs fcp-tool and fcp-server.\n"
