import CardFirmware.CommandLine
import CardFirmware.Files.SocketDirectory
import CardFirmware.Tool.Commands

/-! The tool as a program: its command line, and how a failure is shown. -/

namespace CardFirmware.ToolProgram

open CommandLine

def options : List OptionRule :=
  [⟨"card", some 'c', .number⟩, ⟨"firmware", some 'f', .path⟩, ⟨"socket-dir", none, .path⟩]

def commands : List (String × Option Char × ToolCommand) := [
  ("list", some 'l', .list), ("list-all", none, .listAll), ("update", some 'u', .update),
  ("about", none, .about), ("reboot", none, .reboot), ("erase-config", none, .eraseConfig),
  ("erase-app", none, .eraseApp), ("upload-leapfrog", none, .upload .leapfrog),
  ("upload-esp", none, .upload .esp), ("upload-app", none, .upload .app)]

def helpName : String := "help"

def grammar : Grammar :=
  { options, hasVersion := true
    commands := commands.map (fun (name, letter, _) => (name, letter)) ++ [(helpName, none)] }

def commandGrammar : Grammar := { options }

/-- Help is given on no command or on one that there is. -/
def helpOn : List String → Halt
  | [] => .help
  | [topic] => if (grammar.commands.lookup topic).isSome then .help else .rejected
  | _ => .rejected

/-- Reads a command line. The value of an option after the command counts before that of the same
option in front of it. -/
def arguments (words : List String) : Except Halt (Reading × Option ToolCommand) := do
  match ← read grammar {} words with
  | (outer, none) => return (outer, none)
  | (outer, some call) =>
    match commands.lookup call.name with
    | none => throw (helpOn call.words)
    | some (_, command) =>
      let (inner, _) ← call.read commandGrammar
      return ({ inner with values := inner.values ++ outer.values }, some command)

def indented (first rest : String) (message : String) : String :=
  "\n" ++ first ++ ("\n" ++ rest).intercalate (message.splitOn "\n")

/-- A failure and its causes, which are numbered if there are several. -/
def failureText (e : ToolError) : String :=
  let causes := match e.chain.tail with
    | [] => ""
    | [cause] => "\n\nCaused by:" ++ indented "    " "    " cause
    | causes => "\n\nCaused by:" ++ String.join (causes.zipIdx.map fun (cause, i) =>
      indented (String.ofList (Text.Numeral.padLeft 5 ' ' (Nat.toDigits 10 i)) ++ ": ") "       "
        cause)
  s!"Error: {e.message}{causes}\n"

def ofReading (e : Environment) (r : Reading) : Tool :=
  { discovery := { socketDirectories := match r.values.lookup "socket-dir" with
      | some directory => [Path.ofText directory]
      | none => e.toolDirectories }
    card := (r.values.lookup "card").bind number?
    firmware := (r.values.lookup "firmware").map Path.ofText }

/-- What has to be read of a machine before the program runs: paths, each with the number of levels
that matter. -/
def places (e : Environment) (words : List String) : List (Nat × Path) :=
  match arguments words with
  | .error _ => []
  | .ok (r, _) =>
    let tool := ofReading e r
    [(3, tool.discovery.cardRoot), (8, tool.discovery.usbRoot), (2, tool.firmwareDirectory)] ++
      tool.discovery.socketDirectories.map (2, ·) ++ tool.firmware.toList.map (1, ·)

/-- Whether an entry of this name can matter. Every other one is passed over. -/
def isRead (name : String) : Bool :=
  ["devnum", "serial"].contains name || name.startsWith "usb" || name.startsWith "card" ||
    name.toList.contains '-' || Firmware.isFirmwareName name

variable {σ : Type} (t : Transport σ)

/-- The default command is the listing, which no card can be chosen for. -/
def action (tool : Tool) : Option ToolCommand → Tool.Action σ Unit
  | none => if tool.card.isSome then throw .cardWithoutCommand else tool.run t .list
  | some (.upload .esp) => do
    Tool.print "Uploading ESP firmware...\n"
    tool.run t (.upload .esp)
  | some command => tool.run t command

def run (e : Environment) (words : List String) (h : Host σ) : Nat × Host σ :=
  match arguments words with
  | .error .rejected => (2, h)
  | .error .help => (0, h)
  | .error .version => (0, { h with stdout := h.stdout ++ s!"fcp-tool {programVersion}\n" })
  | .ok (r, command) =>
    let tool := ofReading e r
    match ((action t tool command).run).run h with
    | (.ok (), h) => (0, h)
    | (.error failure, h) => (1, { h with stderr := h.stderr ++ failureText failure })

end CardFirmware.ToolProgram
