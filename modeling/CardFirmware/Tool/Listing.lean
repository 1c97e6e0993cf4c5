import CardFirmware.Tool.Selection

/-! Listings of cards, products and firmware. -/

namespace CardFirmware

def versionString (app esp : Option Version) : String :=
  let app := (app.map Version.render).getD "unknown"
  match esp with
  | some esp => s!"App {app}, ESP {esp.render}"
  | none => app

def describeCard (c : SoundCard) (found : List FoundFirmware) : String :=
  s!"ALSA Card {c.card.toNat}:\n" ++
  s!"  USB ID: {c.usbId.render}\n" ++
  s!"  Product: {c.product}\n" ++
  s!"  Serial: {c.serialOrUnknown}\n" ++
  "  Firmware: " ++ versionString c.appVersion c.espVersion ++ "\n" ++
  (if c.status.isNone then "  (fcp-server not running)\n" else "") ++
  match Firmware.latest? found c.usbId.pid with
  | some latest =>
    let v := latest.header.version
    "  (" ++ (UpdateStatus.compare c.appVersion v).label ++ s!": {v.render})\n"
  | none => "  (no update firmware available)\n"

def padRight (width : Nat) (s : String) : String :=
  String.ofList (s.toList ++ List.replicate (width - s.length) ' ')

def describeProduct (cards : List SoundCard) (found : List FoundFirmware) (p : Product) : String :=
  let connected := cards.filter (·.usbId.pid = p.pid)
  let versions := (found.filter (·.header.pid = p.pid)).map (·.header.version.render)
  (if connected.isEmpty then " " else "*") ++ Text.Numeral.hex 4 p.pid.toNat ++ " " ++
    padRight 25 p.name ++ " " ++ ", ".intercalate versions ++
    (if connected.isEmpty then ""
     else " (running: " ++
      ", ".intercalate (connected.map fun c => versionString c.appVersion none) ++ ")") ++ "\n"

def describeAll (cards : List SoundCard) (found : List FoundFirmware) (directory : Path) :
    String :=
  (if found.isEmpty then
    "No firmware found.\n\n" ++
    s!"Firmware files should be placed in:\n  {directory.display}\n\n" ++
    s!"Obtain firmware from:\n  {firmwareUrl}\n\n"
   else "") ++
  "USB Product ID, Product Name, and Firmware versions available (* = connected)\n" ++
  String.join (supportedProducts.map (describeProduct cards found))

def programVersion : String := "0.1.0"

def homeUrl : String := "https://github.com/geoffreybennett"

def aboutText : String :=
  s!"FCP Tool Version {programVersion}\n\n" ++
  "ABOUT\n-----\n\n" ++
  "The FCP Tool provides firmware management for Focusrite(R) USB audio\n" ++
  "interfaces using the Linux FCP driver.\n\n" ++
  "REQUIREMENTS\n------------\n\n" ++
  s!"Requires the FCP USB protocol driver from\n  {homeUrl}/linux-fcp\n\n" ++
  s!"Requires device firmware to be placed in:\n  {Firmware.systemDirectory.display}\n\n" ++
  s!"Obtain firmware from:\n  {firmwareUrl}\n\n" ++
  "Focusrite, Scarlett, Clarett, and Vocaster are trademarks or\n" ++
  "registered trademarks of Focusrite Audio Engineering Limited in\n" ++
  "England, USA, and/or other countries. Use of these trademarks does not\n" ++
  "imply any affiliation or endorsement of this software.\n\n" ++
  "SUPPORT AND ADDITIONAL SOFTWARE\n-------------------------------\n\n" ++
  s!"For support, please open an issue on GitHub:\n  {homeUrl}/fcp-support\n\n" ++
  s!"GUI control panel available at:\n  {homeUrl}/alsa-scarlett-gui\n"

end CardFirmware
