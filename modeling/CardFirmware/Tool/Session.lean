import CardFirmware.Control.Frame
import CardFirmware.Firmware.File

/-! The client's end of a connection. Responses are read until one ends the request; progress is
shown on the way. -/

namespace CardFirmware

inductive SessionError where
  | connect (path : Path) (cause : IoError)
  | server (code : ErrorCode)
  | unknownErrorCode (number : Int)
  | timeout
  | disconnected
  | notUploadable (kind : FirmwareKind)
  | wire (cause : WireError)
  | io (cause : IoError)
  deriving DecidableEq

namespace SessionError

def message : SessionError → String
  | connect path cause => s!"Failed to connect to fcp-server at {path.display}: {cause.message}"
  | server code => code.message
  | unknownErrorCode number => s!"Invalid error code: {number}"
  | timeout => "Operation timed out"
  | disconnected => "fcp-server closed the connection"
  | notUploadable kind => s!"{kind.name} sections cannot be uploaded"
  | wire cause => s!"Invalid response: {cause.message}"
  | io cause => s!"Socket error: {cause.message}"

def chain (e : SessionError) : List String :=
  e.message :: match e with
    | connect _ cause | io cause => [cause.message]
    | wire cause => [cause.message]
    | _ => []

end SessionError

namespace ProgressBar

def width : Nat := 50

/-- A mark for each two percent, half a mark for an odd one. -/
def mark (percent i : Nat) : Char :=
  if i < percent / 2 then '#'
  else if i = percent / 2 then if percent % 2 = 1 then '>' else '-'
  else '.'

def render (percent : Nat) : String :=
  let p := min percent 100
  String.ofList ('\r' :: '[' :: (List.range width).map (mark p) ++ [']', ' '] ++
    Text.Numeral.padLeft 3 ' ' (Nat.toDigits 10 p) ++ ['%'])

end ProgressBar

/-- What a client has received and not yet read, whether more can come, and whether a progress bar
stands on the current line. -/
structure ReplyStream where
  incoming : Bytes
  ended : Bool
  showing : Bool := false
  deriving DecidableEq

namespace ReplyStream

/-- Takes exactly `n` bytes. Fewer are lost: either no more will come or none came in time. -/
def takeExactly (n : Nat) (s : ReplyStream) : Except SessionError Bytes × ReplyStream :=
  if s.incoming.hasAtLeast n then
    (.ok (s.incoming.take n), { s with incoming := s.incoming.drop n })
  else (.error (if s.ended then .disconnected else .timeout), { s with incoming := [] })

def checkHeader (b : Bytes) : Except SessionError Header :=
  match Header.decode b with
  | .error e => .error (.wire e)
  | .ok h =>
    if h.magic ≠ responseMagic then .error (.wire (.magic h.magic))
    else if h.payloadLength > maxResponseLength then
      .error (.wire (.payloadTooLarge h.payloadLength maxResponseLength))
    else .ok h

def readResponse (s : ReplyStream) : Except SessionError Response × ReplyStream :=
  match s.takeExactly headerLength with
  | (.error e, s) => (.error e, s)
  | (.ok b, s) =>
    match checkHeader b with
    | .error e => (.error e, s)
    | .ok h =>
      match s.takeExactly h.payloadLength.toNat with
      | (.error e, s) => (.error e, s)
      | (.ok payload, s) => ((Response.decode h payload).mapError .wire, s)

def endLine (s : ReplyStream) : String × ReplyStream :=
  (if s.showing then "\n" else "", { s with showing := false })

def await (quiet : Bool) (s : ReplyStream) : Except SessionError Unit × String × ReplyStream :=
  go (s.incoming.length + 1) s
where
  go : Nat → ReplyStream → Except SessionError Unit × String × ReplyStream
    | 0, s => (.error .timeout, s.endLine)
    | fuel + 1, s =>
      match s.readResponse with
      | (.error e, s) => (.error e, s.endLine)
      | (.ok (.progress percent), s) =>
        let (result, shown, s) := go fuel { s with showing := true }
        (result, ProgressBar.render percent.toNat ++ shown, s)
      | (.ok .success, s) =>
        if s.showing then
          let (line, s) := s.endLine
          (.ok (), ProgressBar.render 100 ++ line, s)
        else (.ok (), if quiet then "" else "Done!\n", s)
      | (.ok (.error code), s) => (.error (.server code), s.endLine)
      | (.ok (.unknownError number), s) => (.error (.unknownErrorCode number), s.endLine)

def awaitEnd (s : ReplyStream) : Except SessionError Unit × ReplyStream :=
  (if s.ended then .ok () else .error .timeout, { s with incoming := [] })

end ReplyStream

def FirmwareSection.uploadMessage (s : FirmwareSection) : Except SessionError Bytes :=
  let payload : FirmwarePayload := ⟨s.vid, s.pid, s.sha256, s.md5OrZero, s.data⟩
  match s.kind with
  | .app | .leapfrog => .ok (RequestType.appUpdate.messageWith payload)
  | .esp => .ok (RequestType.espUpdate.messageWith payload)
  | .container => .error (.notUploadable s.kind)

end CardFirmware
