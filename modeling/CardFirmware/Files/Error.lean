import CardFirmware.Files.Path
import CardFirmware.Text.Quoted

/-! Failures of the operating system, by cause. -/

namespace CardFirmware

inductive IoError where
  | notFound
  | deviceFault
  | permissionDenied
  | busy
  | fileExists
  | notDirectory
  | isDirectory
  | nameTooLong
  | tooManyLinks
  | zeroInPath
  | invalidArgument
  | connectionRefused
  | noSuchDevice
  | brokenPipe
  | addressInUse
  | zeroInAddress
  | addressTooLong
  | abstractNameTooLong
  | invalidUtf8
  | unparsable (text : String) (path : Path)
  | locked
  | other (text : String)
  deriving DecidableEq

namespace IoError

def message : IoError → String
  | notFound => "No such file or directory (os error 2)"
  | deviceFault => "Input/output error (os error 5)"
  | permissionDenied => "Permission denied (os error 13)"
  | busy => "Device or resource busy (os error 16)"
  | fileExists => "File exists (os error 17)"
  | notDirectory => "Not a directory (os error 20)"
  | isDirectory => "Is a directory (os error 21)"
  | nameTooLong => "File name too long (os error 36)"
  | tooManyLinks => "Too many levels of symbolic links (os error 40)"
  | zeroInPath => "file name contained an unexpected NUL byte"
  | invalidArgument => "Invalid argument (os error 22)"
  | connectionRefused => "Connection refused (os error 111)"
  | noSuchDevice => "No such device or address (os error 6)"
  | brokenPipe => "Broken pipe (os error 32)"
  | addressInUse => "Address already in use (os error 98)"
  | zeroInAddress => "paths must not contain interior null bytes"
  | addressTooLong => "path must be shorter than SUN_LEN"
  | abstractNameTooLong => "abstract socket name must be shorter than SUN_LEN"
  | invalidUtf8 => "stream did not contain valid UTF-8"
  | unparsable text path => "cannot parse " ++ Text.Quoted.quote text ++ " in " ++ path.display
  | locked => "fcp-server is already running for this card (locked)"
  | other text => text

end IoError

end CardFirmware
