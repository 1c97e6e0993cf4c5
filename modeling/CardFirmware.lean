import CardFirmware.ByteQueue
import CardFirmware.Bytes
import CardFirmware.CommandLine
import CardFirmware.Control.Frame
import CardFirmware.Control.Payload
import CardFirmware.Control.Reassembly
import CardFirmware.Control.Status
import CardFirmware.Device.Client
import CardFirmware.Device.Command
import CardFirmware.Device.Devmap
import CardFirmware.Device.Dialogue
import CardFirmware.Device.Error
import CardFirmware.Device.Opcode
import CardFirmware.Device.Packet
import CardFirmware.Device.Progress
import CardFirmware.Device.Reply
import CardFirmware.Device.Script
import CardFirmware.Device.Signals
import CardFirmware.Device.Simulator
import CardFirmware.Digest.Md5
import CardFirmware.Digest.Sha256
import CardFirmware.Encoding.Base64
import CardFirmware.Encoding.Deflate
import CardFirmware.Encoding.Zlib
import CardFirmware.Esp.Config
import CardFirmware.Esp.Update
import CardFirmware.Files.Error
import CardFirmware.Files.Path
import CardFirmware.Files.SocketAddress
import CardFirmware.Files.SocketDirectory
import CardFirmware.Files.Tree
import CardFirmware.Firmware.Directory
import CardFirmware.Firmware.File
import CardFirmware.Flash.Directory
import CardFirmware.Flash.Segment
import CardFirmware.Flash.Update
import CardFirmware.Json.Printer
import CardFirmware.Json.Syntax
import CardFirmware.Json.Value
import CardFirmware.Main
import CardFirmware.Proofs.Bytes
import CardFirmware.Proofs.Chunks
import CardFirmware.Proofs.Control.Bounds
import CardFirmware.Proofs.Control.Messages
import CardFirmware.Proofs.Control.Payload
import CardFirmware.Proofs.Control.Reading
import CardFirmware.Proofs.Control.Reassembly
import CardFirmware.Proofs.Control.Status
import CardFirmware.Proofs.Device.Commands
import CardFirmware.Proofs.Device.Devmap
import CardFirmware.Proofs.Device.Failure
import CardFirmware.Proofs.Device.Order
import CardFirmware.Proofs.Device.Packets
import CardFirmware.Proofs.Device.Registers
import CardFirmware.Proofs.Device.Replies
import CardFirmware.Proofs.Device.Reports
import CardFirmware.Proofs.Device.Runs
import CardFirmware.Proofs.Device.Simulator
import CardFirmware.Proofs.Device.Success
import CardFirmware.Proofs.Esp.Bounds
import CardFirmware.Proofs.Esp.Completion
import CardFirmware.Proofs.Esp.Config
import CardFirmware.Proofs.Esp.History
import CardFirmware.Proofs.Esp.Order
import CardFirmware.Proofs.Esp.Reports
import CardFirmware.Proofs.Esp.Transfer
import CardFirmware.Proofs.Esp.Waits
import CardFirmware.Proofs.Files.Changes
import CardFirmware.Proofs.Files.Entries
import CardFirmware.Proofs.Files.Paths
import CardFirmware.Proofs.Files.Walks
import CardFirmware.Proofs.Files.Ways
import CardFirmware.Proofs.Firmware.Damage
import CardFirmware.Proofs.Firmware.Directory
import CardFirmware.Proofs.Firmware.Grammar
import CardFirmware.Proofs.Firmware.Header
import CardFirmware.Proofs.Firmware.Reading
import CardFirmware.Proofs.Firmware.Refusals
import CardFirmware.Proofs.Firmware.Scan
import CardFirmware.Proofs.Firmware.Truncation
import CardFirmware.Proofs.Flash.Completion
import CardFirmware.Proofs.Flash.Directory
import CardFirmware.Proofs.Flash.ErasePolls
import CardFirmware.Proofs.Flash.Roles
import CardFirmware.Proofs.Flash.Shares
import CardFirmware.Proofs.Flash.Update
import CardFirmware.Proofs.Flash.Writing
import CardFirmware.Proofs.Json.Printing
import CardFirmware.Proofs.Json.Scalars
import CardFirmware.Proofs.Service.Admission
import CardFirmware.Proofs.Service.Answers
import CardFirmware.Proofs.Service.Bystanders
import CardFirmware.Proofs.Service.Conversation
import CardFirmware.Proofs.Service.DirectoryCache
import CardFirmware.Proofs.Service.Dispatch
import CardFirmware.Proofs.Service.Exclusion
import CardFirmware.Proofs.Service.Failure
import CardFirmware.Proofs.Service.FlashSafety
import CardFirmware.Proofs.Service.Installation
import CardFirmware.Proofs.Service.Network
import CardFirmware.Proofs.Service.Publication
import CardFirmware.Proofs.Service.Rounds
import CardFirmware.Proofs.Service.Settling
import CardFirmware.Proofs.Service.Tenure
import CardFirmware.Proofs.Service.Turns
import CardFirmware.Proofs.Service.Verification
import CardFirmware.Proofs.Text.Utf8
import CardFirmware.Proofs.Tool.Agreement
import CardFirmware.Proofs.Tool.Discovery
import CardFirmware.Proofs.Tool.Ports
import CardFirmware.Proofs.Tool.Replies
import CardFirmware.Proofs.Tool.Selection
import CardFirmware.Proofs.Tool.Session
import CardFirmware.Proofs.Tool.UpdateOrder
import CardFirmware.Service.Dispatch
import CardFirmware.Service.Network
import CardFirmware.Service.Program
import CardFirmware.Service.Publication
import CardFirmware.Service.Server
import CardFirmware.Text.Blank
import CardFirmware.Text.Hidden
import CardFirmware.Text.Numeral
import CardFirmware.Text.Quoted
import CardFirmware.Text.Utf8
import CardFirmware.Tool.Commands
import CardFirmware.Tool.Discovery
import CardFirmware.Tool.Host
import CardFirmware.Tool.Listing
import CardFirmware.Tool.Program
import CardFirmware.Tool.Selection
import CardFirmware.Tool.Session
import CardFirmware.UsbId
import CardFirmware.Version
import CardFirmware.Wire
