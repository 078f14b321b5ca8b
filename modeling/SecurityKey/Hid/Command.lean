import SecurityKey.Bytes
import SecurityKey.Version

/-!
# CTAPHID commands

The bytes of CTAPHID frames: commands, error codes, keepalive statuses, and the answer to the first message.
-/

namespace SecurityKey.Hid

/-- The command of a frame. -/
inductive Command where
  | msg
  | cbor
  | init
  | ping
  | cancel
  | error
  | keepalive
  | wink
  | lock
  deriving DecidableEq

/-- A byte that is no command. -/
inductive UnknownCommand where
  | vendor (byte : UInt8)
  | invalid (byte : UInt8)
  deriving DecidableEq

namespace UnknownCommand

/-- The byte. -/
def byte : UnknownCommand → UInt8
  | vendor b => b
  | invalid b => b

/-- The name of the case with the byte. -/
def describe : UnknownCommand → String
  | vendor b => "UnsupportedVendor(" ++ toString b.toNat ++ ")"
  | invalid b => "InvalidCommand(" ++ toString b.toNat ++ ")"

/-- The text of the failure to read a command. -/
def message : UnknownCommand → String
  | vendor b => "'" ++ toString b.toNat ++ "' is a vendor command identifier, and thus unsupported"
  | invalid b => "'" ++ toString b.toNat ++ "' is not a valid CTAP-HID command identifier"

end UnknownCommand

namespace Command

/-- All commands. -/
def all : List Command :=
  [msg, cbor, init, ping, cancel, error, keepalive, wink, lock]

/-- The byte of a command, without the bit that marks the first packet of a message. -/
def byte : Command → UInt8
  | msg => 0x03
  | cbor => 0x10
  | init => 0x06
  | ping => 0x01
  | cancel => 0x11
  | error => 0x3F
  | keepalive => 0x3B
  | wink => 0x08
  | lock => 0x04

/-- The name of a command. -/
def name : Command → String
  | msg => "Msg"
  | cbor => "Cbor"
  | init => "Init"
  | ping => "Ping"
  | cancel => "Cancel"
  | error => "Error"
  | keepalive => "Keepalive"
  | wink => "Wink"
  | lock => "Lock"

/-- The command with a byte. -/
def ofByte? (b : UInt8) : Option Command :=
  all.find? (·.byte == b)

/-- The byte of a command in the first packet of a message. -/
def packetByte (command : Command) : UInt8 :=
  command.byte ||| 0x80

/-- The command that the first packet of a message names. Those from 0x40 up belong to vendors. -/
def ofPacketByte (b : UInt8) : Except UnknownCommand Command :=
  let b := b &&& 0x7F
  if 0x40 ≤ b then .error (.vendor b)
  else
    match ofByte? b with
    | some command => .ok command
    | none => .error (.invalid b)

end Command

/-- The name of an error code. -/
def errorName? (code : UInt8) : Option String :=
  List.lookup code [
    (0x01, "InvalidCmd"), (0x02, "InvalidPar"), (0x03, "InvalidLen"), (0x04, "InvalidSeq"), (0x05, "MsgTimeout"),
    (0x06, "ChannelBusy"), (0x0A, "LockRequired"), (0x0B, "InvalidChannel"), (0x7F, "Other")]

/-- What an authenticator is waiting for while it works on a request. -/
inductive Keepalive where
  | processing
  | userPresence
  deriving DecidableEq

namespace Keepalive

/-- The status with a byte. -/
def ofByte? (b : UInt8) : Option Keepalive :=
  if b = 1 then some processing else if b = 2 then some userPresence else none

/-- The name of a status. -/
def name : Keepalive → String
  | processing => "Processing"
  | userPresence => "Upneeded"

end Keepalive

/-- The answer to the first message on a connection. -/
structure InitResponse where
  nonce : Bytes
  channelId : UInt32
  protocolVersion : UInt8
  deviceVersion : Version
  capabilities : UInt8

namespace InitResponse

/-- The answer at the start of a payload. -/
def parse? (payload : Bytes) : Option InitResponse := do
  let (nonce, rest) ← Bytes.splitAt? 8 payload
  let (channelId, rest) ← Bytes.splitAt? 4 rest
  match rest with
  | protocolVersion :: major :: minor :: build :: capabilities :: _ =>
    return {
      nonce, channelId := .ofNat (Bytes.toNat channelId), protocolVersion
      deviceVersion := ⟨major, minor, build⟩, capabilities }
  | _ => none

/-- Whether the device takes CTAP2 requests. -/
def supportsCbor (response : InitResponse) : Bool :=
  response.capabilities &&& 0x04 != 0

end InitResponse

end SecurityKey.Hid
