import SecurityKey.Card.Apdu
import SecurityKey.Link.Port

/-!
# Smartcard exchanges

A command is sent part by part, and every part but the last has to be answered with success. The response to the last
part may come in pieces, each of which announces the next one. A smartcard cannot be asked to give up.
-/

namespace SecurityKey.Card

open Link (Arrival Control Port)

/-- The identifier of the FIDO application. -/
def fidoApplication : Bytes :=
  [0xA0, 0x00, 0x00, 0x06, 0x47, 0x2F, 0x00, 0x01]

/-- The next response. -/
def receive (sent : List Bytes) :
    List (Arrival Bytes) → Option Control → Except Link.Failure Bytes × Port Bytes Bytes
  | [], control => (.error .closed, ⟨[], sent, control⟩)
  | .sendFailure reason :: rest, control => (.error (.io reason), ⟨rest, sent, control⟩)
  | .failure reason :: rest, control => (.error reason, ⟨rest, sent, control⟩)
  | .cancel :: rest, control => receive sent rest (control.map Control.cancel)
  | .message response :: rest, control => (.ok response, ⟨rest, sent, control⟩)

/-- Sends a command and receives the response. -/
def transmit (apdu : Bytes) (port : Port Bytes Bytes) : Except Link.Failure Bytes × Port Bytes Bytes :=
  match port.send apdu with
  | (.error reason, port) => (.error reason, port)
  | (.ok (), port) => receive port.sent port.arrivals port.control

/-- Sends the parts of a command before its last one. -/
def sendChain : List Bytes → Port Bytes Bytes → Except Link.Failure Unit × Port Bytes Bytes
  | [], port => (.ok (), port)
  | apdu :: apdus, port =>
    match transmit apdu port with
    | (.error reason, port) => (.error reason, port)
    | (.ok response, port) =>
      match splitStatus? response with
      | none => (.error .emptyResponse, port)
      | some (_, word) => if word = success then sendChain apdus port else (.error (.apduStatus word), port)

/-- Receives the pieces of a response, where `body` has come already, and asks for each further piece that is
announced. -/
def collect :
    List (Arrival Bytes) → (body : Bytes) → (sent : List Bytes) → Option Control →
      Except Link.Failure Bytes × Port Bytes Bytes
  | [], _, sent, control => (.error .closed, ⟨[], sent, control⟩)
  | .sendFailure reason :: rest, _, sent, control => (.error (.io reason), ⟨rest, sent, control⟩)
  | .failure reason :: rest, _, sent, control => (.error reason, ⟨rest, sent, control⟩)
  | .cancel :: rest, body, sent, control => collect rest body sent (control.map Control.cancel)
  | .message response :: rest, body, sent, control =>
    match splitStatus? response with
    | none => (.error .emptyResponse, ⟨rest, sent, control⟩)
    | some (piece, word) =>
      if word = success then (.ok (body ++ piece), ⟨rest, sent, control⟩)
      else if hasMore word then
        collect rest (body ++ piece) (sent ++ [Apdu.getResponse word.toUInt8]) control
      else (.error (.apduStatus word), ⟨rest, sent, control⟩)

/-- Sends a command and receives its whole response. -/
def exchange (apdu : Apdu) (extendedLength : Bool) (port : Port Bytes Bytes) :
    Except Link.Failure Bytes × Port Bytes Bytes :=
  let parts := apdu.encode extendedLength
  match sendChain parts.dropLast port with
  | (.error reason, port) => (.error reason, port)
  | (.ok (), port) =>
    match parts.getLast? with
    | none => (.error .emptyResponse, port)
    | some last => collect port.arrivals [] (port.sent ++ [last]) port.control

end SecurityKey.Card
