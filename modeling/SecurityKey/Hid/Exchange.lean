import SecurityKey.Link.Port

/-!
# CTAPHID exchanges

A request is one frame, and the first frame that is not a keepalive answers it. While the authenticator works on the
request the caller may cancel it: one cancel frame is sent, and the answer is waited for as before.
-/

namespace SecurityKey.Hid

open Link (Arrival Control Port)

/-- A whole message. -/
structure Frame where
  command : Except UnknownCommand Command
  payload : Bytes

namespace Frame

/-- The message with a command. -/
def ofCommand (command : Command) (payload : Bytes) : Frame :=
  ⟨.ok command, payload⟩

/-- The message whose first packet names the command `b`. -/
def ofPacket (b : UInt8) (payload : Bytes) : Frame :=
  ⟨Command.ofPacketByte (b ||| 0x80), payload⟩

/-- The request to give up the operation in progress. -/
def cancel : Frame :=
  ofCommand .cancel []

/-- The keepalive status that a message brings, when it is a keepalive with a known one. -/
def keepalive? (frame : Frame) : Option Keepalive :=
  frame.payload.head?.bind Keepalive.ofByte?

/-- What a frame means for a request with the command `command`; keepalives mean nothing. -/
def verdict? (command : Command) (frame : Frame) : Option (Except Link.Failure Bytes) :=
  match frame.command with
  | .error unknown => some (.error (.unexpectedFrame unknown.byte))
  | .ok received =>
    if received = command then some (.ok frame.payload)
    else if received = .keepalive then none
    else if received = .error then some (.error (.hidError (frame.payload.headD 0x7F)))
    else some (.error (.unexpectedFrame received.byte))

end Frame

/-- The platform while it waits: what was sent, and whether that includes a cancel frame. -/
structure Waiting where
  sent : List Frame
  control : Option Control
  cancelSent : Bool

namespace Waiting

/-- Sends a cancel frame if the operation is cancelled and none was sent. -/
def settle (w : Waiting) : Waiting :=
  if w.control.any Control.stops && !w.cancelSent then
    { w with sent := w.sent ++ [Frame.cancel], cancelSent := true }
  else w

/-- The operation cancelled by its caller. -/
def cancel (w : Waiting) : Waiting :=
  { w with control := w.control.map Control.cancel }

/-- A keepalive noted, when its status is known. -/
def note (w : Waiting) (frame : Frame) : Waiting :=
  match frame.keepalive? with
  | some status => { w with control := w.control.map (Control.note status) }
  | none => w

/-- The port of a platform that stops waiting. -/
def port (w : Waiting) (arrivals : List (Arrival Frame)) : Port Frame Frame :=
  ⟨arrivals, w.sent, w.control⟩

end Waiting

/-- Waits for the answer to a request with the command `command`. -/
def await (command : Command) : List (Arrival Frame) → Waiting → Except Link.Failure Bytes × Port Frame Frame
  | [], w => (.error .closed, w.settle.port [])
  | .sendFailure reason :: rest, w => (.error (.io reason), w.settle.port rest)
  | .failure reason :: rest, w => (.error reason, w.settle.port rest)
  | .cancel :: rest, w => await command rest w.settle.cancel
  | .message frame :: rest, w =>
    match frame.verdict? command with
    | some verdict => (verdict, w.settle.port rest)
    | none => await command rest (w.settle.note frame)

/-- Sends a request and waits for its answer. -/
def exchange (command : Command) (request : Bytes) (port : Port Frame Frame) :
    Except Link.Failure Bytes × Port Frame Frame :=
  match port.send (Frame.ofCommand command request) with
  | (.error reason, port) => (.error reason, port)
  | (.ok (), port) => await command port.arrivals ⟨port.sent, port.control, false⟩

end SecurityKey.Hid
