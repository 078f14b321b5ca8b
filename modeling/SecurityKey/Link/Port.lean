import SecurityKey.Hid.Command
import SecurityKey.Link.Failure

/-!
# Ports

The platform's end of a link, as data: what is going to arrive on it, and what has been sent. A link on which nothing
arrives any more is closed.
-/

namespace SecurityKey.Link

/-- A caller's hold on one operation: whether it was cancelled, the keepalive statuses that came in, and whether the
exchange in progress heeds the caller. -/
structure Control where
  cancelled : Bool := false
  keepalives : List Hid.Keepalive := []
  heeded : Bool := true
  deriving DecidableEq

/-- The next thing that happens on a link while the platform waits. -/
inductive Arrival (ι : Type) where
  /-- The authenticator's message comes in. -/
  | message (content : ι)
  /-- Receiving fails. -/
  | failure (reason : Failure)
  /-- The next message cannot be sent; for one who receives, the link fails. -/
  | sendFailure (reason : String)
  /-- The caller cancels the operation. -/
  | cancel

/-- The end of a link on which messages `ι` arrive and messages `ο` are sent. -/
structure Port (ι ο : Type) where
  arrivals : List (Arrival ι)
  sent : List ο
  control : Option Control

namespace Port

/-- A message sent, and the failure to send it if there is one. -/
def send {ι ο : Type} (message : ο) (port : Port ι ο) : Except Failure Unit × Port ι ο :=
  let port := { port with sent := port.sent ++ [message] }
  match port.arrivals with
  | .sendFailure reason :: rest => (.error (.io reason), { port with arrivals := rest })
  | _ => (.ok (), port)

end Port

/-- A hold on an operation that is cancelled. -/
def Control.cancel (control : Control) : Control :=
  { control with cancelled := true }

/-- Whether the exchange in progress is to be cancelled. -/
def Control.stops (control : Control) : Bool :=
  control.cancelled && control.heeded

/-- A hold on an operation with one more keepalive status, when the exchange heeds it. -/
def Control.note (status : Hid.Keepalive) (control : Control) : Control :=
  if control.heeded then { control with keepalives := control.keepalives ++ [status] } else control

end SecurityKey.Link
