import SecurityKey.Card.Exchange
import SecurityKey.Hid.Exchange

/-!
# Links

An authenticator is reached over CTAPHID or as a smartcard. Both carry CTAP2 requests and U2F commands, each in its
own wrapping.
-/

namespace SecurityKey

open Link (Control Port)

/-- The platform's end of a link, with what is known about the device on the other end. -/
inductive Link where
  | hid (port : Port Hid.Frame Hid.Frame) (deviceVersion : Option Version)
  | card (port : Port Bytes Bytes) (extendedLength : Bool)

namespace Link

/-- Whether operations can be cancelled. -/
def supportsCancellation : Link → Bool
  | hid .. => true
  | card .. => false

/-- The device's version, 0.0.0 when it is not known. -/
def version : Link → Version
  | hid _ deviceVersion => deviceVersion.getD {}
  | card .. => {}

/-- The caller's hold on the operation in progress. -/
def control : Link → Option Control
  | hid port _ => port.control
  | card port _ => port.control

/-- Whether exchanges heed the caller's hold on the operation in progress, if there is one. -/
def isHeeding (link : Link) : Bool :=
  link.control.all (·.heeded)

/-- The link whose exchanges heed the caller's hold on the operation in progress or do not. -/
def heed (heeded : Bool) : Link → Link
  | hid port deviceVersion => hid { port with control := port.control.map ({ · with heeded }) } deviceVersion
  | card port extendedLength => card { port with control := port.control.map ({ · with heeded }) } extendedLength

/-- Makes the authenticator ready for messages: on a smartcard its application is selected. -/
def select : Link → Except Failure Unit × Link
  | hid port deviceVersion => (.ok (), hid port deviceVersion)
  | card port extendedLength =>
    let (response, port) := Card.exchange (.select Card.fidoApplication) extendedLength port
    (response.map fun _ => (), card port extendedLength)

/-- Sends a CTAP2 request and receives the answer, which starts with a status code. -/
def sendCbor (request : Bytes) : Link → Except Failure Bytes × Link
  | hid port deviceVersion =>
    let (answer, port) := Hid.exchange .cbor request port
    (answer, hid port deviceVersion)
  | card port extendedLength =>
    let (answer, port) := Card.exchange ⟨.ctap2, request⟩ extendedLength port
    (answer, card port extendedLength)

/-- The body of a response whose status word is success. -/
def successBody (response : Bytes) : Except Failure Bytes :=
  match Card.splitStatus? response with
  | none => .error .emptyResponse
  | some (body, word) => if word = Card.success then .ok body else .error (.apduStatus word)

/-- Sends a U2F command and receives the body of the response. -/
def sendCommand (apdu : Card.Apdu) : Link → Except Failure Bytes × Link
  | hid port deviceVersion =>
    let (response, port) := Hid.exchange .msg (Card.Apdu.encodeExtended apdu.header apdu.data) port
    (response.bind successBody, hid port deviceVersion)
  | card port extendedLength =>
    let (response, port) := Card.exchange apdu extendedLength port
    (response, card port extendedLength)

end Link

end SecurityKey
