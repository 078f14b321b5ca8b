import SecurityKey.Fingerprint.Enrollment
import SecurityKey.Pin.Token
import SecurityKey.Session.Basic
import SecurityKey.Text.Blank

/-!
# Fingerprints over a session

Enrolling, listing, naming and removing fingerprints, each authorized by a token.
-/

namespace SecurityKey

open Cbor (Value)

/-- The arguments of the command for enrollment. -/
structure BioParameters where
  modality : Option UInt8 := none
  subCommand : Option UInt8 := none
  subCommandParams : Option Value := none
  pinUvAuthProtocol : Option UInt8 := none
  pinUvAuthParam : Option Bytes := none
  getModality : Option Bool := none

/-- The argument map of the parameters. -/
def BioParameters.toValue (parameters : BioParameters) : Value :=
  Request.pack [
    parameters.modality.map .ofByte,
    parameters.subCommand.map .ofByte,
    parameters.subCommandParams,
    parameters.pinUvAuthProtocol.map .ofByte,
    parameters.pinUvAuthParam.map .bytes,
    parameters.getModality.map .bool]

/-- A time span. -/
structure Duration where
  seconds : UInt64
  nanoseconds : UInt32
  deriving DecidableEq

namespace Duration

/-- The time span of a number of milliseconds. -/
def ofMilliseconds (n : UInt64) : Duration :=
  ⟨n / 1000, (n % 1000 * 1000000).toUInt32⟩

/-- The whole milliseconds of a time span, the low 64 bits of their number. -/
def milliseconds (d : Duration) : UInt64 :=
  d.seconds * 1000 + (d.nanoseconds / 1000000).toUInt64

end Duration

namespace Fingerprint

open Operation Session

/-- The modality of fingerprints. -/
def modality : UInt8 := 0x01

/-- How a fingerprint is captured. -/
inductive SensorKind where
  | touch
  | swipe
  deriving DecidableEq

namespace SensorKind

/-- The kind with a number. -/
def ofNumber? (n : UInt64) : Option SensorKind :=
  if n = 1 then some touch else if n = 2 then some swipe else none

/-- The name of a kind. -/
def name : SensorKind → String
  | touch => "Touch"
  | swipe => "Swipe"

end SensorKind

/-- What an authenticator reports about its sensor. -/
structure SensorInfo where
  kind : SensorKind
  maxSamples : UInt64
  maxNameLength : Option UInt64

/-- Sends the command for enrollment, in its preview form where that is the one the authenticator knows. -/
def send (parameters : BioParameters) : Operation (Option Response) := do
  let command ← flavor "bioEnroll" .bioEnrollment .bioEnrollmentPreview
  Session.send command (some parameters.toValue)

/-- Asks which modality the authenticator enrolls. -/
def getModality : Operation UInt8 := unattended do
  let response ← expectData "getModality" (← send { getModality := some true })
  let reported ← response.require .unsigned 0x01
  if reported < 256 then return reported.toUInt8 else throw (.badResponse (.outOfRange "Modality" reported))

/-- Stops unless the authenticator enrolls the modality `requested`. -/
def requireModality (requested : UInt8) : Operation Unit := unattended do
  if !(← currentInfo).supportsBioEnrollment then throw (.notSupported .bioEnrollment)
  let reported ← getModality
  if reported ≠ requested then throw (.modality requested reported)

/-- Stops unless the authenticator enrolls fingerprints. -/
def requireSupport : Operation Unit :=
  requireModality modality

/-- What of a request a token vouches for. -/
inductive Authorization where
  | none
  | protocolOnly
  | signed
  deriving DecidableEq

/-- Sends a sub-command with its parameters. -/
def call (token : Token) (subCommand : UInt8) (params : Option Value) (authorization : Authorization) :
    Operation (Option Response) := do
  let base : BioParameters :=
    { modality := some modality, subCommand := some subCommand, subCommandParams := params }
  match authorization with
  | .none => send base
  | .protocolOnly => send { base with pinUvAuthProtocol := some token.protocol.version }
  | .signed =>
    let message ← Request.authenticated [modality] subCommand params
    send { base with
      pinUvAuthProtocol := some token.protocol.version
      pinUvAuthParam := some (token.authenticate message) }

/-- Asks for the properties of the sensor. -/
def getSensorInfo (token : Token) : Operation SensorInfo := unattended do
  let response ← expectData "getFingerprintSensorInfo" (← call token 0x07 none .none)
  let number ← response.require .unsigned 0x02
  let kind ← Result.ofOption (.fingerprintKind number) (SensorKind.ofNumber? number)
  return {
    kind
    maxSamples := ← response.require .unsigned 0x03
    maxNameLength := ← response.field .unsigned 0x08 }

/-- The report on a sample that an answer holds. -/
def sampleOf (response : Response) : Result Sample := do
  let feedback ← response.require .unsigned 0x05
  if 256 ≤ feedback then throw (.badResponse (.outOfRange "Sample status" feedback))
  return { feedback := feedback.toUInt8, remaining := ← response.require .unsigned 0x06 }

/-- A time span as a parameter. -/
def timeoutValue (timeout : Option Duration) : Option Value :=
  timeout.map fun d => .unsigned d.milliseconds

/-- Begins an enrollment with its first sample: the new template, and the report on the sample. -/
def beginEnrollment (token : Token) (timeout : Option Duration) : Operation (Bytes × Sample) := do
  let params := Request.pack [none, none, timeoutValue timeout]
  let response ← expectData "enrollBegin" (← call token 0x01 (some params) .signed)
  let templateId ← response.require .bytes 0x04
  return (templateId, ← sampleOf response)

/-- Takes the next sample of a template. -/
def captureNext (token : Token) (templateId : Bytes) (timeout : Option Duration) : Operation Sample := do
  let params := Request.pack [some (.bytes templateId), none, timeoutValue timeout]
  let response ← expectData "enrollCaptureNextSample" (← call token 0x02 (some params) .signed)
  sampleOf response

/-- Gives up the enrollment in progress. -/
def cancelEnrollment (token : Token) : Operation Unit := unattended do
  let _ ← call token 0x03 none .protocolOnly

/-- The name of a template without blanks at its ends, when something remains. -/
def nameOf (content : Option Value) : Option String :=
  match (content.bind Value.text?).map Text.trim with
  | some "" => none
  | name => name

/-- The first value under an unsigned key. -/
def entryField (entries : List (Value × Value)) (key : UInt64) : Option Value :=
  (entries.find? fun entry => entry.1.unsigned? == some key).map (·.2)

/-- The ID and the name in the description of a template. -/
def templateOf (description : Value) : Result (Bytes × Option String) := do
  let entries ← Result.ofOption .templateKind description.map?
  let id ← Result.ofOption .templateWithoutId ((entryField entries 0x01).bind Value.bytes?)
  return (id, nameOf (entryField entries 0x02))

/-- The templates that an answer lists, with their names. -/
def templatesOf (response : Option Response) : Result (Dictionary Bytes (Option String)) := do
  let descriptions ← match response with
    | some response => response.field .array 0x07
    | none => pure none
  return .ofList (← (descriptions.getD []).mapM templateOf)

/-- Lists the enrolled templates with their names. A status for an invalid option says that there are none. -/
def listTemplates (token : Token) : Operation (Dictionary Bytes (Option String)) := unattended do
  try
    templatesOf (← call token 0x04 none .signed)
  catch
    | .status code => if code = Status.invalidOption then return .empty else throw (.status code)
    | failure => throw failure

/-- Names a template. -/
def setName (token : Token) (templateId : Bytes) (name : String) : Operation Unit := unattended do
  let params := Request.pack [some (.bytes templateId), some (.text name)]
  let _ ← call token 0x05 (some params) .signed

/-- Removes a template. -/
def removeTemplate (token : Token) (templateId : Bytes) : Operation Unit := unattended do
  let params := Request.pack [some (.bytes templateId)]
  let _ ← call token 0x06 (some params) .signed

/-- Takes a sample for an enrollment in the state `state`: the template and the report on the sample. -/
def takeSample (token : Token) (timeout : Option Duration) (state : Enrollment) : Operation (Bytes × Sample) := do
  match state.templateId? with
  | none => beginEnrollment token timeout
  | some templateId => return (templateId, ← captureNext token templateId timeout)

/-- The result of a sample that led to a state: the template once it is complete, and a failure when the sample was
rejected. -/
def Enrollment.outcome : Enrollment → Result (Option Bytes)
  | .complete templateId => .ok (some templateId)
  | .rejected _ _ feedback => .error (.rejectedSample feedback)
  | _ => .ok none

/-- Takes the next sample of an enrollment and gives its new state. A complete enrollment takes no more samples. -/
def capture (token : Token) (timeout : Option Duration) (state : Enrollment) :
    Operation (Enrollment × Result (Option Bytes)) :=
  match state with
  | .complete templateId => return (state, .ok (some templateId))
  | _ => ExceptT.mk fun session =>
    match (takeSample token timeout state).on session with
    | (.ok (templateId, sample), session) =>
      let next := state.advance templateId sample
      (.ok (next, next.outcome), session)
    | (.error failure, session) => (.ok (state, .error failure), session)

/-- Forgets an enrollment and gives up the capture in progress. It is forgotten also when that fails. -/
def abandon (token : Token) : Operation (Enrollment × Result Unit) := ExceptT.mk fun session =>
  let (result, session) := (cancelEnrollment token).on session
  (.ok (.notStarted, result), session)

end Fingerprint

end SecurityKey
