import SecurityKey.Credential.Assertion
import SecurityKey.Link
import SecurityKey.Session.Config

/-!
# Sessions

A session is a link to an authenticator that speaks CTAP2, with the info it last reported, the settings of the session
and a source of random bytes. Operations run one after another on a session; each exchange is one request and one
answer.
-/

namespace SecurityKey

open Cbor (Value)

/-- A source of random bytes and how many of them were drawn. -/
structure Entropy where
  stream : Nat → UInt8
  drawn : Nat := 0

/-- `n` random bytes, and the source without them. -/
def Entropy.draw (n : Nat) (entropy : Entropy) : Bytes × Entropy :=
  ((List.range n).map fun i => entropy.stream (entropy.drawn + i), { entropy with drawn := entropy.drawn + n })

/-- A session with an authenticator that speaks CTAP2. -/
structure Session where
  link : Link
  info : Info
  config : Config
  entropy : Entropy

/-- Something done on a session that gives a result or fails; the session goes on either way. -/
abbrev Operation (α : Type) := ExceptT Failure (StateM Session) α

namespace Operation

/-- The result of an operation, and the session after it. -/
def on (operation : Operation α) (session : Session) : Result α × Session :=
  (operation.run).run session

/-- The info that the authenticator last reported. -/
def currentInfo : Operation Info := do
  return (← get).info

/-- `n` random bytes. -/
def random (n : Nat) : Operation Bytes := do
  let session ← get
  let (bytes, entropy) := session.entropy.draw n
  set { session with entropy }
  return bytes

/-- An operation whose exchanges do not heed the caller. -/
def unattended (operation : Operation α) : Operation α :=
  ExceptT.mk fun session =>
    let (result, after) := operation.on { session with link := session.link.heed false }
    (result, { after with link := after.link.heed session.link.isHeeding })

/-- Sends a request and receives the answer. -/
def exchange (request : Bytes) : Operation Bytes := do
  let session ← get
  let (answer, link) := session.link.sendCbor request
  set { session with link }
  answer.mapError Failure.link

end Operation

/-- The data in an answer: a status code, with a response after it when that is zero. -/
def Response.ofAnswer : (answer : Bytes) → Result (Option Response)
  | [] => .error (.link .emptyResponse)
  | status :: body =>
    if status ≠ 0 then .error (.status status)
    else if body.isEmpty then .ok none
    else some <$> Response.ofBytes body

namespace Session

open Operation

/-- Sends a command with its arguments and decodes the answer. -/
def send (command : Command) (arguments : Option Value) : Operation (Option Response) := do
  let request ← Request.encode command arguments
  let answer ← exchange request
  Response.ofAnswer answer

/-- The response to a request that a message calls `request`. -/
def expectData (request : String) (response : Option Response) : Result Response :=
  Result.ofOption (.noData request) response

/-- Sends a command that is answered with data. -/
def sendForData (command : Command) (arguments : Option Value) : Operation Response := do
  expectData command.name (← send command arguments)

/-- Asks for the info again, and keeps it for later decisions. -/
def getInfo : Operation Info := unattended do
  let response ← sendForData .getInfo none
  let info ← Info.ofResponse response
  modify fun session => { session with info }
  return info

/-- The results of an operation done `n` times, up to the first failure. -/
def repeated (operation : Operation α) : (n : Nat) → Operation (List α)
  | 0 => return []
  | n + 1 => do
    let first ← operation
    return first :: (← repeated operation n)

/-- Makes a credential. -/
def makeCredential (parameters : CreationParameters) : Operation Attestation := do
  let response ← sendForData .makeCredential (some parameters.toValue)
  Attestation.ofResponse response

/-- The assertion after the one before. -/
def nextAssertion : Operation Assertion := unattended do
  Assertion.ofResponse (← sendForData .getNextAssertion none)

/-- Asks for an assertion, then for all further ones that the first one announces. -/
def getAssertions (parameters : AssertionParameters) : Operation (List Assertion) := do
  let response ← sendForData .getAssertion (some parameters.toValue)
  let first ← Assertion.ofResponse response
  let count := first.numberOfCredentials.getD 1
  return first :: (← repeated nextAssertion (count.toNat - 1))

/-- Resets the authenticator to its factory state. -/
def reset : Operation Unit := do
  let _ ← send .reset none

/-- Asks the user to pick this authenticator. -/
def selection : Operation Unit := do
  let _ ← send .selection none

/-- The command for an option that preview authenticators do not list. -/
def flavor (option : String) (stable preview : Command) : Operation Command := do
  let info ← currentInfo
  return if !info.options.contains option && info.supportsVersion Info.fido21Pre then preview else stable

/-- A session before anything is known about the authenticator. -/
def start (link : Link) (config : Config) (entropy : Entropy) : Session :=
  { link, info := {}, config, entropy }

/-- Asks for the info on a link that is ready. -/
def connect (config : Config) (entropy : Entropy) (link : Link) : Result Session × Link :=
  match getInfo.on (start link config entropy) with
  | (.ok _, session) => (.ok session, session.link)
  | (.error failure, session) => (.error failure, session.link)

/-- Opens a session. The link is handed back whether that succeeds or fails. -/
def establish (config : Config) (entropy : Entropy) (link : Link) : Result Session × Link :=
  match link.select with
  | (.error reason, link) => (.error (.link reason), link)
  | (.ok (), link) => connect config entropy link

end Session

end SecurityKey
