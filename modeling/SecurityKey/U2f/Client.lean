import SecurityKey.Link
import SecurityKey.U2f.Signature

/-!
# U2F over a link

The commands of authenticators from before CTAP2. They are answered at once: an authenticator that waits for a touch
says so, and the caller asks again.
-/

namespace SecurityKey.U2f

/-- Something done over a link that gives a result or fails; the link goes on either way. -/
abbrev Operation (α : Type) := ExceptT Failure (StateM Link) α

/-- The result of an operation, and the link after it. -/
def Operation.on (operation : Operation α) (link : Link) : Result α × Link :=
  (operation.run).run link

/-- The status word for a request that needs a touch. A request that only checks for a key gets it when the key is the
authenticator's own. -/
def conditionsNotSatisfied : UInt16 := 0x6985

/-- The name of a status word. -/
def statusName? (word : UInt16) : Option String :=
  List.lookup word [
    (Card.success, "NoError"), (conditionsNotSatisfied, "ConditionsNotSatisfied"), (0x6A80, "WrongData"),
    (0x6700, "WrongLength"), (0x6E00, "ClaNotSupported"), (0x6D00, "InsNotSupported")]

/-- Sends a command and receives the body of the response. -/
def send (instruction parameter : UInt8) (data : Bytes) : Operation Bytes := do
  let link ← get
  let (response, after) := (link.heed false).sendCommand ⟨⟨0x00, instruction, parameter, 0x00⟩, data⟩
  set (after.heed link.isHeeding)
  response.mapError Failure.link

/-- Asks for the version of the protocol. -/
def getVersion : Operation String := do
  let response ← send 0x03 0x00 []
  Result.ofOption .versionText (Bytes.toText? response)

/-- Registers a new key for an application. -/
def register (client application : Bytes) : Operation Registration := do
  let response ← send 0x01 0x00 (client ++ application)
  Registration.parse response

/-- What a request for a signature asks of the authenticator. -/
inductive Demand where
  /-- To sign once the user touches it. -/
  | presence
  /-- To tell whether the key is its own. -/
  | checkOnly
  deriving DecidableEq

/-- The parameter byte of a demand. -/
def Demand.parameter : Demand → UInt8
  | presence => 0x03
  | checkOnly => 0x07

/-- Asks for a signature with the key behind a key handle. -/
def requestSignature (demand : Demand) (client application keyHandle : Bytes) : Operation Bytes :=
  send 0x02 demand.parameter (client ++ (application ++ (Bytes.ofNat 1 keyHandle.length ++ keyHandle)))

/-- Signs with the key behind a key handle. A request that only checks for the key reports a credential of the
authenticator itself as excluded. -/
def authenticate (client application keyHandle : Bytes) (demand : Demand) : Operation Signature := do
  if 255 < keyHandle.length then throw (.invalidArgument (.keyHandleTooLong keyHandle.length))
  let response ← tryCatch (requestSignature demand client application keyHandle) fun
    | .link (.apduStatus word) =>
      if demand = .checkOnly ∧ word = conditionsNotSatisfied then throw .credentialExcluded
      else throw (.link (.apduStatus word))
    | failure => throw failure
  Signature.parse response

end SecurityKey.U2f
