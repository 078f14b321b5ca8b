import SecurityKey.Text.Hexadecimal

/-!
# Link failures

Failures of the way to the authenticator and back, as opposed to the status codes it answers with.
-/

namespace SecurityKey.Link

/-- Why a message could not be exchanged. -/
inductive Failure where
  | io (reason : String)
  | other (reason : String)
  | hidError (code : UInt8)
  | unexpectedFrame (command : UInt8)
  | apduStatus (word : UInt16)
  | emptyResponse
  | closed
  deriving DecidableEq

/-- The text of a failure. -/
def Failure.message : Failure → String
  | io reason => "IO error during transport: " ++ reason
  | other reason => reason
  | hidError code => "Device answered with CTAPHID error 0x" ++ Text.paddedHexadecimal 2 code.toNat
  | unexpectedFrame command => "Unexpected CTAPHID frame with command 0x" ++ Text.paddedHexadecimal 2 command.toNat
  | apduStatus word => "Smartcard answered with status word " ++ (Text.paddedHexadecimal 4 word.toNat).toUpper
  | emptyResponse => "Received an empty response"
  | closed => "Connection closed"

end SecurityKey.Link
