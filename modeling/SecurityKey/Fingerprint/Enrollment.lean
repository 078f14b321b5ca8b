import SecurityKey.Bytes

/-!
# Enrollment states

Where the enrollment of a fingerprint stands between two samples.
-/

namespace SecurityKey.Fingerprint

/-- The names of the feedback on a sample; 0 is a good one. -/
def feedbackName? (feedback : UInt8) : Option String :=
  List.lookup feedback [
    (0x00, "Good"), (0x01, "TooHigh"), (0x02, "TooLow"), (0x03, "TooLeft"), (0x04, "TooRight"), (0x05, "TooFast"),
    (0x06, "TooSlow"), (0x07, "PoorQuality"), (0x08, "TooSkewed"), (0x09, "TooShort"), (0x0A, "MergeFailure"),
    (0x0B, "Exists"), (0x0D, "NoUserActivity"), (0x0E, "NoUserPresenceTransition")]

/-- What an authenticator reports after a sample: its feedback, and the number of samples still needed. -/
structure Sample where
  feedback : UInt8
  remaining : UInt64
  deriving DecidableEq

/-- Where an enrollment stands. After a rejected sample, `remaining` is what it was before that sample. -/
inductive Enrollment where
  | notStarted
  | capturing (templateId : Bytes) (remaining : UInt64)
  | complete (templateId : Bytes)
  | rejected (templateId : Option Bytes) (remaining : Option UInt64) (feedback : UInt8)
  deriving DecidableEq

namespace Enrollment

/-- The template that is enrolled. -/
def templateId? : Enrollment → Option Bytes
  | notStarted => none
  | capturing templateId _ => some templateId
  | complete templateId => some templateId
  | rejected templateId _ _ => templateId

/-- The samples still needed, when that is known. -/
def remaining? : Enrollment → Option UInt64
  | notStarted => none
  | capturing _ remaining => some remaining
  | complete _ => some 0
  | rejected _ remaining _ => remaining

/-- The state after a sample of a template. A rejected sample keeps the number of samples still needed. -/
def advance (state : Enrollment) (templateId : Bytes) (sample : Sample) : Enrollment :=
  if sample.feedback ≠ 0 then rejected (some templateId) state.remaining? sample.feedback
  else if sample.remaining = 0 then complete templateId
  else capturing templateId sample.remaining

end Enrollment

end SecurityKey.Fingerprint
