import Mathlib.Tactic.SplitIfs
import SecurityKey.Proofs.Card.Apdu
import SecurityKey.U2f.Client

/-!
# Operations over U2F

Every operation sends one command, or is refused before, and its result is decided by the response to that command.
-/

namespace SecurityKey.U2f

theorem Operation.on_bind {α β : Type} (operation : Operation α) (next : α → Operation β) (link : Link) :
    (operation >>= next).on link =
      match operation.on link with
      | (.ok a, link) => (next a).on link
      | (.error failure, link) => (.error failure, link) := by
  show ((operation >>= next).run).run link = _
  rw [ExceptT.run_bind, StateT.run_bind]
  simp only [on]
  rcases operation.run.run link with ⟨_ | a, after⟩ <;> rfl

theorem Operation.on_tryCatch {α : Type} (operation : Operation α) (handler : Failure → Operation α) (link : Link) :
    (tryCatch operation handler).on link =
      match operation.on link with
      | (.ok a, link) => (.ok a, link)
      | (.error failure, link) => (handler failure).on link := by
  show ((tryCatch operation handler).run).run link = _
  rw [ExceptT.run_tryCatch, StateT.run_bind]
  simp only [on]
  rcases operation.run.run link with ⟨_ | a, after⟩ <;> rfl

theorem send_on (instruction parameter : UInt8) (data : Bytes) (link : Link) :
    (send instruction parameter data).on link =
      (((link.heed false).sendCommand ⟨⟨0x00, instruction, parameter, 0x00⟩, data⟩).1.mapError Failure.link,
        ((link.heed false).sendCommand ⟨⟨0x00, instruction, parameter, 0x00⟩, data⟩).2.heed link.isHeeding) := rfl

/-- The operations on an authenticator that speaks U2F. -/
inductive Call where
  | version
  | register (client application : Bytes)
  | authenticate (client application keyHandle : Bytes) (demand : Demand)

namespace Call

/-- What an operation gives. -/
def Answer : Call → Type
  | version => String
  | register _ _ => Registration
  | authenticate _ _ _ _ => Signature

/-- Does the operation. -/
def perform : (call : Call) → Operation call.Answer
  | version => getVersion
  | register client application => U2f.register client application
  | authenticate client application keyHandle demand => U2f.authenticate client application keyHandle demand

/-- The command of an operation. -/
def apdu : Call → Card.Apdu
  | version => ⟨⟨0x00, 0x03, 0x00, 0x00⟩, []⟩
  | register client application => ⟨⟨0x00, 0x01, 0x00, 0x00⟩, client ++ application⟩
  | authenticate client application keyHandle demand =>
    ⟨⟨0x00, 0x02, demand.parameter, 0x00⟩,
      client ++ (application ++ (Bytes.ofNat 1 keyHandle.length ++ keyHandle))⟩

/-- Whether an operation is refused before anything is sent. -/
def IsRefused : Call → Prop
  | authenticate _ _ keyHandle _ => 255 < keyHandle.length
  | _ => False

/-- The result of an operation, by the response to its command. -/
def conclude : (call : Call) → (response : Except Link.Failure Bytes) → Result call.Answer
  | version, response => do Result.ofOption .versionText (Bytes.toText? (← response.mapError Failure.link))
  | register _ _, response => do Registration.parse (← response.mapError Failure.link)
  | authenticate _ _ _ demand, response =>
    match response with
    | .error (.apduStatus word) =>
      if demand = .checkOnly ∧ word = conditionsNotSatisfied then .error .credentialExcluded
      else .error (.link (.apduStatus word))
    | .error failure => .error (.link failure)
    | .ok body => Signature.parse body

theorem isChained_apdu (call : Call) : call.apdu.header.isChained = false := by
  have plain : ((0x00 : UInt8) &&& 0x10 != 0) = false := by decide
  cases call <;> exact plain

theorem perform_of_refused {call : Call} (h : call.IsRefused) :
    ∃ failure, ∀ link, call.perform.on link = (.error failure, link) := by
  cases call with
  | version | register => cases h
  | authenticate client application keyHandle demand =>
    refine ⟨.invalidArgument (.keyHandleTooLong keyHandle.length), fun link => ?_⟩
    show (U2f.authenticate client application keyHandle demand).on link = _
    have long : 255 < keyHandle.length := h
    unfold U2f.authenticate
    simp only [long, if_true]
    rfl

theorem perform_on {call : Call} (h : ¬call.IsRefused) (link : Link) : call.perform.on link =
    (call.conclude ((link.heed false).sendCommand call.apdu).1,
      ((link.heed false).sendCommand call.apdu).2.heed link.isHeeding) := by
  cases call with
  | version =>
    show getVersion.on link = _
    rw [getVersion, Operation.on_bind, send_on]
    simp only [apdu]
    rcases (link.heed false).sendCommand _ with ⟨_ | response, after⟩ <;> rfl
  | register client application =>
    show (U2f.register client application).on link = _
    rw [U2f.register, Operation.on_bind, send_on]
    simp only [apdu]
    rcases (link.heed false).sendCommand _ with ⟨_ | response, after⟩ <;> rfl
  | authenticate client application keyHandle demand =>
    have short : ¬255 < keyHandle.length := h
    show (U2f.authenticate client application keyHandle demand).on link = _
    unfold U2f.authenticate
    simp only [short, if_false]
    rw [Operation.on_bind, Operation.on_tryCatch, requestSignature, send_on]
    simp only [apdu]
    rcases (link.heed false).sendCommand _ with ⟨failure | response, after⟩
    · cases failure with
      | apduStatus word =>
        simp only [Except.mapError, conclude]
        split_ifs <;> rfl
      | _ => rfl
    · rfl

end Call

end SecurityKey.U2f
