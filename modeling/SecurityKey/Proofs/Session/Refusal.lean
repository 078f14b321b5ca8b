import SecurityKey.Proofs.Readers
import SecurityKey.Proofs.Session.Operation

/-!
# Refusals

Some failures say that an operation was refused, for its arguments or for what the authenticator lacks. What is read
from an answer is never refused, and an operation whose steps after the first exchange are not refused is refused only
before anything is sent.
-/

namespace SecurityKey

open Cbor (Value)

/-- A failure of the caller's part: the arguments make no request, or not one for this authenticator. -/
def Failure.IsRefusal : Failure → Prop
  | .encoding _ => True
  | .invalidPin _ => True
  | .invalidArgument _ => True
  | .notSupported _ => True
  | _ => False

/-! ## Results -/

namespace Result

variable {α β : Type}

/-- A result that is no refusal. -/
class Unrefused (result : Result α) : Prop where
  not_refusal : ∀ failure, result = .error failure → ¬failure.IsRefusal

instance (a : α) : Unrefused (pure a) := ⟨by rintro _ ⟨⟩⟩

instance (a : α) : Unrefused (.ok a) := ⟨by rintro _ ⟨⟩⟩

instance (result : Result α) [read : Reading result] : Unrefused result where
  not_refusal failure failed := by
    obtain ⟨malformation, rfl⟩ := read.isReading failure failed
    exact id

theorem unrefused_bind {result : Result α} {next : α → Result β} (first : Unrefused result)
    (second : ∀ a, Unrefused (next a)) : Unrefused (result >>= next) := by
  cases result with
  | error failure => exact ⟨by rintro _ ⟨⟩; exact first.not_refusal failure rfl⟩
  | ok a => exact second a

instance {result : Result α} {next : α → Result β} [first : Unrefused result] [second : ∀ a, Unrefused (next a)] :
    Unrefused (result >>= next) :=
  unrefused_bind first second

instance {condition : Prop} [Decidable condition] {first second : Result α} [Unrefused first] [Unrefused second] :
    Unrefused (if condition then first else second) := by
  split <;> infer_instance

instance (result : Except Crypto.Failure α) : Unrefused (result.mapError Failure.crypto) := by
  cases result <;> exact ⟨by rintro _ ⟨⟩; try exact id⟩

instance (result : Except Link.Failure α) : Unrefused (result.mapError Failure.link) := by
  cases result <;> exact ⟨by rintro _ ⟨⟩; try exact id⟩

end Result

instance (answer : Bytes) : Result.Unrefused (Response.ofAnswer answer) where
  not_refusal failure read := by
    have said := Response.says_ofAnswer answer
    rw [read] at said
    cases said <;> exact id

/-! ## Operations -/

namespace Operation

variable {α β : Type} {operation : Operation α}

/-- An operation that only looks at the session. -/
class Looking (operation : Operation α) : Prop where
  still : operation.Still

/-- An operation that is never refused. -/
class Committed (operation : Operation α) : Prop where
  unrefused : ∀ session, Result.Unrefused (operation.on session).1

/-- An operation that, when it is refused, leaves the session as it was. -/
class Guarded (operation : Operation α) : Prop where
  unchanged : ∀ session failure, (operation.on session).1 = .error failure → failure.IsRefusal →
    (operation.on session).2 = session

instance (a : α) : Looking (pure a : Operation α) := ⟨fun _ => rfl⟩

instance (failure : Failure) : Looking (throw failure : Operation α) := ⟨fun _ => rfl⟩

instance (result : Result α) : Looking (liftM result : Operation α) := ⟨fun _ => rfl⟩

instance : Looking currentInfo := ⟨fun _ => rfl⟩

instance (option : String) (stable preview : Command) : Looking (Session.flavor option stable preview) :=
  ⟨fun _ => rfl⟩

instance {next : α → Operation β} [first : Looking operation] [second : ∀ a, Looking (next a)] :
    Looking (operation >>= next) :=
  ⟨first.still.bind fun a => (second a).still⟩

instance {condition : Prop} [Decidable condition] {first second : Operation α} [Looking first] [Looking second] :
    Looking (if condition then first else second) := by
  split <;> infer_instance

instance (a : α) : Committed (pure a : Operation α) := ⟨fun _ => inferInstanceAs (Result.Unrefused (.ok a))⟩

instance (result : Result α) [unrefused : Result.Unrefused result] : Committed (liftM result : Operation α) :=
  ⟨fun _ => unrefused⟩

theorem committed_throw {failure : Failure} (h : ¬failure.IsRefusal) : Committed (throw failure : Operation α) :=
  ⟨fun _ => ⟨by rintro _ ⟨⟩; exact h⟩⟩

instance (malformation : Malformation) : Committed (throw (.badResponse malformation) : Operation α) :=
  committed_throw id

instance (requested reported : UInt8) : Committed (throw (.modality requested reported) : Operation α) :=
  committed_throw id

instance (n : Nat) : Committed (random n) := ⟨fun _ => inferInstanceAs (Result.Unrefused (.ok _))⟩

instance (option : String) (stable preview : Command) : Committed (Session.flavor option stable preview) :=
  ⟨fun _ => inferInstanceAs (Result.Unrefused (.ok _))⟩

instance (info : Info) : Committed (modify fun session => { session with info } : Operation PUnit) :=
  ⟨fun _ => inferInstanceAs (Result.Unrefused (.ok _))⟩

instance (request : Bytes) : Committed (exchange request) where
  unrefused session := by
    rw [on_exchange]
    infer_instance

/-- What follows an operation has to be free of refusals only for what the operation really gives. -/
theorem committed_bind [first : Committed operation] {next : α → Operation β}
    (second : ∀ session a after, operation.on session = (.ok a, after) → Committed (next a)) :
    Committed (operation >>= next) where
  unrefused session := by
    have unrefused := first.unrefused session
    rw [on_bind]
    rcases reached : operation.on session with ⟨failure | a, after⟩
    · rw [reached] at unrefused
      exact ⟨by rintro _ ⟨⟩; exact unrefused.not_refusal failure rfl⟩
    · exact (second session a after reached).unrefused after

instance [Committed operation] {next : α → Operation β} [second : ∀ a, Committed (next a)] :
    Committed (operation >>= next) :=
  committed_bind fun _ a _ _ => second a

theorem Committed.bind {next : α → Operation β} (first : Committed operation) (second : ∀ a, Committed (next a)) :
    Committed (operation >>= next) :=
  committed_bind fun _ a _ _ => second a

theorem unrefused_bind_of_on_eq {session : Session} {other : Operation α} [Committed other] {next : α → Operation β}
    [∀ a, Committed (next a)] (same : operation.on session = other.on session) :
    Result.Unrefused ((operation >>= next).on session).1 := by
  have unrefused : Result.Unrefused ((other >>= next).on session).1 := Committed.unrefused session
  rw [on_bind] at unrefused ⊢
  rwa [same]

instance {condition : Prop} [Decidable condition] {first second : Operation α} [Committed first]
    [Committed second] : Committed (if condition then first else second) := by
  split <;> infer_instance

instance [h : Committed operation] : Committed (unattended operation) :=
  ⟨fun session => h.unrefused (quiet session)⟩

theorem committed_tryCatch [first : Committed operation] {handler : Failure → Operation α}
    (second : ∀ failure, ¬failure.IsRefusal → Committed (handler failure)) : Committed (tryCatch operation handler) where
  unrefused session := by
    have unrefused := (first.unrefused session).not_refusal
    rw [on_tryCatch]
    rcases reached : operation.on session with ⟨failure | a, after⟩
    · rw [reached] at unrefused
      exact (second failure (unrefused failure rfl)).unrefused after
    · exact inferInstanceAs (Result.Unrefused (.ok a))

theorem Committed.unattended (h : Committed operation) : Committed (unattended operation) :=
  inferInstance

/-- A handler that takes one status for a result and passes every other failure on. -/
theorem committed_absent (code : UInt8) (nothing : α) (failure : Failure) : ¬failure.IsRefusal →
    Committed (match failure with
      | .status other => if other = code then pure nothing else throw (.status other)
      | failure => throw failure : Operation α) := by
  intro own
  have thrown : Committed (throw failure : Operation α) := committed_throw own
  cases failure <;> infer_instance

instance [h : Looking operation] : Guarded operation :=
  ⟨fun session _ _ _ => h.still session⟩

instance [h : Committed operation] : Guarded operation :=
  ⟨fun session failure failed refusal => absurd refusal ((h.unrefused session).not_refusal failure failed)⟩

instance [first : Looking operation] {next : α → Operation β} [second : ∀ a, Guarded (next a)] :
    Guarded (operation >>= next) where
  unchanged session failure := by
    have still := first.still session
    rw [on_bind]
    rcases reached : operation.on session with ⟨failed | a, after⟩
    · rw [reached] at still
      exact fun _ _ => still
    · rw [reached] at still
      cases still
      exact (second a).unchanged _ failure

theorem guarded_bind [first : Guarded operation] {next : α → Operation β} (second : ∀ a, Committed (next a)) :
    Guarded (operation >>= next) where
  unchanged session failure := by
    have unchanged := first.unchanged session
    rw [on_bind]
    rcases reached : operation.on session with ⟨failed | a, after⟩
    · rw [reached] at unchanged
      rintro ⟨⟩
      exact unchanged _ rfl
    · intro failed refusal
      exact absurd refusal (((second a).unrefused after).not_refusal failure failed)

instance [Guarded operation] {next : α → Operation β} [second : ∀ a, Committed (next a)] :
    Guarded (operation >>= next) :=
  guarded_bind second

instance {condition : Prop} [Decidable condition] {first second : Operation α} [Guarded first] [Guarded second] :
    Guarded (if condition then first else second) := by
  split <;> infer_instance

theorem guarded_tryCatch [first : Guarded operation] {handler : Failure → Operation α}
    (looking : ∀ failure, Looking (handler failure))
    (second : ∀ failure, ¬failure.IsRefusal → Committed (handler failure)) :
    Guarded (tryCatch operation handler) where
  unchanged session failure := by
    have unchanged := first.unchanged session
    rw [on_tryCatch]
    rcases reached : operation.on session with ⟨failed | a, after⟩
    · rw [reached] at unchanged
      intro failed' refusal
      -- A refusal passes through the handler with nothing sent before it; after any other failure there is none.
      by_cases own : failed.IsRefusal
      · rw [(looking failed).still after]
        exact unchanged failed rfl own
      · exact absurd refusal (((second failed own).unrefused after).not_refusal failure failed')
    · rintro ⟨⟩

instance [h : Guarded operation] : Guarded (unattended operation) where
  unchanged session failure failed refusal := by
    have same : operation.on (quiet session) = (.error failure, quiet session) :=
      Prod.ext failed (h.unchanged (quiet session) failure failed refusal)
    rw [on_unattended_of_still same]

end Operation

end SecurityKey
