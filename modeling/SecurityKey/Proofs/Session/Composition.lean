import SecurityKey.Pin.Client
import SecurityKey.Proofs.Session.Conversation
import SecurityKey.Proofs.Signing

/-!
# Operations put together

Nearly every operation is put together from exchanges, from decisions about what the authenticator can do, and from
steps that look at nothing but the random bytes. So it leaves what is known of the authenticator and the settings of the
session alone, and uses them in its decisions only.
-/

namespace SecurityKey

/-! ## Decisions -/

/-- What is decided about an authenticator, with the kind of answer. -/
inductive Decision : Type → Type where
  | pins : Decision Bool
  | scopedTokens : Decision Bool
  | enrollment : Decision Bool
  | management : Decision Bool
  | settings : Decision Bool
  | command (signer : Signer) : Decision Command
  | protocol : Decision (Result PinProtocol)

namespace Decision

variable {α : Type}

/-- How a decision comes out for an authenticator that reports `info`, with the given settings of the session. -/
def outcome : Decision α → Info → Config → α
  | pins, info, _ => info.knowsPins
  | scopedTokens, info, _ => info.issuesScopedTokens
  | enrollment, info, _ => info.supportsBioEnrollment
  | management, info, _ => info.supportsCredentialManagement
  | settings, info, _ => info.supportsConfig
  | command signer, info, _ => signer.command info
  | protocol, info, config => PinProtocol.select info config.pinUvProtocols

/-- Decides by the info that the authenticator last reported and the settings of the session. -/
def take (decision : Decision α) : Operation α := do
  let session ← get
  return decision.outcome session.info session.config

@[simp] theorem take_on (decision : Decision α) (session : Session) :
    decision.take.on session = (.ok (decision.outcome session.info session.config), session) := rfl

end Decision

/-- Two sessions on which every decision comes out the same and the same random bytes are drawn. -/
structure Session.Agrees (session other : Session) : Prop where
  decisions : ∀ {α : Type} (decision : Decision α),
    decision.outcome other.info other.config = decision.outcome session.info session.config
  entropy : other.entropy = session.entropy

namespace Operation

/-- An operation that is put together from exchanges, decisions, and steps that use neither the link nor what is known
of the authenticator nor the settings. -/
class inductive Composed : {α : Type} → Operation α → Prop where
  | still {α : Type} {operation : Operation α} :
      (∀ (session : Session) (link : Link) (info : Info) (config : Config),
        operation.on { session with link, info, config } =
          ((operation.on session).1, { (operation.on session).2 with link, info, config })) → Composed operation
  | decide {α : Type} (decision : Decision α) : Composed decision.take
  | exchange (request : Bytes) : Composed (exchange request)
  | follow {α β : Type} {operation : Operation α} {whole : Operation β} {next : Result α → Operation β} :
      Composed operation → (∀ result, Composed (next result)) →
      (∀ session, whole.on session = (next (operation.on session).1).on (operation.on session).2) → Composed whole
  | unattended {α : Type} {operation : Operation α} : Composed operation → Composed (unattended operation)

variable {α β : Type} {operation : Operation α}

/-! ## What holds of all of them -/

theorem Composed.keeps (h : Composed operation) (session : Session) :
    (operation.on session).2.info = session.info ∧ (operation.on session).2.config = session.config := by
  induction h generalizing session with
  | still frame =>
      have same := frame session session.link session.info session.config
      exact ⟨congrArg (·.2.info) same, congrArg (·.2.config) same⟩
  | decide decision => exact ⟨rfl, rfl⟩
  | exchange request => exact ⟨rfl, rfl⟩
  | follow _ _ follows first second =>
      rw [follows]
      exact ⟨(second _ _).1.trans (first session).1, (second _ _).2.trans (first session).2⟩
  | unattended _ ih => exact ih (quiet session)

instance (priority := low) [composed : Composed operation] : Orderly operation := by
  induction composed with
  | @still _ operation frame =>
      refine orderly_of_frame fun session link => ?_
      obtain ⟨sameInfo, sameConfig⟩ := (Composed.still frame).keeps session
      rw [frame session link session.info session.config, ← sameInfo, ← sameConfig]
  | decide decision => exact orderly_of_frame fun _ _ => rfl
  | exchange request => exact ⟨fun session => ⟨_, makes_exchange request session⟩⟩
  | @follow _ _ operation _ next _ _ follows first second => exact orderly_of_follow operation next second follows
  | unattended _ ih => infer_instance

/-- What is known of the authenticator and the settings are of no matter but for the decisions. -/
theorem Composed.on_of_decisions (h : Composed operation) {info : Info} {config : Config} (session : Session)
    (same : ∀ {γ : Type} (decision : Decision γ),
      decision.outcome info config = decision.outcome session.info session.config) :
    operation.on { session with info, config } =
      ((operation.on session).1, { (operation.on session).2 with info, config }) := by
  induction h generalizing session with
  | @still _ operation frame =>
      have unmoved : (operation.on session).2.link = session.link :=
        congrArg (·.2.link) (frame session session.link session.info session.config)
      rw [frame session session.link info config, ← unmoved]
  | decide decision => rw [Decision.take_on, Decision.take_on, same]
  | exchange request => rfl
  | @follow _ _ operation _ _ composed _ follows first second =>
      obtain ⟨sameInfo, sameConfig⟩ := composed.keeps session
      rw [follows, follows session, first session same]
      -- The second part decides by what the first part left as it was.
      exact second _ _ fun decision => by rw [sameInfo, sameConfig, same]
  | @unattended _ operation _ ih =>
      have same : operation.on (quiet { session with info, config }) = _ := ih (quiet session) same
      rw [on_unattended, on_unattended, same]

/-! ## How they are put together -/

instance (a : α) : Composed (pure a : Operation α) := .still fun _ _ _ _ => rfl

instance (failure : Failure) : Composed (throw failure : Operation α) := .still fun _ _ _ _ => rfl

instance (result : Result α) : Composed (liftM result : Operation α) := .still fun _ _ _ _ => rfl

instance (n : Nat) : Composed (random n) := .still fun _ _ _ _ => rfl

instance (decision : Decision α) : Composed decision.take := .decide decision

instance (request : Bytes) : Composed (exchange request) := .exchange request

theorem composed_of_follow (operation : Operation α) [first : Composed operation] (next : Result α → Operation β)
    (second : ∀ result, Composed (next result)) {whole : Operation β}
    (h : ∀ session, whole.on session = (next (operation.on session).1).on (operation.on session).2) : Composed whole :=
  .follow first second h

theorem composed_bind [Composed operation] {next : α → Operation β} (second : ∀ a, Composed (next a)) :
    Composed (operation >>= next) := by
  refine composed_of_follow operation (resume next) (fun result => ?_) (on_bind_resume next)
  cases result with
  | error failure => exact inferInstanceAs (Composed (throw failure))
  | ok a => exact second a

instance [Composed operation] {next : α → Operation β} [second : ∀ a, Composed (next a)] :
    Composed (operation >>= next) :=
  composed_bind second

theorem composed_tryCatch [Composed operation] {handler : Failure → Operation α}
    (second : ∀ failure, Composed (handler failure)) : Composed (tryCatch operation handler) := by
  refine composed_of_follow operation (rescue handler) (fun result => ?_) (on_tryCatch_rescue handler)
  cases result with
  | error failure => exact second failure
  | ok a => exact inferInstanceAs (Composed (pure a))

instance [Composed operation] {handler : Failure → Operation α} [second : ∀ failure, Composed (handler failure)] :
    Composed (tryCatch operation handler) :=
  composed_tryCatch second

instance {condition : Prop} [Decidable condition] {first second : Operation α} [Composed first] [Composed second] :
    Composed (if condition then first else second) := by
  split <;> infer_instance

instance [h : Composed operation] : Composed (unattended operation) := .unattended h

end Operation

end SecurityKey
