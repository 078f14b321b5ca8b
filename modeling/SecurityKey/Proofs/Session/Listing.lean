import SecurityKey.Proofs.Response
import SecurityKey.Proofs.Session.Lockstep
import SecurityKey.Proofs.Signing

/-!
# Listings

Assertions, relying parties and credentials are asked for one by one: the first reply announces how many there are, and
each further request brings the next one. A listing is whole or fails, and asks for nothing beyond what was announced.
-/

namespace SecurityKey

open Cbor (Value)

/-- What is read from the answer of an exchange. -/
def Link.Exchange.reply (exchange : Link.Exchange) : Result (Option Response) :=
  (exchange.outcome.mapError Failure.link).bind Response.ofAnswer

/-! ## Operations of one exchange -/

namespace Operation

variable {α β : Type} {operation : Operation α} {next : α → Operation β} {request : Bytes} {session : Session}

theorem gives_of_error {result : Result α} {failure : Failure} (h : result = .error failure)
    (next : α → Operation β) : (do next (← result) : Operation β).Gives (.error failure) := by
  subst h
  exact fun _ => rfl

theorem Gives.makes {result : Result α} (h : operation.Gives result) (session : Session) :
    operation.Makes [] session :=
  makes_of_frame (fun session link => by rw [h, h]) session

theorem Makes.map {made : List Link.Exchange} (f : α → β) (h : operation.Makes made session) :
    (do return f (← operation) : Operation β).Makes made session := by
  rcases reached : operation.on session with ⟨failure | a, after⟩
  · exact h.bind_error reached
  · rw [← List.append_nil made]
    exact h.bind reached ((gives_pure (f a)).makes after)

/-- An operation makes one exchange, with the given request, and makes of the reply what `read` does. What is known of
the authenticator stays. -/
def Asks (operation : Operation α) (request : Bytes) (read : Result (Option Response) → Result α) (session : Session) :
    Prop :=
  ∃ exchange : Link.Exchange, exchange.request = request ∧ operation.Makes [exchange] session ∧
    (operation.on session).1 = read exchange.reply ∧ (operation.on session).2.info = session.info

variable {read : Result (Option Response) → Result α}

theorem asks_send {command : Command} {arguments : Option Value}
    (h : Request.encode command arguments = .ok request) :
    (Session.send command arguments).Asks request id session := by
  refine ⟨⟨request, (session.link.sendCbor request).1⟩, rfl, ?_, ?_, ?_⟩
  · unfold Session.send
    rw [h]
    refine ((gives_liftM (.ok request)).makes session).bind rfl ?_
    rcases reached : (exchange request).on session with ⟨failure | answer, after⟩
    · exact (makes_exchange request session).bind_error reached
    · exact (makes_exchange request session).bind reached ((gives_liftM _).makes after)
  · rw [Session.on_send_of_encode h]
    rfl
  · rw [Session.on_send_of_encode h]
    rfl

/-- What goes on from the result of an exchange without looking at anything else is part of how it is read. -/
theorem Asks.follow {whole : Operation β} {next : Result α → Operation β} (second : Result α → Result β)
    (h : operation.Asks request read session)
    (follows : ∀ session, whole.on session = (next (operation.on session).1).on (operation.on session).2)
    (gives : ∀ result, (next result).Gives (second result)) :
    whole.Asks request (fun reply => second (read reply)) session := by
  obtain ⟨exchange, same, makes, result, info⟩ := h
  have none : (next (operation.on session).1).Makes [] (operation.on session).2 := (gives _).makes _
  refine ⟨exchange, same, makes.follow follows none, ?_, ?_⟩
  · rw [follows, gives]
    exact congrArg second result
  · rw [follows, gives]
    exact info

theorem Asks.bind {second : α → Result β} (h : operation.Asks request read session)
    (h' : ∀ a, (next a).Gives (second a)) :
    (operation >>= next).Asks request (fun reply => (read reply).bind second) session := by
  refine h.follow (·.bind second) (on_bind_resume next) fun result => ?_
  cases result with
  | error failure => exact fun _ => rfl
  | ok a => exact h' a

theorem Asks.tryCatch {handler : Failure → Operation α} {caught : Failure → Result α}
    (h : operation.Asks request read session) (h' : ∀ failure, (handler failure).Gives (caught failure)) :
    (tryCatch operation handler).Asks request (fun reply => (read reply).tryCatch caught) session := by
  refine h.follow (·.tryCatch caught) (on_tryCatch_rescue handler) fun result => ?_
  cases result with
  | error failure => exact h' failure
  | ok a => exact gives_pure a

theorem Asks.after {a : α} {read : Result (Option Response) → Result β} (first : operation.Makes [] session)
    (reached : operation.on session = (.ok a, session)) (h : (next a).Asks request read session) :
    (operation >>= next).Asks request read session := by
  obtain ⟨exchange, same, makes, result, info⟩ := h
  refine ⟨exchange, same, first.bind reached makes, ?_⟩
  rw [on_bind_of_ok reached]
  exact ⟨result, info⟩

theorem Asks.unattended (h : operation.Asks request read (quiet session)) :
    (unattended operation).Asks request read session := by
  obtain ⟨exchange, same, makes, result, info⟩ := h
  exact ⟨exchange, same, makes.unattended, result, info⟩

end Operation

/-- A session with an authenticator that sends one answer after the other. -/
def answeringSession (answers : List Bytes) : Session where
  link := .bringing (answers.map (Hid.Frame.ofCommand .cbor))
  info := {}
  config := {}
  entropy := ⟨fun _ => 0, 0⟩

theorem reply_of_answeringSession {α : Type} {operation : Operation α} {answer : Bytes} {answers : List Bytes}
    {first : Link.Exchange} {later : List Link.Exchange}
    (h : operation.Makes (first :: later) (answeringSession (answer :: answers))) :
    first.reply = Response.ofAnswer answer := by
  have steps := h.conversed.lockstep (Link.isCalm_bringing _)
  rw [Link.Exchange.reply, steps.outcomes 0 first rfl]
  rfl

/-! ## Signed requests -/

namespace Signer

open Operation

variable (signer : Signer) {token : Token} {subCommand : UInt8} {params : Option Value} {session : Session}
  {request : Bytes}

theorem asks_send {arguments : Value}
    (h : Request.encode (signer.command session.info) (some arguments) = .ok request) :
    (signer.send arguments).Asks request id session := by
  cases signer with
  | fingerprints =>
      have sent : (Session.send (fingerprints.command session.info) (some arguments)).Asks request id session :=
        Operation.asks_send h
      exact .after (makes_of_frame (fun _ _ => rfl) _) (on_flavor ..) sent
  | credentials =>
      have sent : (Session.send (credentials.command session.info) (some arguments)).Asks request id
        (quiet session) := Operation.asks_send h
      show (unattended (do Session.send (← Session.flavor _ _ _) (some arguments))).Asks request id session
      exact .unattended (.after (makes_of_frame (fun _ _ => rfl) _) (on_flavor ..) sent)
  | settings => exact .unattended (Operation.asks_send h)

theorem asks_call {message : Bytes} (authenticated : Request.authenticated signer.domain subCommand params = .ok message)
    (h : Request.encode (signer.command session.info) (some (Request.pack
      (signer.arguments subCommand params token.protocol.version (token.authenticate message)))) = .ok request) :
    (signer.call token subCommand params).Asks request id session := by
  rw [call_eq]
  have reached : (liftM (Request.authenticated signer.domain subCommand params) : Operation Bytes).on session =
      (.ok message, session) := by rw [on_liftM, authenticated]
  exact .after ((gives_liftM _).makes session) reached (signer.asks_send h)

theorem asks_call_of_accepted {encoded : Option Bytes} (h : params.map Value.canonical = encoded.map .ok) :
    (signer.call token subCommand params).Asks
      ((signer.command session.info).byte :: Cbor.writeMap (Request.fields (signer.arguments subCommand params
        token.protocol.version (token.authenticate (signer.domain ++ subCommand :: encoded.getD []))))) id session := by
  refine signer.asks_call (authenticated_eq h) (Request.encode_pack _ ?_ fun argument mem => order_arguments h mem)
  cases signer <;> simp [arguments]

end Signer

/-! ## Collecting -/

section Collecting

open Operation

variable {α : Type} {decode : Link.Exchange → Result α} {total : Nat} {made : List Link.Exchange}
  {result : Result (List α)} {exchange : Link.Exchange} {failure : Failure}

/-- What becomes of the announced replies: each one is there and was read, or the first one that cannot be read is the
last one there is, and its failure is the result. -/
inductive Collected (decode : Link.Exchange → Result α) (total : Nat) :
    List Link.Exchange → Result (List α) → Prop where
  | whole {made : List Link.Exchange} {items : List α} : made.length = total →
      made.map decode = items.map .ok → Collected decode total made (.ok items)
  | cut {earlier : List Link.Exchange} {last : Link.Exchange} {failure : Failure} : earlier.length < total →
      (∀ exchange ∈ earlier, ∃ item, decode exchange = .ok item) → decode last = .error failure →
      Collected decode total (earlier ++ [last]) (.error failure)

theorem collected_of_error (h : decode exchange = .error failure) (some : 0 < total) :
    Collected decode total [exchange] (.error failure) := by
  rw [← List.nil_append [exchange]]
  exact .cut some (by simp) h

theorem Collected.cons {item : α} (h : decode exchange = .ok item) (rest : Collected decode total made result) :
    Collected decode (total + 1) (exchange :: made) (result.map (item :: ·)) := by
  cases rest with
  | whole counted each => exact .whole (congrArg Nat.succ counted) (by simp [h, each])
  | cut short read failed =>
      rw [← List.cons_append]
      exact .cut (Nat.succ_lt_succ short) (List.forall_mem_cons.2 ⟨⟨item, h⟩, read⟩) failed

theorem Collected.length_le (h : Collected decode total made result) : made.length ≤ total := by
  cases h with
  | whole counted => exact Nat.le_of_eq counted
  | cut short =>
      rw [List.length_append]
      exact short

theorem Collected.length_eq {items : List α} (h : Collected decode total made (.ok items)) :
    made.length = total ∧ items.length = total := by
  cases h with
  | whole counted each =>
      have same := congrArg List.length each
      rw [List.length_map, List.length_map] at same
      exact ⟨counted, same.symm.trans counted⟩

theorem Collected.eq_error_of_mem (h : Collected decode total made result) (mem : exchange ∈ made)
    (failed : decode exchange = .error failure) : result = .error failure := by
  cases h with
  | @whole _ items _ each =>
      have read : Except.error failure ∈ items.map Except.ok := by
        rw [← each, ← failed]
        exact List.mem_map_of_mem mem
      obtain ⟨item, -, same⟩ := List.mem_map.1 read
      cases same
  | cut _ read failed' =>
      rcases List.mem_append.1 mem with earlier | last
      · obtain ⟨item, same⟩ := read exchange earlier
        rw [failed] at same
        cases same
      · cases List.mem_singleton.1 last
        rw [failed] at failed'
        cases failed'
        rfl

/-- Done several times, an operation of one exchange brings the items of as many replies, up to the first one that it
cannot read. -/
theorem collected_repeated {next : Operation α} {request : Bytes} {read : Result (Option Response) → Result α}
    {info : Info} (asks : ∀ session : Session, session.info = info → next.Asks request read session) (n : Nat)
    {session : Session} (known : session.info = info) :
    ∃ made, (Session.repeated next n).Makes made session ∧ (∀ exchange ∈ made, exchange.request = request) ∧
      Collected (fun exchange => read exchange.reply) n made ((Session.repeated next n).on session).1 := by
  induction n generalizing session with
  | zero => exact ⟨[], makes_of_frame (fun _ _ => rfl) session, by simp, .whole rfl rfl⟩
  | succ n ih =>
      obtain ⟨exchange, same, makes, result, info⟩ := asks session known
      unfold Session.repeated
      rcases reached : next.on session with ⟨failure | item, after⟩
      · rw [reached] at result
        refine ⟨[exchange], makes.bind_error reached, by simpa using same, ?_⟩
        rw [on_bind, reached]
        exact collected_of_error result.symm (Nat.succ_pos n)
      · rw [reached] at result info
        obtain ⟨later, makes', requests, collected⟩ := ih (info.trans known)
        refine ⟨exchange :: later, makes.bind reached (makes'.map (item :: ·)), ?_, ?_⟩
        · exact List.forall_mem_cons.2 ⟨same, requests⟩
        · rw [on_bind_of_ok reached, on_map]
          exact collected.cons result.symm

end Collecting

/-! ## Listings -/

/-- What an authenticator is asked for one by one, with the kind of item. -/
inductive Listing : Type → Type where
  | assertions (parameters : AssertionParameters) : Listing Assertion
  | relyingParties (token : Token) : Listing CredentialStore.RelyingParty
  | credentials (token : Token) (rpIdHash : Bytes) : Listing CredentialStore.StoredCredential

namespace Listing

open Operation

variable {Item : Type}

/-- Does what a listing says. -/
def perform : Listing Item → Operation (List Item)
  | assertions parameters => Session.getAssertions parameters
  | relyingParties token => CredentialStore.listRelyingParties token
  | credentials token rpIdHash => CredentialStore.listCredentials token rpIdHash

/-- Whether a listing is one of what is stored on the authenticator. -/
def IsOfStore : Listing Item → Prop
  | assertions _ => False
  | _ => True

/-- A request of a token for a sub-command. -/
def signed (token : Token) (subCommand : UInt8) (params : Option Value) (info : Info) : Result Bytes := do
  let message ← Request.authenticated [] subCommand params
  Request.encode (Signer.credentials.command info) (some (Request.pack
    (Signer.credentials.arguments subCommand params token.protocol.version (token.authenticate message))))

/-- The request that a listing begins with. -/
def opening : Listing Item → Info → Result Bytes
  | assertions parameters, _ => Request.encode .getAssertion (some parameters.toValue)
  | relyingParties token, info => signed token 0x02 none info
  | credentials token rpIdHash, info => signed token 0x04 (some (Request.pack [some (.bytes rpIdHash)])) info

/-- The request for the next item, which has no arguments but the sub-command where there are any. -/
def continuation : Listing Item → Info → Bytes
  | assertions _, _ => [0x08]
  | relyingParties _, info => [(Signer.credentials.command info).byte, 0xA1, 0x01, 0x03]
  | credentials _ _, info => [(Signer.credentials.command info).byte, 0xA1, 0x01, 0x05]

/-- The number of items that the first response announces. -/
def total : Listing Item → Response → Result UInt64
  | assertions _, response => (·.getD 1) <$> response.field .unsigned 0x05
  | relyingParties _, response => (·.getD 0) <$> response.field .unsigned 0x05
  | credentials _ _, response => (·.getD 1) <$> response.field .unsigned 0x09

/-- The item that a response holds. -/
def item : Listing Item → Response → Result Item
  | assertions _ => Assertion.ofResponse
  | relyingParties _ => CredentialStore.RelyingParty.ofResponse
  | credentials _ _ => CredentialStore.StoredCredential.ofResponse

/-- What a message calls the request for the next item. -/
def label : Listing Item → String
  | assertions _ => "GetNextAssertion"
  | relyingParties _ => "Sub-command 0x03"
  | credentials _ _ => "Sub-command 0x05"

/-- The item that is read from a reply. -/
def read (listing : Listing Item) (reply : Result (Option Response)) : Result Item :=
  reply.bind fun response => (Session.expectData listing.label response).bind listing.item

/-- The item that an exchange brings. -/
def decode (listing : Listing Item) (exchange : Link.Exchange) : Result Item :=
  listing.read exchange.reply

/-- How a listing ends whose first request failed. -/
def ending (listing : Listing Item) (failure : Failure) : Result (List Item) :=
  match listing, failure with
  | assertions _, failure => .error failure
  | _, .status code => if code = Status.noCredentials then .ok [] else .error (.status code)
  | _, failure => .error failure

/-- How a listing ends whose first request is answered without data. -/
def unanswered : Listing Item → Result (List Item)
  | assertions _ => .error (.badResponse (.noData "GetAssertion"))
  | relyingParties _ => .ok []
  | credentials _ _ => .error (.badResponse (.noData "Sub-command 0x04"))

/-- Asks for the next item. -/
def next : Listing Item → Operation Item
  | assertions _ => Session.nextAssertion
  | relyingParties _ => CredentialStore.next 0x03 CredentialStore.RelyingParty.ofResponse
  | credentials _ _ => CredentialStore.next 0x05 CredentialStore.StoredCredential.ofResponse

/-- Sends the request that a listing begins with. -/
def ask : Listing Item → Operation (Option Response)
  | assertions parameters => Session.send .getAssertion (some parameters.toValue)
  | relyingParties token => CredentialStore.callSigned token 0x02 none
  | credentials token rpIdHash => CredentialStore.callSigned token 0x04 (some (Request.pack [some (.bytes rpIdHash)]))

/-- What follows the first response. -/
def collect : Listing Item → Response → Operation (List Item)
  | assertions _, response => do
    let first ← Assertion.ofResponse response
    return first :: (← Session.repeated Session.nextAssertion ((first.numberOfCredentials.getD 1).toNat - 1))
  | relyingParties _, response => do
    match (← response.field .unsigned 0x05).getD 0 with
    | 0 => return []
    | total => CredentialStore.collect 0x03 CredentialStore.RelyingParty.ofResponse response total
  | credentials _ _, response => do
    CredentialStore.collect 0x05 CredentialStore.StoredCredential.ofResponse response
      ((← response.field .unsigned 0x09).getD 1)

/-- What follows the first reply. -/
def finish (listing : Listing Item) : Result (Option Response) → Operation (List Item)
  | .error failure => liftM (listing.ending failure)
  | .ok none => liftM listing.unanswered
  | .ok (some response) => listing.collect response

/-! ### Requests -/

variable {listing : Listing Item} {response : Response} {session : Session} {token : Token} {subCommand : UInt8}
  {request : Bytes}

theorem asks_next_of_store {read : Response → Result Item}
    (written : Cbor.writeMap (Request.fields [some (.ofByte subCommand), none, none, none]) = request) :
    (CredentialStore.next subCommand read).Asks ((Signer.credentials.command session.info).byte :: request)
      (fun reply => reply.bind fun response => (CredentialStore.expect subCommand response).bind read) session := by
  have encoded : Request.encode (Signer.credentials.command session.info)
      (some (Request.pack [some (.ofByte subCommand), none, none, none])) =
        .ok ((Signer.credentials.command session.info).byte :: request) := by
    rw [← written]
    refine Request.encode_pack _ (by simp) fun argument mem => ?_
    simp only [List.mem_cons, Option.some.injEq, reduceCtorEq, List.not_mem_nil, or_false] at mem
    subst mem
    rfl
  exact (Signer.credentials.asks_send encoded).bind fun _ => (gives_liftM _).bind fun _ => gives_liftM _

theorem asks_next (listing : Listing Item) (session : Session) :
    listing.next.Asks (listing.continuation session.info) listing.read session := by
  cases listing with
  | assertions parameters =>
      have sent : (Session.send .getNextAssertion none).Asks [0x08] id (quiet session) := asks_send rfl
      have read : (assertions parameters).read = fun reply =>
          (reply.bind (Session.expectData Command.getNextAssertion.name)).bind Assertion.ofResponse := by
        funext reply
        cases reply <;> rfl
      rw [read]
      exact .unattended ((sent.bind fun _ => gives_liftM _).bind fun _ => gives_liftM _)
  | relyingParties token => exact asks_next_of_store rfl
  | credentials token rpIdHash => exact asks_next_of_store rfl

theorem asks_callSigned {params : Option Value} (h : signed token subCommand params session.info = .ok request) :
    (CredentialStore.callSigned token subCommand params).Asks request id session := by
  obtain ⟨message, authenticated, encoded⟩ := Result.bind_eq_ok_iff.1 h
  exact Signer.credentials.asks_call authenticated encoded

theorem asks_ask (h : listing.opening session.info = .ok request) : listing.ask.Asks request id session := by
  cases listing with
  | assertions parameters => exact asks_send h
  | relyingParties token => exact asks_callSigned h
  | credentials token rpIdHash => exact asks_callSigned h

theorem signed_of_accepted {params : Option Value} {encoded : Option Bytes}
    (h : params.map Value.canonical = encoded.map .ok) (info : Info) :
    ∃ request, signed token subCommand params info = .ok request := by
  have authenticated : Request.authenticated [] subCommand params = _ := Signer.credentials.authenticated_eq h
  unfold signed
  rw [authenticated]
  exact ⟨_, Request.encode_pack _ (by simp [Signer.arguments]) fun argument mem => Signer.order_arguments h mem⟩

theorem opening_of_store (h : listing.IsOfStore) (info : Info) : ∃ request, listing.opening info = .ok request := by
  cases listing with
  | assertions parameters => cases h
  | relyingParties token =>
      have accepted : (none : Option Value).map Value.canonical = (none : Option Bytes).map .ok := rfl
      exact signed_of_accepted accepted info
  | credentials token rpIdHash =>
      have written : (Request.pack [some (.bytes rpIdHash)]).canonical = .ok _ :=
        Request.canonical_pack (by simp) fun argument mem => by
          cases List.mem_singleton.1 mem
          rfl
      have accepted : (some _).map Value.canonical = (some _).map .ok := congrArg some written
      exact signed_of_accepted accepted info

/-! ### Replies -/

section Begun

variable {begin : Operation (Option Response)} {follow : Option Response → Operation (List Item)} {failure : Failure}
  {after : Session}

theorem begun_on_of_ok {reply : Option Response} (h : begin.on session = (.ok reply, after)) :
    (CredentialStore.begun begin).on session = (.ok reply, after) := by
  rw [CredentialStore.begun, on_tryCatch, h]

/-- A request that fails ends a listing, which is empty when the status is that for a lack of credentials. -/
theorem begun_bind_on_of_error (ofStore : listing.IsOfStore) (h : begin.on session = (.error failure, after))
    (nothing : follow none = pure []) :
    (CredentialStore.begun begin >>= follow).on session = (listing.ending failure, after) := by
  rw [on_bind, CredentialStore.begun, on_tryCatch, h]
  cases listing with
  | assertions parameters => cases ofStore
  | relyingParties | credentials =>
      cases failure with
      | status code =>
          by_cases absent : code = Status.noCredentials
          · simp only [ending, if_pos absent, on_pure, nothing]
          · simp only [ending, if_neg absent]
            rfl
      | _ => rfl

end Begun

theorem perform_on (listing : Listing Item) (session : Session) :
    listing.perform.on session = (listing.finish (listing.ask.on session).1).on (listing.ask.on session).2 := by
  cases listing with
  | assertions parameters =>
      simp only [perform, ask, Session.getAssertions, Session.sendForData, on_bind]
      rcases (Session.send .getAssertion (some parameters.toValue)).on session with ⟨failure | _ | response, after⟩
      · rfl
      · rfl
      · simp only [finish, collect, on_bind]
        rfl
  | relyingParties token =>
      unfold perform ask CredentialStore.listRelyingParties
      rcases reached : (CredentialStore.callSigned token 0x02 none).on session with ⟨failure | _ | response, after⟩
      · exact begun_bind_on_of_error trivial reached rfl
      · rw [on_bind_of_ok (begun_on_of_ok reached)]
        rfl
      · rw [on_bind_of_ok (begun_on_of_ok reached)]
        rfl
  | credentials token rpIdHash =>
      have ofStore : (credentials token rpIdHash).IsOfStore := trivial
      unfold perform ask CredentialStore.listCredentials
      rcases reached : (CredentialStore.callSigned token 0x04 _).on session with ⟨failure | _ | response, after⟩
      · exact begun_bind_on_of_error ofStore (by rw [on_bind, reached]) rfl
      · refine (begun_bind_on_of_error ofStore (on_bind_of_ok reached _) ?_).trans ?_ <;> rfl
      · rw [on_bind_of_ok (begun_on_of_ok (on_bind_of_ok reached _))]
        rfl

/-- What a listing does after its first exchange: it asks for the next items by bare requests, only when more than one
is announced, and collects as many as are announced. -/
structure Course (listing : Listing Item) (first : Link.Exchange) (later : List Link.Exchange)
    (operation : Operation (List Item)) (session : Session) : Prop where
  makes : operation.Makes later session
  requests : ∀ exchange ∈ later, exchange.request = listing.continuation session.info
  announced : later ≠ [] → ∃ response total, first.reply = .ok (some response) ∧
    listing.total response = .ok total ∧ 1 < total
  collected : ∀ response total, first.reply = .ok (some response) → listing.total response = .ok total → 1 ≤ total →
    Collected listing.decode total.toNat (first :: later) (operation.on session).1

variable {first : Link.Exchange} {operation : Operation (List Item)}

theorem course_of_gives {result : Result (List Item)} (h : operation.Gives result)
    (collected : ∀ response total, first.reply = .ok (some response) → listing.total response = .ok total → 1 ≤ total →
      Collected listing.decode total.toNat [first] result) : listing.Course first [] operation session := by
  refine ⟨h.makes session, by simp, by simp, ?_⟩
  rw [h]
  exact collected

theorem decode_of_reply (h : first.reply = .ok (some response)) : listing.decode first = listing.item response := by
  rw [decode, h]
  rfl

theorem exists_course_of_total {total : UInt64} (h : first.reply = .ok (some response))
    (announced : listing.total response = .ok total) : ∃ later, listing.Course first later (do
      let item ← listing.item response
      return item :: (← Session.repeated listing.next (total.toNat - 1))) session := by
  have decoded : listing.decode first = listing.item response := decode_of_reply h
  cases held : listing.item response with
  | error failure =>
      rw [held] at decoded
      refine ⟨[], course_of_gives (fun _ => rfl) fun _ total' _ _ some => ?_⟩
      exact collected_of_error decoded some
  | ok item =>
      rw [held] at decoded
      -- The info is what the command for the next item depends on, and no exchange changes it.
      have asks (after : Session) (known : after.info = session.info) :
          listing.next.Asks (listing.continuation session.info) listing.read after := known ▸ listing.asks_next after
      obtain ⟨later, makes, requests, collected⟩ := collected_repeated asks (total.toNat - 1) rfl
      refine ⟨later, makes.map (item :: ·), requests, fun some => ?_, fun response' total' read' announced' some => ?_⟩
      · have positive := List.length_pos_iff.2 some
        have short := collected.length_le
        exact ⟨response, total, h, announced, UInt64.lt_iff_toNat_lt.2 (show 1 < total.toNat by omega)⟩
      · cases h.symm.trans read'
        cases announced.symm.trans announced'
        have positive : 1 ≤ total.toNat := UInt64.le_iff_toNat_le.1 some
        have whole := collected.cons decoded
        rw [Nat.sub_add_cancel positive] at whole
        show Collected _ _ _ ((do return item :: (← Session.repeated listing.next _) : Operation _).on session).1
        rw [on_map]
        exact whole

theorem numberOfCredentials_of_ofResponse {assertion : Assertion} (h : Assertion.ofResponse response = .ok assertion) :
    response.field .unsigned 0x05 = .ok assertion.numberOfCredentials := by
  simp only [Assertion.ofResponse, Result.bind_eq_ok_iff] at h
  obtain ⟨_, _, _, _, _, _, _, _, number, read, _, _, _, _, same⟩ := h
  cases same
  exact read

theorem course_of_total_ne {result : Result (List Item)} (h : first.reply = .ok (some response))
    (gives : operation.Gives result) (none : ∀ total, listing.total response = .ok total → ¬1 ≤ total) :
    listing.Course first [] operation session := by
  refine course_of_gives gives fun response' total read announced some => ?_
  cases h.symm.trans read
  exact absurd some (none total announced)

theorem exists_course_collect (h : first.reply = .ok (some response)) :
    ∃ later, listing.Course first later (listing.collect response) session := by
  cases listing with
  | assertions parameters =>
      -- Here the total is a part of the first item: without an item nothing is announced.
      cases held : Assertion.ofResponse response with
      | error failure =>
          have decoded : (assertions parameters).decode first = .error failure := (decode_of_reply h).trans held
          have gives : ((assertions parameters).collect response).Gives (.error failure) := gives_of_error held _
          exact ⟨[], course_of_gives gives fun _ _ _ _ some => collected_of_error decoded some⟩
      | ok assertion =>
          have announced : (assertions parameters).total response = .ok (assertion.numberOfCredentials.getD 1) := by
            rw [total, numberOfCredentials_of_ofResponse held]
            rfl
          have course : ∃ later, (assertions parameters).Course first later _ session :=
            exists_course_of_total h announced
          rw [item, held] at course
          rw [collect, held]
          exact course
  | relyingParties token =>
      cases field : response.field .unsigned 0x05 with
      | error failure =>
          have gives : ((relyingParties token).collect response).Gives (.error failure) := gives_of_error field _
          refine ⟨[], course_of_total_ne h gives fun total announced => ?_⟩
          rw [Listing.total, field] at announced
          cases announced
      | ok number =>
          have announced : (relyingParties token).total response = .ok (number.getD 0) := by
            rw [total, field]
            rfl
          rw [collect, field]
          show ∃ later, (relyingParties token).Course first later (match number.getD 0 with
            | 0 => pure []
            | total => CredentialStore.collect 0x03 CredentialStore.RelyingParty.ofResponse response total) session
          split
          · rename_i none
            refine ⟨[], course_of_total_ne h (gives_pure []) fun total announced' => ?_⟩
            rw [announced, none] at announced'
            cases announced'
            decide
          · exact exists_course_of_total h announced
  | credentials token rpIdHash =>
      cases field : response.field .unsigned 0x09 with
      | error failure =>
          have gives : ((credentials token rpIdHash).collect response).Gives (.error failure) := gives_of_error field _
          refine ⟨[], course_of_total_ne h gives fun total announced => ?_⟩
          rw [Listing.total, field] at announced
          cases announced
      | ok number =>
          have announced : (credentials token rpIdHash).total response = .ok (number.getD 1) := by
            rw [total, field]
            rfl
          rw [collect, field]
          exact exists_course_of_total h announced

theorem exists_course_finish (listing : Listing Item) (first : Link.Exchange) (session : Session) :
    ∃ later, listing.Course first later (listing.finish first.reply) session := by
  rcases replied : first.reply with failure | _ | response
  · exact ⟨[], course_of_gives (gives_liftM _) fun response total read => by cases replied.symm.trans read⟩
  · exact ⟨[], course_of_gives (gives_liftM _) fun response total read => by cases replied.symm.trans read⟩
  · exact exists_course_collect replied

theorem perform_of_opening_error {failure : Failure} (h : listing.opening session.info = .error failure) :
    listing.perform.on session = (.error failure, session) := by
  cases listing with
  | assertions parameters =>
      have refused : (assertions parameters).ask.on session = (.error failure, session) := by
        have encoded : Request.encode .getAssertion (some parameters.toValue) = .error failure := h
        rw [ask, Session.send, encoded, on_bind, on_liftM]
      rw [perform_on, refused]
      rfl
  | relyingParties token =>
      obtain ⟨request, opened⟩ := (relyingParties token).opening_of_store trivial session.info
      cases h.symm.trans opened
  | credentials token rpIdHash =>
      obtain ⟨request, opened⟩ := (credentials token rpIdHash).opening_of_store trivial session.info
      cases h.symm.trans opened

/-- A listing that can be asked for makes one exchange and then takes the course that the reply says. -/
theorem exists_course (opened : listing.opening session.info = .ok request) :
    ∃ first later after, first.request = request ∧ listing.perform.Makes (first :: later) session ∧
      after.info = session.info ∧ listing.Course first later (listing.finish first.reply) after ∧
      (listing.perform.on session).1 = ((listing.finish first.reply).on after).1 := by
  obtain ⟨first, same, makes, replied, info⟩ := asks_ask opened
  obtain ⟨later, course⟩ := exists_course_finish listing first (listing.ask.on session).2
  have replied : (listing.ask.on session).1 = first.reply := replied
  refine ⟨first, later, _, same, makes.follow listing.perform_on ?_, info, course, by rw [perform_on, replied]⟩
  rw [replied]
  exact course.makes

/-- A listing brings exactly what was announced, in order, or fails as a whole. What is stored on the authenticator can
always be asked for; arguments without an encoding are refused before anything is sent. Else a listing begins with one
request. When that fails, it ends the listing: the status for a lack of credentials there stands for an empty list of
what is stored, and nowhere else. When the response announces a total of one or more, as many replies are collected, the
first one with them: each is asked for by a bare request and read, up to the first that cannot be read, whose failure is
the result. -/
theorem listing_is_whole_or_fails (listing : Listing Item) (session : Session) :
    (listing.IsOfStore → ∃ request, listing.opening session.info = .ok request) ∧
    (∀ failure, listing.opening session.info = .error failure →
      listing.perform.on session = (.error failure, session)) ∧
    ∀ request, listing.opening session.info = .ok request → ∃ first later,
      listing.perform.Makes (first :: later) session ∧
      first.request = request ∧
      (∀ exchange ∈ later, exchange.request = listing.continuation session.info) ∧
      (later ≠ [] → ∃ response total, first.reply = .ok (some response) ∧ listing.total response = .ok total ∧
        1 < total) ∧
      (∀ response total, first.reply = .ok (some response) → listing.total response = .ok total → 1 ≤ total →
        Collected listing.decode total.toNat (first :: later) (listing.perform.on session).1) ∧
      (∀ failure, first.reply = .error failure →
        later = [] ∧ (listing.perform.on session).1 = listing.ending failure) ∧
      (first.reply = .ok none → later = [] ∧ (listing.perform.on session).1 = listing.unanswered) ∧
      ∀ exchange ∈ later, exchange.reply = .error (.status Status.noCredentials) →
        (listing.perform.on session).1 = .error (.status Status.noCredentials) := by
  refine ⟨fun ofStore => opening_of_store ofStore _, fun failure => perform_of_opening_error, fun request opened => ?_⟩
  obtain ⟨first, later, after, same, makes, info, course, result⟩ := exists_course opened
  have collected := course.collected
  rw [← result] at collected
  have none (bare : ∀ response, first.reply ≠ .ok (some response)) : later = [] := by
    by_contra some
    obtain ⟨response, total, read, -⟩ := course.announced some
    exact bare response read
  refine ⟨first, later, makes, same, ?_, course.announced, collected, ?_, ?_, ?_⟩
  · rw [← info]
    exact course.requests
  · intro failure failed
    exact ⟨none (by simp [failed]), by rw [result, failed]; rfl⟩
  · intro empty
    exact ⟨none (by simp [empty]), by rw [result, empty]; rfl⟩
  · intro exchange mem absent
    obtain ⟨response, total, read, announced, several⟩ := course.announced (List.ne_nil_of_mem mem)
    have all := collected response total read announced (UInt64.le_of_lt several)
    refine all.eq_error_of_mem (List.mem_cons_of_mem first mem) ?_
    rw [decode, absent]
    rfl

/-- The answer of an authenticator that knows three relying parties, about one of them. -/
def partyAnswer : Bytes :=
  [0x00, 0xA3, 0x03, 0xA1, 0x62, 0x69, 0x64, 0x61, 0x61, 0x04, 0x41, 0x11, 0x05, 0x03]

/-- A session with an authenticator that announces three relying parties and loses the third one. -/
def partiesSession : Session where
  link := .bringing [Hid.Frame.ofCommand .cbor partyAnswer, Hid.Frame.ofCommand .cbor partyAnswer,
    Hid.Frame.ofCommand .cbor [0x2E]]
  info := {}
  config := {}
  entropy := ⟨fun _ => 0, 0⟩

/-- A listing of relying parties. -/
def parties : Listing CredentialStore.RelyingParty :=
  .relyingParties ⟨.two, List.replicate 32 0x11⟩

/-- A listing of assertions with an extension that has no encoding. -/
def unwritable : Listing Assertion :=
  let extension : Value := .map [(.bool true, .null)]
  .assertions { rpId := "a", clientDataHash := [], extensions := some (Dictionary.empty.insert "b" extension) }

theorem listing_of_partiesSession :
    (∃ failure, unwritable.opening partiesSession.info = .error failure ∧
      unwritable.perform.on partiesSession = (.error failure, partiesSession)) ∧
    parties.IsOfStore ∧ ∃ request first later,
      parties.opening partiesSession.info = .ok request ∧
      parties.perform.Makes (first :: later) partiesSession ∧ first.request = request ∧ later.length = 2 ∧
      ∃ response total, first.reply = .ok (some response) ∧ parties.total response = .ok total ∧ 1 ≤ total ∧
        Collected parties.decode total.toNat (first :: later) (.error (.status 0x2E)) := by
  refine ⟨?_, trivial, ?_⟩
  · have none : (unwritable.opening partiesSession.info).toOption = none := by decide +kernel
    obtain ⟨-, refused, -⟩ := listing_is_whole_or_fails unwritable partiesSession
    cases opened : unwritable.opening partiesSession.info with
    | ok request =>
        rw [opened] at none
        cases none
    | error failure => exact ⟨failure, rfl, refused failure opened⟩
  · obtain ⟨stored, -, begun⟩ := listing_is_whole_or_fails parties partiesSession
    obtain ⟨request, opened⟩ := stored trivial
    obtain ⟨first, later, makes, same, -, announced, collected, -, -, absent⟩ := begun request opened
    have steps := makes.conversed.lockstep (Link.isCalm_bringing _)
    have sent : (parties.perform.on partiesSession).2.link.requests.length = 3 := by decide +kernel
    rw [steps.requests, List.length_append, List.length_map] at sent
    have counted : later.length = 2 := by simpa [partiesSession, Link.bringing, Link.requests] using sent
    obtain ⟨second, third, rfl⟩ := List.length_eq_two.1 counted
    have lost : third.reply = .error (.status 0x2E) := by
      rw [Link.Exchange.reply, steps.outcomes 2 third rfl]
      rfl
    have result := absent third (by simp) lost
    obtain ⟨response, total, read, several, many⟩ := announced (by simp)
    have some : 1 ≤ total := UInt64.le_of_lt many
    exact ⟨request, first, [second, third], opened, makes, same, rfl, response, total, read, several, some,
      result ▸ collected response total read several some⟩

end Listing

end SecurityKey
