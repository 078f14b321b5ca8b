import SecurityKey.Proofs.Card.Exchange
import SecurityKey.Proofs.Hid.Exchange
import SecurityKey.Proofs.Response
import SecurityKey.Proofs.Session.Operation
import SecurityKey.Proofs.U2f.Client

/-!
# Links are interchangeable

An operation gives the same result over CTAPHID and over a smartcard when the authenticator answers with the same
bytes: in one frame there, cut into any pieces here. The authenticator gets the same request on both.
-/

namespace SecurityKey

open Cbor (Value)

/-! ## What an authenticator answers and gets -/

namespace Link

/-- On a link the command `apdu` is answered with a body and a status word: over CTAPHID the first frame that is not a
keepalive is `frame`, and a smartcard accepts all parts of the command and delivers the body in pieces. -/
inductive Answered (frame : Hid.Frame) (apdu : Card.Apdu) (body : Bytes) (high low : UInt8) : Link → Prop where
  | hid {port : Port Hid.Frame Hid.Frame} {version : Option Version} {rest : List (Arrival Hid.Frame)} :
      Hid.ending port.arrivals = .message frame :: rest → Answered frame apdu body high low (.hid port version)
  | card {port : Port Bytes Bytes} {extendedLength : Bool} {between : List (Arrival Bytes)} {announced : List UInt8} :
      Card.Accepts between ((apdu.encode extendedLength).length - 1) port.arrivals →
      Card.Delivers high low body announced between → Answered frame apdu body high low (.card port extendedLength)

/-- Between two moments of a link the authenticator got one request: over CTAPHID in `frame`, to which at most cancel
frames were added, and as a smartcard in APDUs that make up `apdu`, after which at most further pieces of the response
were asked for. -/
inductive Sent (frame : Hid.Frame) (apdu : Card.Apdu) : Link → Link → Prop where
  | hid {before after : Port Hid.Frame Hid.Frame} {version : Option Version} {later : List Hid.Frame} :
      after.sent = before.sent ++ frame :: later → (∀ other ∈ later, other = Hid.Frame.cancel) →
      Sent frame apdu (.hid before version) (.hid after version)
  | card {before after : Port Bytes Bytes} {extendedLength : Bool} {wires : List Bytes} {announced : List UInt8} :
      after.sent = before.sent ++ wires → Card.assemble? wires = some (apdu, announced.map Card.Apdu.getResponse) →
      Sent frame apdu (.card before extendedLength) (.card after extendedLength)

variable {frame : Hid.Frame} {apdu : Card.Apdu} {request answer body : Bytes} {high low : UInt8} {link after : Link}

theorem Answered.heed (h : Answered frame apdu body high low link) (heeded : Bool) :
    Answered frame apdu body high low (link.heed heeded) := by
  cases h with
  | hid ends => exact .hid ends
  | card accepts delivers => exact .card accepts delivers

theorem Sent.heed {heeded heeded' : Bool} (h : Sent frame apdu (link.heed heeded) after) :
    Sent frame apdu link (after.heed heeded') := by
  cases link with
  | hid port version =>
    cases h with
    | hid told cancels => exact .hid told cancels
  | card port extendedLength =>
    cases h with
    | card told whole => exact .card told whole

/-! ## Exchanges -/

theorem hid_exchange {command : Hid.Command} (known : command = .cbor ∨ command = .msg)
    {port : Port Hid.Frame Hid.Frame} {rest : List (Arrival Hid.Frame)}
    (ends : Hid.ending port.arrivals = .message (.ofCommand command answer) :: rest)
    (request : Bytes) (version : Option Version) (apdu : Card.Apdu) : ∃ after,
      Hid.exchange command request port = (.ok answer, after) ∧
      Sent (.ofCommand command request) apdu (.hid port version) (.hid after version) := by
  have sends (reason : String) (later : List (Arrival Hid.Frame)) : port.arrivals ≠ .sendFailure reason :: later := by
    intro same
    simp [same, Hid.keepsWaiting] at ends
  have decided : Hid.outcome command (.message (.ofCommand command answer) :: rest) = .ok answer := by
    rcases known with rfl | rfl <;> rfl
  refine ⟨_, (Hid.exchange_eq known request sends).trans (by rw [ends, decided]), .hid rfl ?_⟩
  split
  · simp
  · simp

theorem card_exchange (plain : apdu.header.isChained = false) (final : high ≠ 0x61) {port : Port Bytes Bytes}
    {extendedLength : Bool} {between : List (Arrival Bytes)} {announced : List UInt8}
    (accepts : Card.Accepts between ((apdu.encode extendedLength).length - 1) port.arrivals)
    (delivers : Card.Delivers high low body announced between) (frame : Hid.Frame) : ∃ after,
      Card.exchange apdu extendedLength port = (successBody (body ++ [high, low]), after) ∧
      Sent frame apdu (.card port extendedLength) (.card after extendedLength) := by
  obtain ⟨after, exchanged, told⟩ := Card.exchange_of_delivers final accepts delivers
  refine ⟨after, ?_, .card told (Card.assemble?_encode plain extendedLength)⟩
  rw [exchanged, successBody, Card.splitStatus?_append]

/-- A CTAP2 request is answered with the bytes that the authenticator tells. -/
theorem Answered.sendCbor (h : Answered (.ofCommand .cbor answer) ⟨.ctap2, request⟩ answer 0x90 0x00 link) :
    (link.sendCbor request).1 = .ok answer ∧
      Sent (.ofCommand .cbor request) ⟨.ctap2, request⟩ link (link.sendCbor request).2 := by
  cases h with
  | @hid port version rest ends =>
    obtain ⟨after, exchanged, sent⟩ := hid_exchange (.inl rfl) ends request version ⟨.ctap2, request⟩
    simp only [Link.sendCbor, exchanged]
    exact ⟨trivial, sent⟩
  | card accepts delivers =>
    have plain : Card.Header.ctap2.isChained = false := by decide
    have whole : successBody (answer ++ [0x90, 0x00]) = .ok answer := by
      rw [successBody, Card.splitStatus?_append]
      rfl
    obtain ⟨after, exchanged, sent⟩ := card_exchange plain (by decide) accepts delivers (.ofCommand .cbor request)
    simp only [Link.sendCbor, exchanged, whole]
    exact ⟨trivial, sent⟩

/-- A U2F command is answered with the body that the authenticator tells, or fails with the status word after it. -/
theorem Answered.sendCommand (plain : apdu.header.isChained = false) (final : high ≠ 0x61)
    (h : Answered (.ofCommand .msg (body ++ [high, low])) apdu body high low link) :
    (link.sendCommand apdu).1 = successBody (body ++ [high, low]) ∧
      Sent (.ofCommand .msg (Card.Apdu.encodeExtended apdu.header apdu.data)) apdu link
        (link.sendCommand apdu).2 := by
  let wire := Card.Apdu.encodeExtended apdu.header apdu.data
  cases h with
  | @hid port version rest ends =>
    obtain ⟨after, exchanged, sent⟩ := hid_exchange (.inr rfl) ends wire version apdu
    simp only [Link.sendCommand, wire, exchanged] at sent ⊢
    exact ⟨rfl, sent⟩
  | card accepts delivers =>
    obtain ⟨after, exchanged, sent⟩ := card_exchange plain final accepts delivers (.ofCommand .msg wire)
    simp only [Link.sendCommand, exchanged]
    exact ⟨trivial, sent⟩

end Link

/-! ## Operations -/

variable {command : Command} {arguments : Option Value} {session : Session} {request answer body : Bytes}
  {high low : UInt8} {call : U2f.Call} {link : Link}

theorem Session.send_of_answered (written : Request.encode command arguments = .ok request)
    (answered : session.link.Answered (.ofCommand .cbor answer) ⟨.ctap2, request⟩ answer 0x90 0x00) :
    ((Session.send command arguments).on session).1 = Response.ofAnswer answer ∧
      Link.Sent (.ofCommand .cbor request) ⟨.ctap2, request⟩ session.link
        ((Session.send command arguments).on session).2.link := by
  obtain ⟨result, sent⟩ := answered.sendCbor
  rw [Session.on_send_of_encode written, Session.exchanged, result]
  exact ⟨rfl, sent⟩

theorem Session.send_of_not_written {failure : Failure} (refused : Request.encode command arguments = .error failure)
    (session : Session) : (Session.send command arguments).on session = (.error failure, session) := by
  unfold Session.send
  rw [refused]
  rfl

theorem U2f.Call.perform_of_answered (allowed : ¬call.IsRefused) (final : high ≠ 0x61)
    (answered : link.Answered (.ofCommand .msg (body ++ [high, low])) call.apdu body high low) :
    (call.perform.on link).1 = call.conclude (Link.successBody (body ++ [high, low])) ∧
      Link.Sent (.ofCommand .msg (Card.Apdu.encodeExtended call.apdu.header call.apdu.data)) call.apdu link
        (call.perform.on link).2 := by
  obtain ⟨result, sent⟩ := (answered.heed false).sendCommand call.isChained_apdu final
  rw [U2f.Call.perform_on allowed, result]
  exact ⟨rfl, sent.heed⟩

/-- Operations on two links, each over CTAPHID or over a smartcard, give the same result when the authenticator answers
with the same bytes, and it gets the same request on both. Without a request, they fail in the same way and send
nothing. -/
theorem links_are_interchangeable :
    (∀ (command : Command) (arguments : Option Value) (session session' : Session),
      (∀ failure, Request.encode command arguments = .error failure →
        (Session.send command arguments).on session = (.error failure, session) ∧
        (Session.send command arguments).on session' = (.error failure, session')) ∧
      ∀ request answer, Request.encode command arguments = .ok request →
        session.link.Answered (.ofCommand .cbor answer) ⟨.ctap2, request⟩ answer 0x90 0x00 →
        session'.link.Answered (.ofCommand .cbor answer) ⟨.ctap2, request⟩ answer 0x90 0x00 →
        ∃ result, Response.Says answer result ∧
          ((Session.send command arguments).on session).1 = result ∧
          ((Session.send command arguments).on session').1 = result ∧
          Link.Sent (.ofCommand .cbor request) ⟨.ctap2, request⟩ session.link
            ((Session.send command arguments).on session).2.link ∧
          Link.Sent (.ofCommand .cbor request) ⟨.ctap2, request⟩ session'.link
            ((Session.send command arguments).on session').2.link) ∧
    ∀ (call : U2f.Call) (link link' : Link),
      (call.IsRefused → ∃ failure,
        call.perform.on link = (.error failure, link) ∧ call.perform.on link' = (.error failure, link')) ∧
      ∀ body high low, ¬call.IsRefused → high ≠ 0x61 →
        link.Answered (.ofCommand .msg (body ++ [high, low])) call.apdu body high low →
        link'.Answered (.ofCommand .msg (body ++ [high, low])) call.apdu body high low →
        ∃ result, result = call.conclude (Link.successBody (body ++ [high, low])) ∧
          (call.perform.on link).1 = result ∧ (call.perform.on link').1 = result ∧
          Link.Sent (.ofCommand .msg (Card.Apdu.encodeExtended call.apdu.header call.apdu.data)) call.apdu link
            (call.perform.on link).2 ∧
          Link.Sent (.ofCommand .msg (Card.Apdu.encodeExtended call.apdu.header call.apdu.data)) call.apdu link'
            (call.perform.on link').2 := by
  refine ⟨fun command arguments session session' => ⟨fun failure refused => ?_, ?_⟩,
    fun call link link' => ⟨fun refused => ?_, ?_⟩⟩
  · exact ⟨Session.send_of_not_written refused session, Session.send_of_not_written refused session'⟩
  · intro request answer written answered answered'
    obtain ⟨result, sent⟩ := Session.send_of_answered written answered
    obtain ⟨result', sent'⟩ := Session.send_of_answered written answered'
    exact ⟨_, Response.says_ofAnswer answer, result, result', sent, sent'⟩
  · obtain ⟨failure, fails⟩ := U2f.Call.perform_of_refused refused
    exact ⟨failure, fails link, fails link'⟩
  · intro body high low allowed final answered answered'
    obtain ⟨result, sent⟩ := U2f.Call.perform_of_answered allowed final answered
    obtain ⟨result', sent'⟩ := U2f.Call.perform_of_answered allowed final answered'
    exact ⟨_, rfl, result, result', sent, sent'⟩

/-- An argument that does not fit into a short APDU. -/
def longArgument : Value := .bytes (List.replicate 300 0x5A)

/-- The request with that argument. -/
def longRequest : Bytes := Command.largeBlobs.byte :: longArgument.write

/-- A session over a link. -/
def sessionOver (link : Link) : Session := .start link {} { stream := fun _ => 0 }

/-- A link over CTAPHID on which the authenticator asks for a touch, the caller cancels, and a frame comes. -/
def touchedLink (frame : Hid.Frame) : Link :=
  .hid {
    arrivals := [.message (.ofCommand .keepalive [0x02]), .cancel, .message frame]
    sent := []
    control := some {} } none

/-- A smartcard without extended length that brings the given responses. -/
def cardLink (arrivals : List (Link.Arrival Bytes)) : Link :=
  .card { arrivals, sent := [], control := none } false

/-- A card's responses to a chain of two parts, where the caller cancels and the answer comes in three pieces. -/
def chainedResponses : List (Link.Arrival Bytes) :=
  [.cancel, .message [0x90, 0x00], .message [0x00, 0x61, 0x01], .message [0x61, 0x01], .message [0xA0, 0x90, 0x00]]

theorem answered_longRequest : (cardLink chainedResponses).Answered (.ofCommand .cbor [0x00, 0xA0])
    ⟨.ctap2, longRequest⟩ [0x00, 0xA0] 0x90 0x00 := by
  have chained : ((⟨.ctap2, longRequest⟩ : Card.Apdu).encode false).length - 1 = 1 := by decide +kernel
  have delivers : Card.Delivers 0x90 0x00 ([0x00] ++ ([] ++ [0xA0])) [0x01, 0x01] (chainedResponses.drop 2) :=
    .more .now (.more .now (.last .now))
  refine .card ?_ delivers
  rw [chained]
  exact .part [] (.cancel .now) .all

/-- A check for a key whose owner is the authenticator. -/
def ownKeyCheck : U2f.Call := .authenticate [] [] [0x01] .checkOnly

theorem answered_ownKeyCheck : (cardLink [.message [0x61, 0x00], .message [0x69, 0x85]]).Answered
    (.ofCommand .msg [0x69, 0x85]) ownKeyCheck.apdu [] 0x69 0x85 := by
  have delivers : Card.Delivers 0x69 0x85 ([] ++ []) [0x00] [.message [0x61, 0x00], .message [0x69, 0x85]] :=
    .more .now (.last .now)
  exact .card .all delivers

theorem interchangeable_longRequest :
    ((Session.send .largeBlobs (some longArgument)).on
        (sessionOver (touchedLink (.ofCommand .cbor [0x00, 0xA0])))).1 =
      ((Session.send .largeBlobs (some longArgument)).on (sessionOver (cardLink chainedResponses))).1 ∧
    (ownKeyCheck.perform.on (touchedLink (.ofCommand .msg [0x69, 0x85]))).1 = .error .credentialExcluded ∧
    (ownKeyCheck.perform.on (cardLink [.message [0x61, 0x00], .message [0x69, 0x85]])).1 =
      .error .credentialExcluded := by
  obtain ⟨requests, commands⟩ := links_are_interchangeable
  constructor
  · have written : Request.encode .largeBlobs (some longArgument) = .ok longRequest :=
      Request.encode_of_canonical .largeBlobs (Cbor.Value.canonical_eq_ok_iff.2 ⟨rfl, rfl⟩)
    obtain ⟨result, -, hid, card, -, -⟩ := (requests .largeBlobs (some longArgument)
      (sessionOver (touchedLink (.ofCommand .cbor [0x00, 0xA0]))) (sessionOver (cardLink chainedResponses))).2
      longRequest [0x00, 0xA0] written (.hid rfl) answered_longRequest
    exact hid.trans card.symm
  · have allowed : ¬ownKeyCheck.IsRefused := by show ¬255 < 1; decide
    obtain ⟨result, decided, hid, card, -, -⟩ := (commands ownKeyCheck (touchedLink (.ofCommand .msg [0x69, 0x85]))
      (cardLink [.message [0x61, 0x00], .message [0x69, 0x85]])).2
      [] 0x69 0x85 allowed (by decide) (.hid rfl) answered_ownKeyCheck
    exact ⟨hid.trans decided, card.trans decided⟩

end SecurityKey
