import SecurityKey.Proofs.Card.Responses
import SecurityKey.Proofs.Hid.Exchange
import SecurityKey.Proofs.Readers
import SecurityKey.Proofs.Session.Operation
import SecurityKey.Proofs.U2f.Client
import SecurityKey.Session.Detection

/-!
# Which protocol an authenticator speaks

An authenticator is asked for its info, and for its U2F version only when it has told none. The two answers decide
which protocol it is spoken to with; when neither of them helps, the failure is that of the info.
-/

namespace SecurityKey

open Cbor (Readable maxDepth)

open Link (Port)

/-! ## Questions -/

/-- What is asked of an authenticator until its protocol is known. -/
inductive Question where
  | select
  | info
  | version
  deriving DecidableEq

namespace Question

/-- The message of a question over CTAPHID, where nothing is selected. -/
def frame? : Question → Option Hid.Frame
  | select => none
  | info => some (.ofCommand .cbor [0x04])
  | version => some (.ofCommand .msg [0x00, 0x03, 0x00, 0x00, 0x00, 0x00, 0x00])

/-- The command of a question on a smartcard. -/
def apdu : Question → Card.Apdu
  | select => .select Card.fidoApplication
  | info => ⟨.ctap2, [0x04]⟩
  | version => ⟨⟨0x00, 0x03, 0x00, 0x00⟩, []⟩

/-- The command of a question as it is sent. -/
def wire (question : Question) : Bytes :=
  Card.Apdu.encodeShort question.apdu.header question.apdu.data

theorem encode_apdu (question : Question) (extendedLength : Bool) :
    question.apdu.encode extendedLength = [question.wire] := by
  have short : question.apdu.data.length ≤ Card.Apdu.shortLimit := by cases question <;> decide
  rw [Card.Apdu.encode, if_pos short, wire]

end Question

/-- Between two moments of a link one question went out and nothing else. On a smartcard the response may come in
pieces: the first responses that arrive are those that announce another one, which is then asked for. -/
inductive Link.Asks (question : Question) : Link → Link → Prop where
  | hid {before after : Port Hid.Frame Hid.Frame} {version : Option Version} :
      after.sent = before.sent ++ question.frame?.toList → Asks question (.hid before version) (.hid after version)
  | card {before after : Port Bytes Bytes} {extendedLength : Bool} {pieces later : List Bytes} :
      Card.responses before.arrivals = pieces ++ later → (∀ response ∈ pieces, Card.IsPiece response) →
      after.sent = before.sent ++
        question.wire :: pieces.map (fun response => Card.Apdu.getResponse (Card.announcedBy response)) →
      Asks question (.card before extendedLength) (.card after extendedLength)

/-- Between two moments of a link the given questions went out, one after another, and nothing else. -/
inductive Link.Asked : Link → List Question → Link → Prop where
  | nothing (link : Link) : Asked link [] link
  | ask {before between after : Link} {question : Question} {later : List Question} :
      Asks question before between → Asked between later after → Asked before (question :: later) after

namespace Link

variable {link before after : Link} {question : Question}

/-- What is sent does not tell whether a caller is heeded. -/
theorem Asks.of_heed {heeded still : Bool} (h : Asks question (before.heed heeded) after) :
    Asks question before (after.heed still) := by
  cases before with
  | hid port version => cases h with
    | hid sent => exact .hid sent
  | card port extendedLength => cases h with
    | card told announced sent => exact .card told announced sent

theorem asks_of_card_exchange (question : Question) (port : Port Bytes Bytes) (extendedLength : Bool) :
    Asks question (.card port extendedLength)
      (.card (Card.exchange question.apdu extendedLength port).2 extendedLength) := by
  obtain ⟨chain, pieces, later, course⟩ := Card.exchange_course question.apdu extendedLength port
  rw [question.encode_apdu] at course
  obtain rfl : chain = [] := List.eq_nil_of_length_eq_zero (Nat.lt_one_iff.1 course.unfinished)
  have told : Card.responses port.arrivals = pieces ++ later := course.told
  exact .card told course.announced course.sent

/-! ## Asking -/

/-- The request for the info, which no caller cancels. -/
def askInfo (link : Link) : Except Failure Bytes × Link :=
  let (answer, after) := (link.heed false).sendCbor [0x04]
  (answer, after.heed link.isHeeding)

/-- The U2F command for the version, which no caller cancels. -/
def askVersion (link : Link) : Except Failure Bytes × Link :=
  let (response, after) := (link.heed false).sendCommand Question.version.apdu
  (response, after.heed link.isHeeding)

theorem unheeded_of_heed (port : Port Hid.Frame Hid.Frame) :
    ∀ control ∈ port.control.map ({ · with heeded := false }), control.heeded = false := by
  simp

theorem asks_select (link : Link) : Asks .select link link.select.2 := by
  cases link with
  | hid port version => exact .hid (List.append_nil _).symm
  | card port extendedLength => exact asks_of_card_exchange .select port extendedLength

theorem asks_info (link : Link) : Asks .info link link.askInfo.2 := by
  have asks : Asks .info (link.heed false) ((link.heed false).sendCbor [0x04]).2 := by
    cases link with
    | hid port version => exact .hid (Hid.sent_exchange_of_unheeded (.inl rfl) _ (unheeded_of_heed port))
    | card port extendedLength => exact asks_of_card_exchange .info _ extendedLength
  exact asks.of_heed

theorem asks_version (link : Link) : Asks .version link link.askVersion.2 := by
  have asks : Asks .version (link.heed false) ((link.heed false).sendCommand Question.version.apdu).2 := by
    cases link with
    | hid port version => exact .hid (Hid.sent_exchange_of_unheeded (.inr rfl) _ (unheeded_of_heed port))
    | card port extendedLength => exact asks_of_card_exchange .version _ extendedLength
  exact asks.of_heed

end Link

/-! ## What the info comes to -/

namespace Info

/-- The info that a request for it comes to. -/
def ofAnswer (answer : Except Link.Failure Bytes) : Result Info := do
  let response ← Response.ofAnswer (← answer.mapError Failure.link)
  ofResponse (← Session.expectData Command.getInfo.name response)

/-- What a request for the info comes to: the link fails, the authenticator refuses or does not say anything, or what
it says is malformed or holds the info. -/
inductive Told : Except Link.Failure Bytes → Result Info → Prop where
  | lost (reason : Link.Failure) : Told (.error reason) (.error (.link reason))
  | empty : Told (.ok []) (.error (.link .emptyResponse))
  | refused {code : UInt8} {body : Bytes} : code ≠ 0 → Told (.ok (code :: body)) (.error (.status code))
  | bare : Told (.ok [0x00]) (.error (.badResponse (.noData "GetInfo")))
  | malformed {body : Bytes} {malformation : Malformation} : body ≠ [] →
      Response.ofBytes body = .error (.badResponse malformation) →
      Told (.ok (0x00 :: body)) (.error (.badResponse malformation))
  | illTyped {body : Bytes} {response : Response} {malformation : Malformation} : body ≠ [] →
      Response.ofBytes body = .ok response → ofResponse response = .error (.badResponse malformation) →
      Told (.ok (0x00 :: body)) (.error (.badResponse malformation))
  | info {body : Bytes} {response : Response} {info : Info} : body ≠ [] →
      Response.ofBytes body = .ok response → ofResponse response = .ok info → Told (.ok (0x00 :: body)) (.ok info)

theorem ofAnswer_ok (answer : Bytes) : ofAnswer (.ok answer) =
    (Response.ofAnswer answer).bind fun response =>
      (Session.expectData Command.getInfo.name response).bind ofResponse := rfl

theorem ofAnswer_of_said {answer : Bytes} {result : Result (Option Response)} (h : Response.Says answer result) :
    ofAnswer (.ok answer) =
      result.bind fun response => (Session.expectData Command.getInfo.name response).bind ofResponse := by
  rw [ofAnswer_ok, Response.says_iff.1 h]

theorem told_ofAnswer (answer : Except Link.Failure Bytes) : Told answer (ofAnswer answer) := by
  cases answer with
  | error reason => exact .lost reason
  | ok answer =>
    have said := Response.says_ofAnswer answer
    rw [ofAnswer_ok]
    generalize Response.ofAnswer answer = result at said
    cases said with
    | nothing => exact .empty
    | status refused => exact .refused refused
    | success => exact .bare
    | malformed full garbled => exact .malformed full garbled
    | @data body response full isRead =>
      show Told _ (ofResponse response)
      have reading : (ofResponse response).IsReading := Result.Reading.isReading
      cases decoded : ofResponse response with
      | ok info => exact .info full isRead decoded
      | error failure =>
        obtain ⟨malformation, rfl⟩ := reading failure decoded
        exact .illTyped full isRead decoded

theorem told_iff {answer : Except Link.Failure Bytes} {result : Result Info} :
    Told answer result ↔ ofAnswer answer = result := by
  refine ⟨fun told => ?_, fun same => same ▸ told_ofAnswer answer⟩
  cases told with
  | lost | empty | bare => rfl
  | refused code => exact ofAnswer_of_said (.status code)
  | malformed full garbled => exact ofAnswer_of_said (.malformed full garbled)
  | illTyped full isRead decoded | info full isRead decoded =>
    exact (ofAnswer_of_said (.data full isRead)).trans decoded

end Info

/-! ## Sessions -/

namespace Session

variable {config : Config} {entropy : Entropy} {link : Link}

theorem getInfo_on (session : Session) : getInfo.on session =
    match Info.ofAnswer session.link.askInfo.1 with
    | .ok info => (.ok info, { session with link := session.link.askInfo.2, info })
    | .error failure => (.error failure, { session with link := session.link.askInfo.2 }) := by
  have encoded : Request.encode .getInfo none = .ok [0x04] := rfl
  rw [getInfo, Operation.on_unattended]
  simp only [sendForData, Operation.on_bind, on_send_of_encode encoded, exchanged, Operation.quiet, Link.askInfo,
    Operation.on_liftM]
  -- Each way to fail ends the operation at another step, and the info is kept at the last one only.
  rcases (session.link.heed false).sendCbor [0x04] with ⟨reason | answer, after⟩
  · rfl
  · simp only [Info.ofAnswer_ok, Except.mapError, Except.bind]
    rcases Response.ofAnswer answer with failure | _ | response
    · rfl
    · rfl
    · simp only [expectData, Result.ofOption]
      rcases Info.ofResponse response with failure | info <;> rfl

theorem connect_of_told {after : Link} {answer : Except Link.Failure Bytes} {result : Result Info}
    (asked : link.askInfo = (answer, after)) (told : Info.Told answer result) :
    connect config entropy link = (result.map ({ link := after, info := ·, config, entropy }), after) := by
  rw [connect, getInfo_on]
  simp only [start, asked, Info.told_iff.1 told]
  cases result <;> rfl

end Session

/-! ## The protocol -/

namespace U2f

/-- An authenticator tells its U2F version: it reports success, with a text. -/
def TellsVersion (reply : Except Link.Failure Bytes) : Prop :=
  ∃ body text, reply = .ok body ∧ Bytes.toText? body = some text

theorem getVersion_on (link : Link) : getVersion.on link =
    (Call.version.conclude link.askVersion.1, link.askVersion.2) := by
  have allowed : ¬Call.version.IsRefused := id
  exact Call.perform_on allowed link

theorem tellsVersion_iff {reply : Except Link.Failure Bytes} :
    TellsVersion reply ↔ ∃ text, Call.version.conclude reply = .ok text := by
  constructor
  · rintro ⟨body, text, rfl, isText⟩
    exact ⟨text, Result.ofOption_eq_ok_iff.2 isText⟩
  · rintro ⟨text, concluded⟩
    cases reply with
    | error reason => cases concluded
    | ok body => exact ⟨body, text, rfl, Result.ofOption_eq_ok_iff.1 concluded⟩

end U2f

namespace Authenticator

/-- How an authenticator is begun to be spoken to: the questions it was asked, what comes of them, and the link after
them. -/
inductive Detects (config : Config) (entropy : Entropy) (link : Link) :
    List Question → Result Authenticator → Link → Prop where
  /-- It cannot be selected. -/
  | unselected {reason : Link.Failure} {after : Link} : link.select = (.error reason, after) →
      Detects config entropy link [.select] (.error (.link reason)) after
  /-- It tells its info, which the session keeps. -/
  | ctap2 {selected after : Link} {answer : Except Link.Failure Bytes} {info : Info} :
      link.select = (.ok (), selected) → selected.askInfo = (answer, after) → Info.Told answer (.ok info) →
      Detects config entropy link [.select, .info] (.ok (.ctap2 { link := after, info, config, entropy })) after
  /-- It does not tell its info but its U2F version. -/
  | u2f {selected between after : Link} {answer reply : Except Link.Failure Bytes} {failure : Failure} :
      link.select = (.ok (), selected) → selected.askInfo = (answer, between) → Info.Told answer (.error failure) →
      between.askVersion = (reply, after) → U2f.TellsVersion reply →
      Detects config entropy link [.select, .info, .version] (.ok (.u2f after)) after
  /-- It tells neither. -/
  | neither {selected between after : Link} {answer reply : Except Link.Failure Bytes} {failure : Failure} :
      link.select = (.ok (), selected) → selected.askInfo = (answer, between) → Info.Told answer (.error failure) →
      between.askVersion = (reply, after) → ¬U2f.TellsVersion reply →
      Detects config entropy link [.select, .info, .version] (.error failure) after

variable {config : Config} {entropy : Entropy} {link between after : Link} {answer reply : Except Link.Failure Bytes}
  {failure : Failure} {info : Info} {questions : List Question} {result : Result Authenticator}

theorem establish_of_selected {selected : Link} (selects : link.select = (.ok (), selected)) :
    establish .newest config entropy link = detect config entropy selected := by
  simp only [establish, selects, connect]

theorem detect_of_info (asked : link.askInfo = (answer, after)) (told : Info.Told answer (.ok info)) :
    detect config entropy link = (.ok (.ctap2 { link := after, info, config, entropy }), after) := by
  simp only [detect, Session.connect_of_told asked told, Except.map]

theorem detect_of_version (asked : link.askInfo = (answer, between)) (told : Info.Told answer (.error failure))
    (askedVersion : between.askVersion = (reply, after)) (tells : U2f.TellsVersion reply) :
    detect config entropy link = (.ok (.u2f after), after) := by
  obtain ⟨text, concluded⟩ := U2f.tellsVersion_iff.1 tells
  simp only [detect, Session.connect_of_told asked told, Except.map, U2f.getVersion_on, askedVersion, concluded]

theorem detect_of_neither (asked : link.askInfo = (answer, between)) (told : Info.Told answer (.error failure))
    (askedVersion : between.askVersion = (reply, after)) (silent : ¬U2f.TellsVersion reply) :
    detect config entropy link = (.error failure, after) := by
  simp only [detect, Session.connect_of_told asked told, Except.map, U2f.getVersion_on, askedVersion]
  cases concluded : U2f.Call.version.conclude reply with
  | error refused => rfl
  | ok text => exact absurd (U2f.tellsVersion_iff.2 ⟨text, concluded⟩) silent

theorem Detects.establish_eq (h : Detects config entropy link questions result after) :
    establish .newest config entropy link = (result, after) := by
  cases h with
  | unselected selects => simp only [establish, selects]
  | ctap2 selects asked told => rw [establish_of_selected selects, detect_of_info asked told]
  | u2f selects asked told askedVersion tells =>
    rw [establish_of_selected selects, detect_of_version asked told askedVersion tells]
  | neither selects asked told askedVersion silent =>
    rw [establish_of_selected selects, detect_of_neither asked told askedVersion silent]

theorem exists_detects (config : Config) (entropy : Entropy) (link : Link) :
    ∃ questions result after, Detects config entropy link questions result after := by
  -- What comes of one question decides whether the next one is asked.
  rcases selects : link.select with ⟨reason | done, selected⟩
  · exact ⟨_, _, _, .unselected selects⟩
  · rcases asked : selected.askInfo with ⟨answer, between⟩
    obtain ⟨outcome, told⟩ : ∃ outcome, Info.Told answer outcome := ⟨_, Info.told_ofAnswer answer⟩
    cases outcome with
    | ok info => exact ⟨_, _, _, .ctap2 selects asked told⟩
    | error failure =>
      rcases askedVersion : between.askVersion with ⟨reply, after⟩
      by_cases tells : U2f.TellsVersion reply
      · exact ⟨_, _, _, .u2f selects asked told askedVersion tells⟩
      · exact ⟨_, _, _, .neither selects asked told askedVersion tells⟩

theorem Detects.asked (h : Detects config entropy link questions result after) : link.Asked questions after := by
  have select {outcome : Except Link.Failure Unit} {selected : Link} (selects : link.select = (outcome, selected)) :
      Link.Asks .select link selected := by
    have asks := link.asks_select
    rwa [selects] at asks
  have info {selected between : Link} {answer : Except Link.Failure Bytes}
      (asked : selected.askInfo = (answer, between)) : Link.Asks .info selected between := by
    have asks := selected.asks_info
    rwa [asked] at asks
  have version {between : Link} {reply : Except Link.Failure Bytes}
      (asked : between.askVersion = (reply, after)) : Link.Asks .version between after := by
    have asks := between.asks_version
    rwa [asked] at asks
  cases h with
  | unselected selects => exact .ask (select selects) (.nothing _)
  | ctap2 selects asked => exact .ask (select selects) (.ask (info asked) (.nothing _))
  | u2f selects asked _ askedVersion | neither selects asked _ askedVersion =>
    exact .ask (select selects) (.ask (info asked) (.ask (version askedVersion) (.nothing _)))

theorem Detects.questions_prefix (h : Detects config entropy link questions result after) :
    questions <+: [.select, .info, .version] := by
  cases h <;> simp

/-- An authenticator is spoken to with CTAP2 exactly when it tells its info, and with U2F exactly when it does not but
tells its version next; otherwise the failure is that of the info, or of the selection before it. It is asked at most
once for each of them, in this order, and nothing else is sent. -/
theorem detection_follows_info (config : Config) (entropy : Entropy) (link : Link) :
    (∀ result after, establish .newest config entropy link = (result, after) ↔
      ∃ questions, Detects config entropy link questions result after) ∧
    ∀ questions result after, Detects config entropy link questions result after →
      link.Asked questions after ∧ questions <+: [.select, .info, .version] := by
  refine ⟨fun result after => ⟨fun established => ?_, fun ⟨_, detects⟩ => detects.establish_eq⟩,
    fun questions result after detects => ⟨detects.asked, detects.questions_prefix⟩⟩
  obtain ⟨questions, result', after', detects⟩ := exists_detects config entropy link
  obtain ⟨rfl, rfl⟩ := Prod.mk.inj (detects.establish_eq.symm.trans established)
  exact ⟨questions, detects⟩

/-- A security key that refuses the request for the info and speaks U2F. -/
def oldKey : Link :=
  .hid ⟨[.message (.ofCommand .error [0x01]),
    .message (.ofCommand .msg [0x55, 0x32, 0x46, 0x5F, 0x56, 0x32, 0x90, 0x00])], [], none⟩ none

/-- A smartcard whose answer to the request for the info comes in two pieces. -/
def newCard : Link :=
  .card ⟨[.message [0x55, 0x32, 0x46, 0x5F, 0x56, 0x32, 0x90, 0x00],
    .message [0x00, 0xA1, 0x01, 0x81, 0x68, 0x61, 0x08],
    .message [0x46, 0x49, 0x44, 0x4F, 0x5F, 0x32, 0x5F, 0x30, 0x90, 0x00]], [], none⟩ true

theorem told_newCard : Info.Told (.ok [0x00, 0xA1, 0x01, 0x81, 0x68, 0x46, 0x49, 0x44, 0x4F, 0x5F, 0x32, 0x5F, 0x30])
    (.ok { versions := ["FIDO_2_0"] }) := by
  have readable : Readable (maxDepth - 1) (.array [.text "FIDO_2_0"]) :=
    .array (by decide) (List.forall_mem_singleton.2 (.text _ (by decide)))
  have isRead : Response.ofBytes _ = .ok ⟨[(0x01, .array [.text "FIDO_2_0"])]⟩ :=
    Request.ofBytes_write_entriesOf (by decide) (List.forall_mem_singleton.2 readable)
  exact .info (by decide) isRead rfl

theorem detection_of_oldKey_and_newCard :
    (∃ after, establish .newest {} ⟨fun _ => 0, 0⟩ oldKey = (.ok (.u2f after), after) ∧
      oldKey.Asked [.select, .info, .version] after) ∧
    ∃ after session, establish .newest {} ⟨fun _ => 0, 0⟩ newCard = (.ok (.ctap2 session), after) ∧
      session.info.versions = ["FIDO_2_0"] ∧ newCard.Asked [.select, .info] after := by
  constructor
  · have tells : U2f.TellsVersion (.ok [0x55, 0x32, 0x46, 0x5F, 0x56, 0x32]) := ⟨_, "U2F_V2", rfl, rfl⟩
    have detects : Detects {} ⟨fun _ => 0, 0⟩ oldKey [.select, .info, .version] _ _ :=
      .u2f rfl rfl (.lost (.hidError 0x01)) rfl tells
    obtain ⟨established, asked⟩ := detection_follows_info {} ⟨fun _ => 0, 0⟩ oldKey
    exact ⟨_, (established _ _).2 ⟨_, detects⟩, (asked _ _ _ detects).1⟩
  · have detects : Detects {} ⟨fun _ => 0, 0⟩ newCard [.select, .info] _ _ := .ctap2 rfl rfl told_newCard
    obtain ⟨established, asked⟩ := detection_follows_info {} ⟨fun _ => 0, 0⟩ newCard
    exact ⟨_, _, (established _ _).2 ⟨_, detects⟩, rfl, (asked _ _ _ detects).1⟩

end Authenticator

end SecurityKey
