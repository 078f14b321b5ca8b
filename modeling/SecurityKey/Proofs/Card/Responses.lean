import SecurityKey.Proofs.Card.Exchange

/-!
# Any responses

Whatever a card responds, an exchange sends the parts of its command in order and asks for every piece that is
announced, and it stops at the first response that neither accepts a part nor announces a piece. That response decides
the result, whose body is that of the pieces and of nothing else.
-/

namespace SecurityKey.Card

open Link (Arrival Control Port)

/-! ## What arrives -/

/-- The responses that arrive before the link fails. -/
def responses : List (Arrival Bytes) → List Bytes
  | .message response :: rest => response :: responses rest
  | .cancel :: rest => responses rest
  | _ => []

/-- How the link fails after the last response. -/
def breakdown : List (Arrival Bytes) → Link.Failure
  | [] => .closed
  | .sendFailure reason :: _ => .io reason
  | .failure reason :: _ => reason
  | .cancel :: rest => breakdown rest
  | .message _ :: rest => breakdown rest

/-- The data of a response, without its status word. -/
def dataOf (response : Bytes) : Bytes :=
  response.dropLast.dropLast

/-- The number of bytes that a response announces: its last byte. -/
def announcedBy (response : Bytes) : UInt8 :=
  response.getLastD 0

/-- A response that accepts a part of a command. -/
def IsAcceptance (response : Bytes) : Prop :=
  ∃ data, response = data ++ [0x90, 0x00]

/-- A response that announces another piece. -/
def IsPiece (response : Bytes) : Prop :=
  ∃ data available, response = data ++ [0x61, available]

@[simp] theorem dataOf_append (data : Bytes) (high low : UInt8) : dataOf (data ++ [high, low]) = data := by
  simp [dataOf]

@[simp] theorem announcedBy_append (data : Bytes) (high low : UInt8) : announcedBy (data ++ [high, low]) = low := by
  simp [announcedBy]

variable {response body : Bytes} {high low : UInt8} {rest : List Bytes} {arrivals between : List (Arrival Bytes)}

theorem Brings.breakdown_eq (h : Brings response between arrivals) : breakdown between = breakdown arrivals := by
  induction h with
  | now => rfl
  | cancel _ ih => exact ih

theorem exists_brings_of_responses (h : responses arrivals = response :: rest) :
    ∃ between, Brings response between arrivals ∧ responses between = rest := by
  induction arrivals with
  | nil => cases h
  | cons arrival arrivals ih =>
    cases arrival with
    | message content =>
      obtain ⟨rfl, rfl⟩ := List.cons.inj h
      exact ⟨arrivals, .now, rfl⟩
    | cancel =>
      obtain ⟨between, brings, same⟩ := ih h
      exact ⟨between, .cancel brings, same⟩
    | failure reason => cases h
    | sendFailure reason => cases h

/-- One who waits for a response that does not come fails as the link does. -/
theorem receive_of_silence (h : responses arrivals = []) (sent : List Bytes) (control : Option Control) :
    ∃ after, receive sent arrivals control = (.error (breakdown arrivals), after) ∧ after.sent = sent := by
  induction arrivals generalizing control with
  | nil => exact ⟨_, rfl, rfl⟩
  | cons arrival arrivals ih =>
    cases arrival with
    | message content => cases h
    | cancel => exact ih h (control.map Control.cancel)
    | failure reason => exact ⟨_, rfl, rfl⟩
    | sendFailure reason => exact ⟨_, rfl, rfl⟩

theorem transmit_of_silence (h : responses arrivals = []) (apdu : Bytes) (sent : List Bytes)
    (control : Option Control) :
    ∃ after, transmit apdu ⟨arrivals, sent, control⟩ = (.error (breakdown arrivals), after) ∧
      after.sent = sent ++ [apdu] := by
  match arrivals with
  | .sendFailure reason :: rest => exact ⟨_, rfl, rfl⟩
  | [] | .failure reason :: rest | .cancel :: rest => exact receive_of_silence h (sent ++ [apdu]) control

theorem collect_of_silence (h : responses arrivals = []) (before : Bytes) (sent : List Bytes)
    (control : Option Control) :
    ∃ after, collect arrivals before sent control = (.error (breakdown arrivals), after) ∧ after.sent = sent := by
  induction arrivals generalizing control with
  | nil => exact ⟨_, rfl, rfl⟩
  | cons arrival arrivals ih =>
    cases arrival with
    | message content => cases h
    | cancel => exact ih h (control.map Control.cancel)
    | failure reason => exact ⟨_, rfl, rfl⟩
    | sendFailure reason => exact ⟨_, rfl, rfl⟩

/-! ## What a response does -/

/-- A response ends an exchange with the result `result`, when the pieces before it hold `body`; `complete` says that
every part of the command was sent. -/
inductive Decides (complete : Prop) (body : Bytes) : Bytes → Except Link.Failure Bytes → Prop where
  | short {response : Bytes} : response.length < 2 → Decides complete body response (.error .emptyResponse)
  | success (data : Bytes) : complete → Decides complete body (data ++ [0x90, 0x00]) (.ok (body ++ data))
  | status (data : Bytes) (high low : UInt8) : (high, low) ≠ (0x90, 0x00) → (high = 0x61 → ¬complete) →
      Decides complete body (data ++ [high, low]) (.error (.apduStatus (statusWord high low)))

/-- How an exchange ends: the link fails for the reason `reason` before another response comes, or the next response
decides the result, and the ones after it are left for later. -/
inductive Ends (complete : Prop) (body : Bytes) (reason : Link.Failure) :
    List Bytes → Except Link.Failure Bytes × Port Bytes Bytes → Prop where
  | lost (after : Port Bytes Bytes) : Ends complete body reason [] (.error reason, after)
  | decided {response : Bytes} {rest : List Bytes} {result : Except Link.Failure Bytes} {after : Port Bytes Bytes} :
      Decides complete body response result → responses after.arrivals = rest → breakdown after.arrivals = reason →
      Ends complete body reason (response :: rest) (result, after)

/-- The course of an exchange: `chain` and `pieces` are the responses after which it went on, and `later` are the other
ones. -/
structure Course (parts : List Bytes) (port : Port Bytes Bytes) (chain pieces later : List Bytes)
    (outcome : Except Link.Failure Bytes × Port Bytes Bytes) : Prop where
  told : responses port.arrivals = chain ++ (pieces ++ later)
  unfinished : chain.length < parts.length
  accepted : ∀ response ∈ chain, IsAcceptance response
  finished : pieces ≠ [] → chain.length + 1 = parts.length
  announced : ∀ response ∈ pieces, IsPiece response
  sent : outcome.2.sent = port.sent ++
    (parts.take (chain.length + 1) ++ pieces.map fun response => Apdu.getResponse (announcedBy response))
  ended : Ends (chain.length + 1 = parts.length) (pieces.flatMap dataOf) (breakdown port.arrivals) later outcome

theorem short_or_status (response : Bytes) :
    response.length < 2 ∨ ∃ data high low, response = data ++ [high, low] := by
  rcases response.eq_nil_or_concat with rfl | ⟨init, low, rfl⟩
  · exact .inl (by decide)
  · rcases init.eq_nil_or_concat with rfl | ⟨data, high, rfl⟩
    · exact .inl (Nat.lt_succ_self 1)
    · exact .inr ⟨data, high, low, by simp⟩

theorem splitStatus?_of_short (h : response.length < 2) : splitStatus? response = none :=
  if_pos h

theorem statusWord_eq_success : statusWord high low = success ↔ (high, low) = (0x90, 0x00) := by
  have := high.toNat_lt
  have := low.toNat_lt
  rw [← UInt16.toNat_inj, toNat_statusWord, Prod.mk.injEq, ← UInt8.toNat_inj, ← UInt8.toNat_inj]
  show 256 * high.toNat + low.toNat = 0x9000 ↔ high.toNat = 0x90 ∧ low.toNat = 0
  omega

/-- A response to the last part of a command, or to a request for a piece of the response, decides or announces a
piece, which is asked for. -/
theorem collect_message (response : Bytes) (rest : List (Arrival Bytes)) (before : Bytes) (sent : List Bytes)
    (control : Option Control) :
    (∃ result, Decides True before response result ∧
      collect (.message response :: rest) before sent control = (result, ⟨rest, sent, control⟩)) ∨
    IsPiece response ∧ collect (.message response :: rest) before sent control =
      collect rest (before ++ dataOf response) (sent ++ [Apdu.getResponse (announcedBy response)]) control := by
  rcases short_or_status response with short | ⟨data, high, low, rfl⟩
  · exact .inl ⟨_, .short short, by simp only [collect, splitStatus?_of_short short]⟩
  · simp only [collect, splitStatus?_append, statusWord_eq_success, hasMore_statusWord, beq_iff_eq]
    by_cases final : (high, low) = (0x90, 0x00)
    · obtain ⟨rfl, rfl⟩ := Prod.mk.inj final
      exact .inl ⟨_, .success data trivial, by rw [if_pos rfl]⟩
    · by_cases more : high = 0x61
      · subst more
        refine .inr ⟨⟨data, low, rfl⟩, ?_⟩
        rw [if_neg final, if_pos rfl, toUInt8_statusWord, dataOf_append, announcedBy_append]
      · exact .inl ⟨_, .status data high low final fun same => absurd same more, by rw [if_neg final, if_neg more]⟩

/-- A response to a part of a command that is not the last one decides, or accepts the part, after which the next one is
sent. -/
theorem sendChain_message {part : Bytes} {port next : Port Bytes Bytes}
    (transmitted : transmit part port = (.ok response, next)) (parts : List Bytes) :
    (∃ reason, (∀ body, Decides False body response (.error reason)) ∧
      sendChain (part :: parts) port = (.error reason, next)) ∨
    IsAcceptance response ∧ sendChain (part :: parts) port = sendChain parts next := by
  simp only [sendChain, transmitted]
  rcases short_or_status response with short | ⟨data, high, low, rfl⟩
  · exact .inl ⟨_, fun _ => .short short, by rw [splitStatus?_of_short short]⟩
  · simp only [splitStatus?_append, statusWord_eq_success]
    by_cases accepted : (high, low) = (0x90, 0x00)
    · obtain ⟨rfl, rfl⟩ := Prod.mk.inj accepted
      exact .inr ⟨⟨data, rfl⟩, if_pos rfl⟩
    · exact .inl ⟨_, fun _ => .status data high low accepted fun _ => id, by rw [if_neg accepted]⟩

theorem collect_course (arrivals : List (Arrival Bytes)) (before : Bytes) (sent : List Bytes)
    (control : Option Control) :
    ∃ pieces later, responses arrivals = pieces ++ later ∧ (∀ response ∈ pieces, IsPiece response) ∧
      (collect arrivals before sent control).2.sent =
        sent ++ pieces.map (fun response => Apdu.getResponse (announcedBy response)) ∧
      Ends True (before ++ pieces.flatMap dataOf) (breakdown arrivals) later (collect arrivals before sent control) := by
  -- By induction on the responses and not on the arrivals: what else arrives in between changes nothing.
  induction told : responses arrivals generalizing arrivals before sent control with
  | nil =>
    obtain ⟨after, failed, same⟩ := collect_of_silence told before sent control
    rw [failed]
    exact ⟨[], [], rfl, by simp, by simpa using same, .lost after⟩
  | cons response rest ih =>
    obtain ⟨between, brings, remaining⟩ := exists_brings_of_responses told
    obtain ⟨held, collected⟩ := brings.collect before sent control
    rw [collected]
    rcases collect_message response between before sent held with ⟨result, decides, same⟩ | ⟨piece, same⟩
    · rw [same]
      exact ⟨[], response :: rest, rfl, by simp, (List.append_nil sent).symm,
        .decided (by simpa using decides) remaining brings.breakdown_eq⟩
    · obtain ⟨pieces, later, split, announced, asked, ended⟩ := ih between (before ++ dataOf response)
        (sent ++ [Apdu.getResponse (announcedBy response)]) held remaining
      rw [same]
      refine ⟨response :: pieces, later, congrArg (response :: ·) split, ?_, ?_, ?_⟩
      · simpa using ⟨piece, announced⟩
      · simpa using asked
      · rw [← brings.breakdown_eq]
        simpa using ended

theorem sendChain_course (parts : List Bytes) (arrivals : List (Arrival Bytes)) (sent : List Bytes)
    (control : Option Control) :
    (∃ between held chain, sendChain parts ⟨arrivals, sent, control⟩ = (.ok (), ⟨between, sent ++ parts, held⟩) ∧
      responses arrivals = chain ++ responses between ∧ breakdown between = breakdown arrivals ∧
      (∀ response ∈ chain, IsAcceptance response) ∧ chain.length = parts.length) ∨
    ∃ reason after chain later, sendChain parts ⟨arrivals, sent, control⟩ = (.error reason, after) ∧
      responses arrivals = chain ++ later ∧ (∀ response ∈ chain, IsAcceptance response) ∧
      chain.length < parts.length ∧ after.sent = sent ++ parts.take (chain.length + 1) ∧
      Ends False [] (breakdown arrivals) later (.error reason, after) := by
  induction parts generalizing arrivals sent control with
  | nil => exact .inl ⟨arrivals, control, [], by rw [List.append_nil]; rfl, rfl, rfl, by simp, rfl⟩
  | cons part parts ih =>
    match told : responses arrivals with
    | [] =>
      obtain ⟨after, failed, same⟩ := transmit_of_silence told part sent control
      refine .inr ⟨_, after, [], [], by rw [sendChain, failed], rfl, by simp, by simp, by simpa using same, .lost after⟩
    | response :: rest =>
      obtain ⟨between, brings, remaining⟩ := exists_brings_of_responses told
      obtain ⟨held, transmitted⟩ := brings.transmit part sent control
      rcases sendChain_message transmitted parts with ⟨reason, decides, same⟩ | ⟨accepted, same⟩
      · exact .inr ⟨reason, _, [], response :: rest, same, rfl, by simp, by simp, rfl,
          .decided (decides []) remaining brings.breakdown_eq⟩
      · rw [same, ← brings.breakdown_eq, ← remaining]
        rcases ih between (sent ++ [part]) held with
          ⟨last, control, chain, sends, split, broken, all, count⟩ |
          ⟨reason, after, chain, later, fails, split, all, count, taken, ended⟩
        · refine .inl ⟨last, control, response :: chain, by simpa using sends, by rw [split]; rfl, broken, ?_, ?_⟩
          · simpa using ⟨accepted, all⟩
          · simpa using count
        · refine .inr ⟨reason, after, response :: chain, later, fails, by rw [split]; rfl, ?_, ?_, ?_, ended⟩
          · simpa using ⟨accepted, all⟩
          · simpa using count
          · simpa using taken

/-! ## Whole exchanges -/

variable {apdu : Apdu} {extendedLength : Bool} {port : Port Bytes Bytes}

theorem exchange_of_encode {front : List Bytes} {last : Bytes} (h : apdu.encode extendedLength = front ++ [last])
    (port : Port Bytes Bytes) :
    exchange apdu extendedLength port =
      match sendChain front port with
      | (.error reason, port) => (.error reason, port)
      | (.ok (), port) => collect port.arrivals [] (port.sent ++ [last]) port.control := by
  unfold exchange
  rcases sent : sendChain front port with ⟨reason | done, after⟩ <;>
    simp only [h, List.dropLast_concat, List.getLast?_concat, sent]

theorem exchange_course (apdu : Apdu) (extendedLength : Bool) (port : Port Bytes Bytes) :
    ∃ chain pieces later,
      Course (apdu.encode extendedLength) port chain pieces later (exchange apdu extendedLength port) := by
  obtain ⟨arrivals, sent, control⟩ := port
  obtain ⟨front, last, parts⟩ : ∃ front last, apdu.encode extendedLength = front ++ [last] :=
    ⟨_, _, (List.dropLast_concat_getLast (Apdu.encode_ne_nil apdu extendedLength)).symm⟩
  rw [exchange_of_encode parts, parts]
  rcases sendChain_course front arrivals sent control with
    ⟨between, held, chain, sends, split, broken, accepted, count⟩ |
    ⟨reason, after, chain, later, fails, split, accepted, short, taken, ended⟩
  · -- The last part goes out with its own response to come, so a piece and a decision are both in `collect`.
    obtain ⟨pieces, later, rest, announced, asked, ended⟩ := collect_course between [] (sent ++ front ++ [last]) held
    have complete : chain.length + 1 = (front ++ [last]).length := by simp [count]
    rw [sends]
    refine ⟨chain, pieces, later, ?_⟩
    exact {
      told := by rw [split, rest]
      unfinished := by omega
      accepted
      finished := fun _ => complete
      announced
      sent := by rw [asked, complete, List.take_length, List.append_assoc, List.append_assoc, List.append_assoc]
      ended := by rw [eq_true complete, ← broken]; exact ended }
  · have incomplete : ¬chain.length + 1 = (front ++ [last]).length := by simp; omega
    rw [fails]
    refine ⟨chain, [], later, ?_⟩
    exact {
      told := split
      unfinished := by simp; omega
      accepted
      finished := fun some => absurd rfl some
      announced := by simp
      sent := by rw [taken, List.take_append_of_le_length (by omega)]; simp
      ended := by rw [eq_false incomplete]; exact ended }

/-- The responses that complete an exchange of a command in `count` parts: all parts but the last are accepted, and the
response to the last one comes in pieces, of which the final one reports success. -/
def Completes (count : Nat) (body : Bytes) (told : List Bytes) : Prop :=
  ∃ chain pieces data later, told = chain ++ (pieces ++ (data ++ [0x90, 0x00]) :: later) ∧
    chain.length + 1 = count ∧ (∀ response ∈ chain, IsAcceptance response) ∧
    (∀ response ∈ pieces, IsPiece response) ∧ body = pieces.flatMap dataOf ++ data

theorem exists_accepts {chain : List Bytes} (h : responses arrivals = chain ++ rest)
    (accepted : ∀ response ∈ chain, IsAcceptance response) :
    ∃ between, Accepts between chain.length arrivals ∧ responses between = rest := by
  induction chain generalizing arrivals with
  | nil => exact ⟨arrivals, .all, h⟩
  | cons response chain ih =>
    obtain ⟨between, brings, remaining⟩ := exists_brings_of_responses h
    obtain ⟨⟨data, rfl⟩, others⟩ := List.forall_mem_cons.1 accepted
    obtain ⟨last, accepts, same⟩ := ih remaining others
    exact ⟨last, .part data brings accepts, same⟩

theorem delivers_of_responses {pieces later : List Bytes} {data : Bytes}
    (h : responses arrivals = pieces ++ (data ++ [high, low]) :: later)
    (announced : ∀ response ∈ pieces, IsPiece response) :
    Delivers high low (pieces.flatMap dataOf ++ data) (pieces.map announcedBy) arrivals := by
  induction pieces generalizing arrivals with
  | nil =>
    obtain ⟨between, brings, -⟩ := exists_brings_of_responses h
    exact .last brings
  | cons response pieces ih =>
    obtain ⟨between, brings, remaining⟩ := exists_brings_of_responses h
    obtain ⟨⟨piece, available, rfl⟩, others⟩ := List.forall_mem_cons.1 announced
    simpa using Delivers.more brings (ih remaining others)

theorem exchange_ok_iff : (exchange apdu extendedLength port).1 = .ok body ↔
    Completes (apdu.encode extendedLength).length body (responses port.arrivals) := by
  constructor
  · intro succeeded
    obtain ⟨chain, pieces, later, course⟩ := exchange_course apdu extendedLength port
    generalize exchange apdu extendedLength port = outcome at course succeeded
    cases course.ended with
    | lost after => cases succeeded
    | decided decides rest broken =>
      cases succeeded
      cases decides with
      | success data complete =>
        exact ⟨chain, pieces, data, _, course.told, complete, course.accepted, course.announced, rfl⟩
  · rintro ⟨chain, pieces, data, later, told, complete, accepted, announced, rfl⟩
    obtain ⟨between, accepts, remaining⟩ := exists_accepts told accepted
    rw [Nat.eq_sub_of_add_eq complete] at accepts
    obtain ⟨after, same, -⟩ := exchange_of_delivers (by decide) accepts (delivers_of_responses remaining announced)
    rw [same]
    rfl

/-- Whatever arrives, an exchange sends the parts of its command up to the first one that is not accepted and one
request for each piece that is announced. Its result is that of the first response that decides, or the failure of the
link, and it is a body exactly when the responses complete the exchange: the body of all pieces together. -/
theorem exchange_loses_and_invents_nothing (apdu : Apdu) (extendedLength : Bool) (port : Port Bytes Bytes) :
    (∃ chain pieces later,
      Course (apdu.encode extendedLength) port chain pieces later (exchange apdu extendedLength port)) ∧
    ∀ body, (exchange apdu extendedLength port).1 = .ok body ↔
      Completes (apdu.encode extendedLength).length body (responses port.arrivals) :=
  ⟨exchange_course apdu extendedLength port, fun _ => exchange_ok_iff⟩

end SecurityKey.Card
