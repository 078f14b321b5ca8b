import SecurityKey.Card.Exchange
import SecurityKey.Proofs.Card.Apdu

/-!
# Responses in pieces

A card that accepts every part of a command and answers the last one in pieces has told its whole response: the body is
that of all pieces together, however it was cut.
-/

namespace SecurityKey.Card

open Link (Arrival Control Port)

/-! ## Status words -/

/-- The status word with the given bytes. -/
def statusWord (high low : UInt8) : UInt16 :=
  .ofNat (Bytes.toNat [high, low])

theorem toNat_statusWord (high low : UInt8) : (statusWord high low).toNat = 256 * high.toNat + low.toNat := by
  have := high.toNat_lt
  have := low.toNat_lt
  rw [statusWord, UInt16.toNat_ofNat']
  simp only [Bytes.toNat, List.foldl]
  omega

theorem splitStatus?_append (body : Bytes) (high low : UInt8) :
    splitStatus? (body ++ [high, low]) = some (body, statusWord high low) := by
  simp [splitStatus?, statusWord]

theorem hasMore_statusWord (high low : UInt8) : hasMore (statusWord high low) = (high == 0x61) := by
  have := low.toNat_lt
  have shifted : (statusWord high low >>> 8).toNat = high.toNat := by
    rw [UInt16.toNat_shiftRight, toNat_statusWord, Nat.shiftRight_eq_div_pow]
    show (256 * high.toNat + low.toNat) / 2 ^ 8 = high.toNat
    omega
  rw [hasMore, Bool.eq_iff_iff, beq_iff_eq, beq_iff_eq, ← UInt16.toNat_inj, ← UInt8.toNat_inj, shifted]
  rfl

theorem toUInt8_statusWord (high low : UInt8) : (statusWord high low).toUInt8 = low := by
  have := low.toNat_lt
  rw [← UInt8.toNat_inj, UInt16.toNat_toUInt8, toNat_statusWord]
  omega

/-! ## What arrives -/

/-- A response is the next to arrive, before `rest`; the caller may cancel before it does. -/
inductive Brings (response : Bytes) (rest : List (Arrival Bytes)) : List (Arrival Bytes) → Prop where
  | now : Brings response rest (.message response :: rest)
  | cancel {arrivals : List (Arrival Bytes)} :
      Brings response rest arrivals → Brings response rest (.cancel :: arrivals)

/-- The next responses are those to `count` parts of a command, all of which are accepted. -/
inductive Accepts (rest : List (Arrival Bytes)) : (count : Nat) → List (Arrival Bytes) → Prop where
  | all : Accepts rest 0 rest
  | part {count : Nat} {between arrivals : List (Arrival Bytes)} (data : Bytes) :
      Brings (data ++ [0x90, 0x00]) between arrivals → Accepts rest count between → Accepts rest (count + 1) arrivals

/-- A body arrives in pieces, the last of which ends in the given status word. Every other piece announces a number of
further bytes. -/
inductive Delivers (high low : UInt8) : (body : Bytes) → (announced : List UInt8) → List (Arrival Bytes) → Prop where
  | last {piece : Bytes} {rest arrivals : List (Arrival Bytes)} :
      Brings (piece ++ [high, low]) rest arrivals → Delivers high low piece [] arrivals
  | more {piece body : Bytes} {available : UInt8} {announced : List UInt8} {between arrivals : List (Arrival Bytes)} :
      Brings (piece ++ [0x61, available]) between arrivals → Delivers high low body announced between →
      Delivers high low (piece ++ body) (available :: announced) arrivals

variable {response body : Bytes} {high low : UInt8} {announced : List UInt8}
  {arrivals between rest : List (Arrival Bytes)} {sent : List Bytes}

theorem Brings.receive (h : Brings response rest arrivals) (sent : List Bytes) (control : Option Control) :
    ∃ held, Card.receive sent arrivals control = (.ok response, ⟨rest, sent, held⟩) := by
  induction h generalizing control with
  | now => exact ⟨control, rfl⟩
  | cancel _ ih => exact ih (control.map Control.cancel)

theorem Brings.collect (h : Brings response rest arrivals) (body : Bytes) (sent : List Bytes)
    (control : Option Control) :
    ∃ held, Card.collect arrivals body sent control = Card.collect (.message response :: rest) body sent held := by
  induction h generalizing control with
  | now => exact ⟨control, rfl⟩
  | cancel _ ih => exact ih (control.map Control.cancel)

theorem Brings.transmit (h : Brings response rest arrivals) (apdu : Bytes) (sent : List Bytes)
    (control : Option Control) :
    ∃ held, Card.transmit apdu ⟨arrivals, sent, control⟩ = (.ok response, ⟨rest, sent ++ [apdu], held⟩) := by
  have sends : Port.send apdu ⟨arrivals, sent, control⟩ = (.ok (), ⟨arrivals, sent ++ [apdu], control⟩) := by
    cases h <;> rfl
  unfold Card.transmit
  rw [sends]
  exact h.receive (sent ++ [apdu]) control

theorem Accepts.sendChain {parts : List Bytes} (h : Accepts rest parts.length arrivals) (sent : List Bytes)
    (control : Option Control) :
    ∃ held, Card.sendChain parts ⟨arrivals, sent, control⟩ = (.ok (), ⟨rest, sent ++ parts, held⟩) := by
  induction parts generalizing arrivals sent control with
  | nil =>
    cases h
    exact ⟨control, by rw [List.append_nil]; rfl⟩
  | cons part parts ih =>
    cases h with
    | part data brings accepts =>
      obtain ⟨held, transmitted⟩ := brings.transmit part sent control
      obtain ⟨later, chained⟩ := ih accepts (sent ++ [part]) held
      refine ⟨later, ?_⟩
      simp only [Card.sendChain, transmitted, splitStatus?_append]
      rw [if_pos (by decide), chained, List.append_assoc]
      rfl

theorem Delivers.collect (final : high ≠ 0x61) (h : Delivers high low body announced arrivals) (before : Bytes)
    (sent : List Bytes) (control : Option Control) :
    ∃ after, Card.collect arrivals before sent control =
        (if statusWord high low = success then .ok (before ++ body) else .error (.apduStatus (statusWord high low)),
          after) ∧
      after.sent = sent ++ announced.map Apdu.getResponse := by
  induction h generalizing before sent control with
  | last brings =>
    obtain ⟨held, collected⟩ := brings.collect before sent control
    rw [collected]
    simp only [Card.collect, splitStatus?_append]
    have no_more : hasMore (statusWord high low) = false := by simp [hasMore_statusWord, final]
    split
    · exact ⟨_, rfl, (List.append_nil sent).symm⟩
    · rw [no_more]
      exact ⟨_, rfl, (List.append_nil sent).symm⟩
  | @more piece body available announced between arrivals brings _ ih =>
    obtain ⟨held, collected⟩ := brings.collect before sent control
    rw [collected]
    have unfinished : statusWord 0x61 available ≠ success := by
      intro same
      have more := hasMore_statusWord 0x61 available
      rw [same] at more
      exact absurd more (by decide)
    have more : hasMore (statusWord 0x61 available) := by rw [hasMore_statusWord]; rfl
    simp only [Card.collect, splitStatus?_append]
    rw [if_neg unfinished, if_pos more, toUInt8_statusWord]
    obtain ⟨after, same, told⟩ := ih (before ++ piece) (sent ++ [Apdu.getResponse available]) held
    refine ⟨after, ?_, ?_⟩
    · rw [same, List.append_assoc]
    · rw [told, List.append_assoc]
      rfl

/-! ## Whole exchanges -/

/-- A command that is accepted is sent as it is, and the response to it is the body that is delivered. -/
theorem exchange_of_delivers {apdu : Apdu} {extendedLength : Bool} {port : Port Bytes Bytes} (final : high ≠ 0x61)
    (accepted : Accepts between ((apdu.encode extendedLength).length - 1) port.arrivals)
    (delivered : Delivers high low body announced between) :
    ∃ after, exchange apdu extendedLength port =
        (if statusWord high low = success then .ok body else .error (.apduStatus (statusWord high low)), after) ∧
      after.sent = port.sent ++ (apdu.encode extendedLength ++ announced.map Apdu.getResponse) := by
  obtain ⟨arrivals, sent, control⟩ := port
  rw [← List.length_dropLast] at accepted
  obtain ⟨held, chained⟩ := accepted.sendChain sent control
  have nonempty := Apdu.encode_ne_nil apdu extendedLength
  have last := List.getLast?_eq_some_getLast nonempty
  obtain ⟨after, collected, told⟩ := delivered.collect final []
    (sent ++ (apdu.encode extendedLength).dropLast ++ [(apdu.encode extendedLength).getLast nonempty]) held
  refine ⟨after, ?_, ?_⟩
  · unfold exchange
    simp only [chained, last, collected, List.nil_append]
  · rw [told, List.append_assoc sent, List.dropLast_concat_getLast, List.append_assoc]

end SecurityKey.Card
