import SecurityKey.Proofs.Hid.Exchange

/-!
# Cancelling an exchange

Cancelling an operation asks the authenticator to give up, once, and changes nothing else: the answer that is waited for
is the one that comes without a caller.
-/

namespace SecurityKey.Hid

open Link (Arrival Control Port)

/-- The port of a platform without a caller, on which the same messages arrive. -/
def withoutCaller (port : Port Frame Frame) : Port Frame Frame :=
  { port with arrivals := port.arrivals.filter fun arrival => !isCancel arrival, control := none }

theorem outcome_ending_filter (command : Command) (arrivals : List (Arrival Frame)) :
    outcome command (ending (arrivals.filter fun arrival => !isCancel arrival)) =
      outcome command (ending arrivals) := by
  induction arrivals with
  | nil => rfl
  | cons arrival rest ih =>
      cases arrival with
      | cancel => simpa [isCancel, keepsWaiting] using ih
      | failure reason => simp [isCancel, keepsWaiting, outcome]
      | sendFailure reason => simp [isCancel, keepsWaiting, outcome]
      | message frame =>
          by_cases alive : frame.isKeepalive
          · simpa [isCancel, keepsWaiting, alive] using ih
          · simp [isCancel, keepsWaiting, alive, outcome]

/-- An exchange ends with the first arrival that is neither a keepalive nor the caller's cancellation, and that arrival
decides the result as it does without a caller. At most one cancel frame is sent, and only when the caller cancelled
before that arrival; the statuses noted are those of the keepalives before it. -/
theorem exchange_decided_by_first_answer {command : Command} (answered : command = .cbor ∨ command = .msg)
    (request : Bytes) (port : Port Frame Frame) (sends : ∀ reason, .sendFailure reason ∉ port.arrivals) :
    let result := (exchange command request port).1
    let after := (exchange command request port).2
    result = (exchange command request (withoutCaller port)).1 ∧
      result = outcome command (ending port.arrivals) ∧
      after.sent = port.sent ++ (if givesUp port then [Frame.ofCommand command request, Frame.ofCommand .cancel []]
        else [Frame.ofCommand command request]) ∧
      after.control.map (·.keepalives) = port.control.map (fun control =>
        control.keepalives ++ if control.heeded then (waited port.arrivals).filterMap status? else []) ∧
      after.control.map (·.cancelled) = port.control.map (fun control =>
        control.cancelled || (waited port.arrivals).any isCancel) ∧
      after.arrivals = (ending port.arrivals).tail := by
  have ready : ∀ reason rest, port.arrivals ≠ .sendFailure reason :: rest := by
    intro reason rest eq
    exact sends reason (by simp [eq])
  have ready' : ∀ reason rest, (withoutCaller port).arrivals ≠ .sendFailure reason :: rest := by
    intro reason rest eq
    have mem : Arrival.sendFailure reason ∈ (withoutCaller port).arrivals := by simp [eq]
    exact sends reason (List.mem_filter.1 mem).1
  simp only [exchange_eq answered request ready, exchange_eq answered request ready']
  refine ⟨(outcome_ending_filter command port.arrivals).symm, trivial, ?_, ?_, ?_, rfl⟩
  · simp only [afterWait, Frame.cancel]
    split <;> rfl
  · simp [afterWait, Waiting.held, Function.comp_def]
  · simp [afterWait, Waiting.held, Function.comp_def]

/-- An authenticator that asks for a touch, and is told to give up while it waits for one. -/
def cancelledTouch : Port Frame Frame where
  arrivals := [
    .message (Frame.ofCommand .keepalive [0x01]), .message (Frame.ofCommand .keepalive []), .cancel,
    .message (Frame.ofCommand .keepalive [0x02]), .message (Frame.ofCommand .cbor [0x2D]), .failure .closed]
  sent := []
  control := some {}

theorem exchange_cancelledTouch :
    (exchange .cbor [0x0B] cancelledTouch).1 = (exchange .cbor [0x0B] (withoutCaller cancelledTouch)).1 ∧
      (exchange .cbor [0x0B] cancelledTouch).1 = .ok [0x2D] ∧
      (exchange .cbor [0x0B] cancelledTouch).2.sent = [Frame.ofCommand .cbor [0x0B], Frame.ofCommand .cancel []] ∧
      (exchange .cbor [0x0B] cancelledTouch).2.control.map (·.keepalives) = some [.processing, .userPresence] := by
  obtain ⟨same, result, sent, noted, -⟩ :=
    exchange_decided_by_first_answer (.inl rfl) [0x0B] cancelledTouch (by simp [cancelledTouch])
  exact ⟨same, result, sent, noted⟩

end SecurityKey.Hid
