import SecurityKey.Hid.Exchange

/-!
# Waiting for an answer

What arrives before the answer, keepalives and the caller's cancellation, changes what is sent and noted but not the
answer: that is decided by the first arrival of another kind.
-/

namespace SecurityKey.Hid

open Link (Arrival Control Port)

/-- Whether a frame only says that the authenticator is still at work. -/
def Frame.isKeepalive (frame : Frame) : Bool :=
  match frame.command with
  | .ok .keepalive => true
  | _ => false

/-- What a frame that is not a keepalive decides for a request with the command `command`. -/
def Frame.decision (command : Command) (frame : Frame) : Except Link.Failure Bytes :=
  match frame.command with
  | .error unknown => .error (.unexpectedFrame unknown.byte)
  | .ok .error => .error (.hidError (frame.payload.headD 0x7F))
  | .ok received =>
    if received = command then .ok frame.payload else .error (.unexpectedFrame received.byte)

theorem Frame.verdict?_eq {command : Command} (h : command = .cbor ∨ command = .msg) (frame : Frame) :
    frame.verdict? command = if frame.isKeepalive then none else some (frame.decision command) := by
  obtain ⟨received, payload⟩ := frame
  rcases received with unknown | received
  · rfl
  · rcases h with rfl | rfl <;> cases received <;> rfl

/-! ## Arrivals -/

/-- Whether an arrival is the caller's cancellation. -/
def isCancel : Arrival Frame → Bool
  | .cancel => true
  | _ => false

/-- Whether the platform goes on waiting after an arrival. -/
def keepsWaiting : Arrival Frame → Bool
  | .cancel => true
  | .message frame => frame.isKeepalive
  | _ => false

/-- The status that an arrival brings, when it is a keepalive with a known one. -/
def status? : Arrival Frame → Option Keepalive
  | .message frame => frame.keepalive?
  | _ => none

/-- What arrives while the platform waits for an answer. -/
def waited (arrivals : List (Arrival Frame)) : List (Arrival Frame) :=
  arrivals.takeWhile keepsWaiting

/-- What arrives from the end of the wait on. -/
def ending (arrivals : List (Arrival Frame)) : List (Arrival Frame) :=
  arrivals.dropWhile keepsWaiting

/-- The result of a request with the command `command`, by what arrives at the end of the wait. -/
def outcome (command : Command) : List (Arrival Frame) → Except Link.Failure Bytes
  | .message frame :: _ => frame.decision command
  | .failure reason :: _ => .error reason
  | .sendFailure reason :: _ => .error (.io reason)
  | _ => .error .closed

@[simp] theorem waited_cons (arrival : Arrival Frame) (rest : List (Arrival Frame)) :
    waited (arrival :: rest) = if keepsWaiting arrival then arrival :: waited rest else [] := by
  simp [waited, List.takeWhile_cons]

@[simp] theorem ending_cons (arrival : Arrival Frame) (rest : List (Arrival Frame)) :
    ending (arrival :: rest) = if keepsWaiting arrival then ending rest else arrival :: rest := by
  simp [ending, List.dropWhile_cons]

/-! ## The wait as a fold -/

namespace Waiting

/-- The platform after an arrival that leaves it waiting. -/
def pass (w : Waiting) : Arrival Frame → Waiting
  | .cancel => w.settle.cancel
  | .message frame => w.settle.note frame
  | _ => w

/-- A caller's hold after the given arrivals. -/
def held (arrivals : List (Arrival Frame)) (control : Control) : Control where
  cancelled := control.cancelled || arrivals.any isCancel
  keepalives := control.keepalives ++ if control.heeded then arrivals.filterMap status? else []
  heeded := control.heeded

end Waiting

theorem await_eq {command : Command} (h : command = .cbor ∨ command = .msg) (arrivals : List (Arrival Frame))
    (w : Waiting) :
    await command arrivals w =
      (outcome command (ending arrivals),
        ((waited arrivals).foldl Waiting.pass w).settle.port (ending arrivals).tail) := by
  induction arrivals generalizing w with
  | nil => rfl
  | cons arrival rest ih =>
      cases arrival with
      | cancel => simpa [await, keepsWaiting, Waiting.pass] using ih w.settle.cancel
      | failure reason => simp [await, keepsWaiting, outcome]
      | sendFailure reason => simp [await, keepsWaiting, outcome]
      | message frame =>
          simp only [await, Frame.verdict?_eq h]
          by_cases alive : frame.isKeepalive
          · simpa [alive, keepsWaiting, Waiting.pass] using ih (w.settle.note frame)
          · simp [alive, keepsWaiting, outcome]

namespace Waiting

variable {w : Waiting} {arrivals : List (Arrival Frame)}

theorem settle_control : w.settle.control = w.control := by
  unfold settle
  split <;> rfl

theorem settle_sent : w.settle.sent =
    w.sent ++ if w.control.any Control.stops && !w.cancelSent then [Frame.cancel] else [] := by
  unfold settle
  split <;> simp_all

theorem settle_cancelSent : w.settle.cancelSent = (w.control.any Control.stops || w.cancelSent) := by
  unfold settle
  split <;> simp_all

@[simp] theorem held_nil (control : Control) : held [] control = control := by
  simp [held]

theorem held_cons (arrival : Arrival Frame) (control : Control) :
    held (arrival :: arrivals) control = held arrivals (held [arrival] control) := by
  simp only [held, List.any_cons, List.any_nil, List.filterMap_cons, Bool.or_false, Bool.or_assoc]
  cases control.heeded <;> cases status? arrival <;> simp

theorem held_cancel : held [.cancel] = Control.cancel := by
  funext control
  simp [Control.cancel, held, isCancel, status?]

theorem held_message (frame : Frame) :
    held [.message frame] = match frame.keepalive? with
      | some status => Control.note status
      | none => id := by
  funext ⟨cancelled, keepalives, heeded⟩
  cases h : frame.keepalive? <;> cases heeded <;> simp [held, Control.note, isCancel, status?, h]

theorem pass_eq {arrival : Arrival Frame} (h : keepsWaiting arrival) :
    w.pass arrival = { w.settle with control := w.control.map (held [arrival]) } := by
  cases arrival with
  | cancel => simp [pass, cancel, settle_control, held_cancel]
  | message frame =>
      simp only [pass, note, held_message]
      cases frame.keepalive? <;> simp [← settle_control (w := w)]
  | failure reason => simp [keepsWaiting] at h
  | sendFailure reason => simp [keepsWaiting] at h

theorem control_foldl_pass (h : ∀ arrival ∈ arrivals, keepsWaiting arrival) :
    (arrivals.foldl pass w).control = w.control.map (held arrivals) := by
  induction arrivals generalizing w with
  | nil => cases c : w.control <;> simp [c]
  | cons arrival arrivals ih =>
      rw [List.foldl_cons, ih fun a mem => h a (by simp [mem]), pass_eq (h _ (by simp)), Option.map_map]
      congr 1
      funext control
      exact (held_cons arrival control).symm

/-- A hold that stops the exchange goes on doing so. -/
theorem stops_held (arrivals : List (Arrival Frame)) {control : Control} (h : control.stops) :
    (held arrivals control).stops := by
  simp_all [Control.stops, held]

theorem sent_foldl_pass (h : ∀ arrival ∈ arrivals, keepsWaiting arrival) :
    (arrivals.foldl pass w).settle.sent =
      w.sent ++ if (w.control.map (held arrivals)).any Control.stops && !w.cancelSent then [Frame.cancel] else [] := by
  induction arrivals generalizing w with
  | nil => cases c : w.control <;> simp [settle_sent, c]
  | cons arrival arrivals ih =>
      rw [List.foldl_cons, ih fun a mem => h a (by simp [mem]), pass_eq (h _ (by simp))]
      simp only [settle_sent, settle_cancelSent, Option.map_map, List.append_assoc]
      cases w.control with
      | none => simp
      | some control =>
          have later : held (arrival :: arrivals) control = held arrivals (held [arrival] control) :=
            held_cons arrival control
          -- A hold that stops already has sent its cancel frame when `w` was settled, and sends no second one.
          by_cases stops : control.stops
          · have := stops_held (arrival :: arrivals) stops
            simp [stops, this]
          · simp [stops, later]

end Waiting

/-! ## Exchanges -/

theorem keepsWaiting_of_mem_waited {arrivals : List (Arrival Frame)} {arrival : Arrival Frame}
    (h : arrival ∈ waited arrivals) : keepsWaiting arrival :=
  List.all_eq_true.1 List.all_takeWhile arrival h

/-- Whether the platform asks the authenticator to give up: the caller is heeded, and cancelled before the exchange or
during the wait. -/
def givesUp (port : Port Frame Frame) : Bool :=
  port.control.any fun control => control.heeded && (control.cancelled || (waited port.arrivals).any isCancel)

theorem any_stops_held (port : Port Frame Frame) :
    (port.control.map (Waiting.held (waited port.arrivals))).any Control.stops = givesUp port := by
  unfold givesUp
  cases port.control with
  | none => rfl
  | some control => simp [Control.stops, Waiting.held, Bool.and_comm]

/-- The port of a platform whose wait for the answer to a request has ended. -/
def afterWait (command : Command) (request : Bytes) (port : Port Frame Frame) : Port Frame Frame where
  arrivals := (ending port.arrivals).tail
  sent := port.sent ++ Frame.ofCommand command request :: if givesUp port then [Frame.cancel] else []
  control := port.control.map (Waiting.held (waited port.arrivals))

theorem send_eq (message : Frame) {port : Port Frame Frame}
    (sends : ∀ reason rest, port.arrivals ≠ .sendFailure reason :: rest) :
    port.send message = (.ok (), { port with sent := port.sent ++ [message] }) := by
  simp only [Port.send]

theorem exchange_eq {command : Command} (h : command = .cbor ∨ command = .msg) (request : Bytes)
    {port : Port Frame Frame} (sends : ∀ reason rest, port.arrivals ≠ .sendFailure reason :: rest) :
    exchange command request port = (outcome command (ending port.arrivals), afterWait command request port) := by
  have quiet : ∀ arrival ∈ waited port.arrivals, keepsWaiting arrival := fun _ mem => keepsWaiting_of_mem_waited mem
  simp only [exchange, send_eq _ sends, await_eq h, Waiting.port, Waiting.sent_foldl_pass quiet, Waiting.settle_control,
    Waiting.control_foldl_pass quiet, any_stops_held]
  simp [afterWait]

/-- Without a caller to heed the request is all that is sent. -/
theorem sent_exchange_of_unheeded {command : Command} (h : command = .cbor ∨ command = .msg) (request : Bytes)
    {port : Port Frame Frame} (unheeded : ∀ control ∈ port.control, control.heeded = false) :
    (exchange command request port).2.sent = port.sent ++ [Frame.ofCommand command request] := by
  by_cases fails : ∃ reason rest, port.arrivals = .sendFailure reason :: rest
  · obtain ⟨reason, rest, arrives⟩ := fails
    simp [exchange, Port.send, arrives]
  · have goes_on : givesUp port = false := by
      cases held : port.control with
      | none => simp [givesUp, held]
      | some control => simp [givesUp, held, unheeded control held]
    rw [exchange_eq h request fun reason rest arrives => fails ⟨reason, rest, arrives⟩]
    simp [afterWait, goes_on]

end SecurityKey.Hid
