import SecurityKey.Proofs.Card.Layout
import SecurityKey.Proofs.Hid.Exchange
import SecurityKey.Proofs.U2f.Client

/-!
# What goes over the wire

Commands go over the wire in APDUs, one after another to a smartcard, and one in a frame over CTAPHID. Either way the
command can be read back from them.
-/

namespace SecurityKey

open Card (Apdu Layout)

open Link (Port)

namespace U2f.Call

/-- The hashes that a command starts with. -/
def hashes : Call → List Bytes
  | version => []
  | register client application => [client, application]
  | authenticate client application _ _ => [client, application]

variable {call : Call}

theorem length_data_le (hashed : ∀ hash ∈ call.hashes, hash.length = 32) (allowed : ¬call.IsRefused) :
    call.apdu.data.length ≤ Apdu.extendedLimit := by
  rw [Apdu.extendedLimit]
  cases call with
  | version => exact Nat.zero_le _
  | register client application =>
    obtain ⟨client_hash, application_hash⟩ : client.length = 32 ∧ application.length = 32 := by
      simpa [hashes] using hashed
    simp [apdu, client_hash, application_hash]
  | authenticate client application keyHandle demand =>
    obtain ⟨client_hash, application_hash⟩ : client.length = 32 ∧ application.length = 32 := by
      simpa [hashes] using hashed
    have short : ¬255 < keyHandle.length := allowed
    simp [apdu, client_hash, application_hash]
    omega

theorem sent_over_hid (allowed : ¬call.IsRefused) (port : Port Hid.Frame Hid.Frame) (version : Option Version) :
    ∃ after, (call.perform.on (.hid port version)).2 = .hid after version ∧
      after.sent = port.sent ++ [.ofCommand .msg (Apdu.encodeExtended call.apdu.header call.apdu.data)] := by
  refine ⟨_, by rw [perform_on allowed]; rfl, ?_⟩
  refine Hid.sent_exchange_of_unheeded (.inr rfl) _ fun control mem => ?_
  obtain ⟨held, -, rfl⟩ := Option.map_eq_some_iff.1 mem
  rfl

end U2f.Call

/-- APDUs by ISO 7816-4 are read as they are laid out. So the wire forms of a command, which have such layouts with the
whole length of a body before it, give its body back in parts, all of them full but the last one, under its header; and
so does the one frame in which a U2F command goes out. -/
theorem commands_are_read_back :
    (∀ (wire body : Bytes) (header : Card.Header), Apdu.read? wire = some ⟨header, body⟩ ↔ Layout header body wire) ∧
    (∀ (apdu : Apdu) (extendedLength : Bool),
      (∃ before last, apdu.ReadBack extendedLength before last) ∧
      ∀ wire ∈ apdu.encode extendedLength, ∃ part, Apdu.read? wire = some part ∧ Layout part.header part.data wire) ∧
    ∀ (call : U2f.Call) (port : Port Hid.Frame Hid.Frame) (version : Option Version),
      (∀ hash ∈ call.hashes, hash.length = 32) →
      ∃ after, (call.perform.on (.hid port version)).2 = .hid after version ∧
        (call.IsRefused → after.sent = port.sent) ∧
        (¬call.IsRefused → ∃ wire, after.sent = port.sent ++ [.ofCommand .msg wire] ∧
          Apdu.read? wire = some call.apdu ∧ Layout call.apdu.header call.apdu.data wire) := by
  refine ⟨fun wire body header => Apdu.read?_eq_some_iff, fun apdu extendedLength => ?_,
    fun call port version hashed => ?_⟩
  · obtain ⟨before, last, readBack⟩ := apdu.exists_readBack extendedLength
    exact ⟨⟨before, last, readBack⟩, fun wire mem => readBack.layout mem⟩
  · by_cases refused : call.IsRefused
    · obtain ⟨_, fails⟩ := U2f.Call.perform_of_refused refused
      exact ⟨port, by rw [fails], fun _ => rfl, fun allowed => absurd refused allowed⟩
    · obtain ⟨after, gone, sent⟩ := U2f.Call.sent_over_hid refused port version
      have read := Apdu.read?_encodeExtended_of_le call.apdu.header (U2f.Call.length_data_le hashed refused)
      exact ⟨after, gone, fun not_sent => absurd not_sent refused,
        fun _ => ⟨_, sent, read, Apdu.read?_eq_some_iff.1 read⟩⟩

/-- The longest key handle. -/
def longestHandle : Bytes := List.replicate 255 0x4B

theorem length_longestHandle : longestHandle.length = 255 :=
  List.length_replicate

/-- A request for a signature with the longest key handle. -/
def longestRequest : U2f.Call :=
  .authenticate (List.replicate 32 0x11) (List.replicate 32 0x22) longestHandle .presence

theorem longestRequest_is_read_back : (∀ hash ∈ longestRequest.hashes, hash.length = 32) ∧ ¬longestRequest.IsRefused ∧
    longestRequest.apdu.data.length = 320 ∧
    ∃ (after : Port Hid.Frame Hid.Frame) (wire : Bytes),
      (longestRequest.perform.on (.hid ⟨[], [], none⟩ none)).2 = .hid after none ∧
      after.sent = [.ofCommand .msg wire] ∧ Apdu.read? wire = some longestRequest.apdu := by
  have hashed : ∀ hash ∈ longestRequest.hashes, hash.length = 32 := by decide
  have allowed : ¬longestRequest.IsRefused := by simp [longestRequest, U2f.Call.IsRefused, length_longestHandle]
  obtain ⟨-, -, calls⟩ := commands_are_read_back
  obtain ⟨after, gone, -, sends⟩ := calls longestRequest ⟨[], [], none⟩ none hashed
  obtain ⟨wire, sent, read, -⟩ := sends allowed
  exact ⟨hashed, allowed, by simp [longestRequest, U2f.Call.apdu, length_longestHandle], after, wire, gone, sent, read⟩

end SecurityKey
