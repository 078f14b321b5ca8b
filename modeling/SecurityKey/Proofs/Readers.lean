import SecurityKey.Credential.Store
import SecurityKey.Fingerprint.Client
import SecurityKey.Proofs.Response

/-!
# Readers

Whatever an authenticator answers, reading it gives a result or says that the answer is malformed, and nothing else.
-/

namespace SecurityKey

open Cbor (Value)

/-! ## Results -/

namespace Result

variable {α β : Type}

/-- A result of reading bytes of the authenticator. -/
class Reading (result : Result α) : Prop where
  isReading : result.IsReading

instance (a : α) : Reading (pure a) := ⟨isReading_ok a⟩

instance (a : α) : Reading (.ok a) := ⟨isReading_ok a⟩

instance (malformation : Malformation) : Reading (.error (.badResponse malformation) : Result α) :=
  ⟨by rintro _ ⟨⟩; exact ⟨malformation, rfl⟩⟩

instance (malformation : Malformation) : Reading (throw (.badResponse malformation) : Result α) :=
  ⟨by rintro _ ⟨⟩; exact ⟨malformation, rfl⟩⟩

instance (malformation : Malformation) (option : Option α) : Reading (ofOption malformation option) :=
  ⟨isReading_ofOption malformation option⟩

theorem reading_bind {result : Result α} {next : α → Result β} (first : Reading result)
    (second : ∀ a, Reading (next a)) : Reading (result >>= next) :=
  ⟨first.isReading.bind fun a => (second a).isReading⟩

instance {result : Result α} {next : α → Result β} [first : Reading result] [second : ∀ a, Reading (next a)] :
    Reading (result >>= next) :=
  reading_bind first second

instance (f : α → β) (result : Result α) [first : Reading result] : Reading (f <$> result) :=
  reading_bind first fun a => ⟨isReading_ok (f a)⟩

instance {condition : Prop} [Decidable condition] {first second : Result α} [Reading first] [Reading second] :
    Reading (if condition then first else second) := by
  split <;> infer_instance

theorem reading_mapM {f : α → Result β} (each : ∀ a, Reading (f a)) (items : List α) : Reading (items.mapM f) := by
  induction items with
  | nil => exact inferInstanceAs (Reading (pure []))
  | cons item items ih =>
      rw [List.mapM_cons]
      infer_instance

instance (f : α → Result β) [each : ∀ a, Reading (f a)] (items : List α) : Reading (items.mapM f) :=
  reading_mapM each items

instance (f : α → Result β) [∀ a, Reading (f a)] (item : Option α) : Reading (item.mapM f) := by
  cases item with
  | none => exact inferInstanceAs (Reading (pure none))
  | some item => exact inferInstanceAs (Reading (some <$> f item))

end Result

/-! ## What answers hold -/

open Result (Reading)

variable {α : Type} (response : Response)

instance (kind : Kind α) (key : UInt64) : Reading (response.field kind key) := by
  unfold Response.field
  split <;> infer_instance

instance (kind : Kind α) (key : UInt64) : Reading (response.require kind key) := by
  unfold Response.require; infer_instance

instance (name : String) (read : Value → Option α) (key : UInt64) : Reading (response.list name read key) := by
  unfold Response.list; infer_instance

instance (key : UInt64) : Reading (response.texts key) := by
  unfold Response.texts; infer_instance

instance (key : UInt64) : Reading (response.unsigneds key) := by
  unfold Response.unsigneds; infer_instance

instance (request : String) (response : Option Response) : Reading (Session.expectData request response) := by
  unfold Session.expectData; infer_instance

instance (decode : Value → Option α) (value : Value) : Reading (Entity.read decode value) := by
  unfold Entity.read; infer_instance

instance (field : String) (read : Value → Option α) (entries : List (Value × Value)) :
    Reading (Info.dictionary field read entries) := by
  unfold Info.dictionary
  refine Result.reading_bind (Result.reading_mapM (fun (key, value) => ?_) _) fun pairs => inferInstance
  dsimp only
  split <;> infer_instance

instance (field : String) (read : Value → Option α) (key : UInt64) :
    Reading (Info.dictionaryField response field read key) := by
  unfold Info.dictionaryField
  refine Result.reading_bind inferInstance fun found => ?_
  cases found <;> infer_instance

instance (key : UInt64) : Reading (Info.aaguidField response key) := by
  unfold Info.aaguidField
  refine Result.reading_bind inferInstance fun found => ?_
  cases found <;> infer_instance

instance : Reading (Info.ofResponse response) := by
  unfold Info.ofResponse; infer_instance

instance : Reading (Attestation.ofResponse response) := by
  unfold Attestation.ofResponse; infer_instance

instance : Reading (Assertion.ofResponse response) := by
  unfold Assertion.ofResponse; infer_instance

instance : Reading (Fingerprint.sampleOf response) := by
  unfold Fingerprint.sampleOf; infer_instance

instance (description : Value) : Reading (Fingerprint.templateOf description) := by
  unfold Fingerprint.templateOf; infer_instance

instance (response : Option Response) : Reading (Fingerprint.templatesOf response) := by
  unfold Fingerprint.templatesOf
  cases response <;> infer_instance

instance (subCommand : UInt8) (response : Option Response) : Reading (CredentialStore.expect subCommand response) := by
  unfold CredentialStore.expect; infer_instance

instance : Reading (CredentialStore.RelyingParty.ofResponse response) := by
  unfold CredentialStore.RelyingParty.ofResponse; infer_instance

instance : Reading (CredentialStore.StoredCredential.ofResponse response) := by
  unfold CredentialStore.StoredCredential.ofResponse; infer_instance

end SecurityKey
