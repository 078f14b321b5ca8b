import Mathlib.Tactic.SplitIfs
import SecurityKey.Proofs.Cbor.Value
import SecurityKey.Session.Basic

/-!
# What an answer says

An answer is read without any failure of its own: it holds a status, or data, or data that is malformed.
-/

namespace SecurityKey

open Cbor (Value)

/-- A result of reading bytes of the authenticator, which fails only when these are malformed. -/
def Result.IsReading {α : Type} (result : Result α) : Prop :=
  ∀ failure, result = .error failure → ∃ malformation, failure = .badResponse malformation

namespace Result

variable {α β : Type}

theorem isReading_ok (a : α) : IsReading (.ok a) := by
  rintro failure ⟨⟩

theorem isReading_ofOption (malformation : Malformation) (option : Option α) :
    (ofOption malformation option).IsReading := by
  cases option with
  | none => rintro failure ⟨⟩; exact ⟨malformation, rfl⟩
  | some a => exact isReading_ok a

theorem bind_eq_ok_iff {result : Result α} {next : α → Result β} {b : β} :
    (result >>= next) = .ok b ↔ ∃ a, result = .ok a ∧ next a = .ok b := by
  cases result with
  | error failure => simp [bind, Except.bind]
  | ok a => simp [bind, Except.bind]

theorem toOption_eq_some_iff {result : Result α} {a : α} : result.toOption = some a ↔ result = .ok a := by
  cases result <;> simp [Except.toOption]

theorem ofOption_eq_ok_iff {malformation : Malformation} {option : Option α} {a : α} :
    ofOption malformation option = .ok a ↔ option = some a := by
  cases option <;> simp [ofOption]

theorem ofOption_bind_eq_ok_iff {malformation : Malformation} {option : Option α} {next : α → Result β} {b : β} :
    (ofOption malformation option >>= next) = .ok b ↔ ∃ a, option = some a ∧ next a = .ok b := by
  rw [bind_eq_ok_iff]
  cases option with
  | none => simp [ofOption]
  | some a => simp [ofOption]

section Reading

variable {f : α → Result β} {items : List α} {content : List β}

theorem mapM_eq_ok_iff : items.mapM f = .ok content ↔ items.map f = content.map .ok := by
  induction items generalizing content with
  | nil => cases content <;> simp [pure, Except.pure]
  | cons item items ih =>
      simp only [List.mapM_cons, bind_eq_ok_iff, ih, pure, Except.pure, Except.ok.injEq]
      cases content <;> simp

theorem mapM_ofOption_eq_ok_iff {malformation : α → Malformation} {read : α → Option β} :
    (items.mapM fun item => ofOption (malformation item) (read item)) = .ok content ↔
      items.map read = content.map some := by
  rw [mapM_eq_ok_iff]
  induction items generalizing content with
  | nil => cases content <;> simp
  | cons item items ih => cases content <;> simp [ofOption_eq_ok_iff, ih]

/-- Reading one item after another fails as the first item does that cannot be read. -/
theorem mapM_eq_error_iff {failure : Failure} : items.mapM f = .error failure ↔
    ∃ before item after, items = before ++ item :: after ∧ (∀ a ∈ before, ∃ b, f a = .ok b) ∧
      f item = .error failure := by
  induction items with
  | nil => simp [pure, Except.pure]
  | cons item items ih =>
      cases first : f item with
      | error reason =>
          rw [List.mapM_cons, first]
          constructor
          · rintro ⟨⟩
            exact ⟨[], item, items, rfl, by simp, first⟩
          · rintro ⟨_ | ⟨other, before⟩, other', after, split, read, failed⟩
            · cases split
              cases first.symm.trans failed
              rfl
            · cases split
              obtain ⟨b, read⟩ := read _ List.mem_cons_self
              cases first.symm.trans read
      | ok b =>
          have later : (item :: items).mapM f = .error failure ↔ items.mapM f = .error failure := by
            rw [List.mapM_cons, first]
            cases items.mapM f <;> simp [bind, Except.bind, pure, Except.pure]
          rw [later, ih]
          constructor
          · rintro ⟨before, other, after, rfl, read, failed⟩
            exact ⟨item :: before, other, after, rfl, List.forall_mem_cons.2 ⟨⟨b, first⟩, read⟩, failed⟩
          · rintro ⟨_ | ⟨other, before⟩, other', after, split, read, failed⟩
            · cases split
              cases first.symm.trans failed
            · cases split
              exact ⟨before, other', after, rfl, (List.forall_mem_cons.1 read).2, failed⟩

end Reading

theorem IsReading.bind {result : Result α} {next : α → Result β} (first : result.IsReading)
    (second : ∀ a, (next a).IsReading) : IsReading (result >>= next) := by
  cases result with
  | error failure => rintro _ ⟨⟩; exact first failure rfl
  | ok a => exact second a

end Result

namespace Response

theorem isReading_ofEntries (entries : List (Value × Value)) : (ofEntries entries).IsReading := by
  refine .bind ?_ fun keyed => Result.isReading_ok _
  induction entries with
  | nil => exact Result.isReading_ok _
  | cons entry entries ih =>
    rw [List.mapM_cons]
    refine .bind (.bind (Result.isReading_ofOption _ _) fun key => Result.isReading_ok _) fun keyed => ?_
    exact .bind ih fun keyed => Result.isReading_ok _

theorem isReading_ofBytes (data : Bytes) : (ofBytes data).IsReading := by
  refine .bind (Result.isReading_ofOption _ _) fun value => ?_
  cases value with
  | map entries => exact isReading_ofEntries entries
  | _ => rintro _ ⟨⟩; exact ⟨_, rfl⟩

/-! ## Fields -/

section Fields

variable {α β : Type} {response : Response} {key : UInt64} {value : Value} {kind : Kind α}

theorem field_of_none (absent : response.get? key = none) : response.field kind key = .ok none := by
  rw [Response.field, absent]

theorem field_bind_of_none (absent : response.get? key = none) (next : Option α → Result β) :
    (response.field kind key >>= next) = next none := by
  rw [field_of_none absent]
  rfl

theorem field_eq_ok_iff (present : response.get? key = some value) {option : Option α} :
    response.field kind key = .ok option ↔ ∃ a, kind.read value = some a ∧ option = some a := by
  rw [Response.field, present]
  simp only
  rw [map_eq_pure_bind, Result.ofOption_bind_eq_ok_iff]
  simp [pure, Except.pure, eq_comm]

theorem field_bind_eq_ok_iff (present : response.get? key = some value) {next : Option α → Result β} {b : β} :
    (response.field kind key >>= next) = .ok b ↔ ∃ a, kind.read value = some a ∧ next (some a) = .ok b := by
  simp only [Result.bind_eq_ok_iff, field_eq_ok_iff present]
  constructor
  · rintro ⟨_, ⟨a, isRead, rfl⟩, continued⟩
    exact ⟨a, isRead, continued⟩
  · rintro ⟨a, isRead, continued⟩
    exact ⟨some a, ⟨a, isRead, rfl⟩, continued⟩

theorem require_eq_ok_iff {a : α} :
    response.require kind key = .ok a ↔ ∃ value, response.get? key = some value ∧ kind.read value = some a := by
  cases found : response.get? key with
  | none => simp [Response.require, field_bind_of_none found, Result.ofOption_eq_ok_iff]
  | some value => simp [Response.require, field_bind_eq_ok_iff found, Result.ofOption_eq_ok_iff]

theorem require_unsigned_eq_ok_iff {n : UInt64} :
    response.require .unsigned key = .ok n ↔ response.get? key = some (.unsigned n) := by
  simp [require_eq_ok_iff, Kind.unsigned, Value.unsigned?_eq_some_iff]

theorem require_bytes_eq_ok_iff {content : Bytes} :
    response.require .bytes key = .ok content ↔ response.get? key = some (.bytes content) := by
  simp [require_eq_ok_iff, Kind.bytes, Value.bytes?_eq_some_iff]

theorem list_of_none {name : String} {read : Value → Option α} (absent : response.get? key = none) :
    response.list name read key = .ok [] :=
  field_bind_of_none absent _

theorem list_eq_ok_iff {name : String} {read : Value → Option α} (present : response.get? key = some value)
    {content : List α} : response.list name read key = .ok content ↔
      ∃ items, value = .array items ∧ items.map read = content.map some := by
  simp only [Response.list, field_bind_eq_ok_iff present, Result.mapM_ofOption_eq_ok_iff, Kind.array,
    Value.array?_eq_some_iff, Option.getD_some]

end Fields

/-! ## Answers -/

/-- What an answer says: nothing, or a status, which when it is zero may have data after it. -/
inductive Says : (answer : Bytes) → Result (Option Response) → Prop where
  | nothing : Says [] (.error (.link .emptyResponse))
  | status {code : UInt8} {body : Bytes} : code ≠ 0 → Says (code :: body) (.error (.status code))
  | success : Says [0x00] (.ok none)
  | data {body : Bytes} {response : Response} : body ≠ [] → ofBytes body = .ok response →
      Says (0x00 :: body) (.ok (some response))
  | malformed {body : Bytes} {malformation : Malformation} : body ≠ [] →
      ofBytes body = .error (.badResponse malformation) → Says (0x00 :: body) (.error (.badResponse malformation))

theorem says_ofAnswer (answer : Bytes) : Says answer (ofAnswer answer) := by
  cases answer with
  | nil => exact .nothing
  | cons code body =>
    simp only [ofAnswer]
    split_ifs with refused empty
    · exact .status refused
    · cases List.isEmpty_iff.1 empty
      cases Decidable.not_not.1 refused
      exact .success
    · have full : body ≠ [] := fun none => empty (List.isEmpty_iff.2 none)
      cases Decidable.not_not.1 refused
      cases read : ofBytes body with
      | ok response => exact .data full read
      | error failure =>
        obtain ⟨malformation, rfl⟩ := isReading_ofBytes body failure read
        exact .malformed full read

theorem ofAnswer_of_data {body : Bytes} (full : body ≠ []) : ofAnswer (0x00 :: body) = some <$> ofBytes body := by
  simp only [ofAnswer, ne_eq, not_true_eq_false, if_false, List.isEmpty_eq_false_iff.2 full, Bool.false_eq_true]

theorem says_iff {answer : Bytes} {result : Result (Option Response)} :
    Says answer result ↔ ofAnswer answer = result := by
  refine ⟨fun said => ?_, fun same => same ▸ says_ofAnswer answer⟩
  cases said with
  | nothing | success => rfl
  | status refused => exact if_pos refused
  | data full read | malformed full read => rw [ofAnswer_of_data full, read]; rfl

end Response

end SecurityKey
