import SecurityKey.Proofs.Session.Conversation
import SecurityKey.Proofs.Session.Refusal

/-!
# Diagnoses

When an operation fails, its exchanges tell why: all answers before the last one reported success, and the last one has
the status that the failure reports, or is malformed, or did not come. The other failures are refusals, before anything
was sent.
-/

namespace SecurityKey

/-! ## What exchanges tell -/

/-- An exchange that ended in an answer that reports success. -/
def Link.Exchange.Succeeds (exchange : Link.Exchange) : Prop :=
  ∃ body, exchange.outcome = .ok (0x00 :: body)

/-- The end of an exchange explains a failure: of the link, for an empty answer, with the status of an answer, or for
what follows a status of success. -/
inductive Explains : Except Link.Failure Bytes → Failure → Prop where
  | lost (reason : Link.Failure) : Explains (.error reason) (.link reason)
  | nothing : Explains (.ok []) (.link .emptyResponse)
  | status {code : UInt8} (body : Bytes) : code ≠ 0 → Explains (.ok (code :: body)) (.status code)
  | malformed (body : Bytes) (malformation : Malformation) :
      Explains (.ok (0x00 :: body)) (.badResponse malformation)

/-- The exchanges that were made tell why there is this result. Without any, it is one of the failures that `refuses`
allows. A status that means that there is nothing to report is given by `absence`, with the result that it stands for; it
counts as an answer to the first request only. -/
inductive Diagnosed {α : Type} (refuses : Failure → Prop) (absence : Option (UInt8 × α)) :
    List Link.Exchange → Result α → Prop where
  | refused {failure : Failure} : refuses failure → Diagnosed refuses absence [] (.error failure)
  | replied {made : List Link.Exchange} (a : α) : made ≠ [] → (∀ exchange ∈ made, exchange.Succeeds) →
      Diagnosed refuses absence made (.ok a)
  | absent {code : UInt8} {nothing : α} (request body : Bytes) : absence = some (code, nothing) →
      Diagnosed refuses absence [⟨request, .ok (code :: body)⟩] (.ok nothing)
  | failed {earlier : List Link.Exchange} {last : Link.Exchange} {failure : Failure} :
      (∀ exchange ∈ earlier, exchange.Succeeds) → Explains last.outcome failure →
      (earlier = [] → ∀ code nothing, absence = some (code, nothing) → failure ≠ .status code) →
      Diagnosed refuses absence (earlier ++ [last]) (.error failure)

variable {α β : Type} {made later : List Link.Exchange} {refuses : Failure → Prop} {absence : Option (UInt8 × α)}
  {result : Result α}

theorem Explains.ne_status {exchange : Link.Exchange} {failure : Failure}
    (explained : Explains exchange.outcome failure) (h : exchange.Succeeds) (code : UInt8) :
    failure ≠ .status code := by
  obtain ⟨body, outcome⟩ := h
  rw [outcome] at explained
  rintro rfl
  cases explained with
  | status _ nonzero => exact nonzero rfl

theorem Diagnosed.succeeds {a : α} (h : Diagnosed refuses none made (.ok a)) :
    made ≠ [] ∧ ∀ exchange ∈ made, exchange.Succeeds := by
  cases h with
  | replied a some all => exact ⟨some, all⟩
  | absent request body none => cases none

theorem Diagnosed.append (some : made ≠ []) (all : ∀ exchange ∈ made, exchange.Succeeds)
    (second : ∀ prior : Link.Exchange, prior.Succeeds → Diagnosed refuses none (prior :: later) result) :
    Diagnosed refuses absence (made ++ later) result := by
  obtain ⟨init, prior, rfl⟩ : ∃ init prior, made = init ++ [prior] :=
    ⟨_, _, (List.dropLast_concat_getLast some).symm⟩
  obtain ⟨before, succeeds⟩ := List.forall_mem_append.1 all
  have succeeds : prior.Succeeds := List.forall_mem_singleton.1 succeeds
  -- What follows tells its story behind the last success; the successes before that one only lengthen it.
  have told := second prior succeeds
  rw [List.append_assoc, List.singleton_append]
  generalize rest : prior :: later = whole at told
  cases told with
  | refused => cases rest
  | replied a _ goes => exact .replied a (by simp [← rest]) (List.forall_mem_append.2 ⟨before, goes⟩)
  | absent request body none => cases none
  | @failed earlier last failure goes explained _ =>
      rw [← List.append_assoc]
      refine .failed (List.forall_mem_append.2 ⟨before, goes⟩) explained fun empty code nothing _ => ?_
      obtain ⟨rfl, rfl⟩ := List.append_eq_nil_iff.1 empty
      obtain ⟨rfl, -⟩ := List.cons.inj rest
      exact explained.ne_status succeeds code

/-- Of the failures without an exchange only those have to be allowed that are really given. -/
theorem Diagnosed.imp {other : Failure → Prop} (h : Diagnosed refuses absence made result)
    (allowed : ∀ failure, result = .error failure → refuses failure → other failure) :
    Diagnosed other absence made result := by
  cases h with
  | refused refusal => exact .refused (allowed _ rfl refusal)
  | replied a some all => exact .replied a some all
  | absent request body same => exact .absent request body same
  | failed all explained distinct => exact .failed all explained distinct

theorem Explains.not_isRefusal {outcome : Except Link.Failure Bytes} {failure : Failure}
    (h : Explains outcome failure) : ¬failure.IsRefusal := by
  cases h <;> exact id

/-- There are exchanges unless there is a refusal. -/
theorem Diagnosed.made_eq_nil_iff (h : Diagnosed Failure.IsRefusal absence made result) :
    made = [] ↔ ∃ failure, result = .error failure ∧ failure.IsRefusal := by
  cases h with
  | refused refusal => exact ⟨fun _ => ⟨_, rfl, refusal⟩, fun _ => rfl⟩
  | replied a some => exact ⟨fun none => absurd none some, by rintro ⟨_, ⟨⟩, -⟩⟩
  | absent request body same => exact ⟨nofun, by rintro ⟨_, ⟨⟩, -⟩⟩
  | failed all explained distinct =>
      refine ⟨by simp, ?_⟩
      rintro ⟨_, ⟨⟩, refusal⟩
      exact absurd refusal explained.not_isRefusal

theorem diagnosed_of_explains {last : Link.Exchange} {failure : Failure} (h : Explains last.outcome failure) :
    Diagnosed refuses none [last] (.error failure : Result α) := by
  rw [← List.nil_append [last]]
  exact .failed (by simp) h fun _ _ _ none => by cases none

theorem diagnosed_of_succeeds {last : Link.Exchange} (h : last.Succeeds) (a : α) :
    Diagnosed refuses absence [last] (.ok a) :=
  .replied a (List.cons_ne_nil _ _) (List.forall_mem_singleton.2 h)

theorem diagnosed_ofAnswer (request : Bytes) (outcome : Except Link.Failure Bytes) :
    Diagnosed refuses none [⟨request, outcome⟩] ((outcome.mapError Failure.link).bind Response.ofAnswer) := by
  cases outcome with
  | error reason => exact diagnosed_of_explains (.lost reason)
  | ok answer =>
      show Diagnosed refuses none _ (Response.ofAnswer answer)
      generalize read : Response.ofAnswer answer = result
      cases read ▸ Response.says_ofAnswer answer with
      | nothing => exact diagnosed_of_explains .nothing
      | status nonzero => exact diagnosed_of_explains (.status _ nonzero)
      | success => exact diagnosed_of_succeeds ⟨_, rfl⟩ _
      | data full read => exact diagnosed_of_succeeds ⟨_, rfl⟩ _
      | malformed full read => exact diagnosed_of_explains (.malformed _ _)

/-! ## Steps -/

/-- A failure for a malformed answer. -/
def Failure.IsMalformation (failure : Failure) : Prop :=
  ∃ malformation, failure = .badResponse malformation

namespace Operation

variable {operation : Operation α} {next : α → Operation β} {session : Session}

/-- An operation that exchanges nothing, and that fails in the given way only. -/
class Inspecting (kind : Failure → Prop) (operation : Operation α) : Prop where
  makes : ∀ session, operation.Makes [] session
  fails : ∀ session failure, (operation.on session).1 = .error failure → kind failure

/-- An operation whose exchanges tell why it ends as it does. -/
class Asking (operation : Operation α) : Prop where
  told : ∀ session, ∃ made, operation.Makes made session ∧
    Diagnosed Failure.IsRefusal none made (operation.on session).1

/-- An operation that makes at most one exchange, which tells why it ends as it does. -/
class AskingOnce (operation : Operation α) : Prop where
  told : ∀ session, ∃ made, made.length ≤ 1 ∧ operation.Makes made session ∧
    Diagnosed Failure.IsRefusal none made (operation.on session).1

/-- An operation that goes on after a success, which tells together with its exchanges why it ends as it does. -/
class Following (operation : Operation α) : Prop where
  told : ∀ session, ∃ made, operation.Makes made session ∧
    ∀ prior : Link.Exchange, prior.Succeeds →
      Diagnosed Failure.IsRefusal none (prior :: made) (operation.on session).1

section Inspecting

variable {kind : Failure → Prop}

instance (a : α) : Inspecting kind (pure a : Operation α) :=
  ⟨makes_of_frame fun _ _ => rfl, by rintro session _ ⟨⟩⟩

instance : Inspecting kind currentInfo :=
  ⟨makes_of_frame fun _ _ => rfl, by rintro session _ ⟨⟩⟩

instance (option : String) (stable preview : Command) : Inspecting kind (Session.flavor option stable preview) :=
  ⟨makes_of_frame fun _ _ => rfl, by rintro session _ ⟨⟩⟩

instance (info : Info) : Inspecting kind (modify fun session => { session with info } : Operation PUnit) :=
  ⟨makes_of_frame fun _ _ => rfl, by rintro session _ ⟨⟩⟩

instance (result : Result α) [read : Result.Reading result] :
    Inspecting Failure.IsMalformation (liftM result : Operation α) :=
  ⟨makes_of_frame fun _ _ => rfl, fun _ => read.isReading⟩

instance (malformation : Malformation) :
    Inspecting Failure.IsMalformation (throw (.badResponse malformation) : Operation α) :=
  ⟨makes_of_frame fun _ _ => rfl, by rintro session _ ⟨⟩; exact ⟨malformation, rfl⟩⟩

instance [first : Inspecting kind operation] [second : ∀ a, Inspecting kind (next a)] :
    Inspecting kind (operation >>= next) where
  makes session := by
    rcases reached : operation.on session with ⟨failure | a, after⟩
    · exact (first.makes session).bind_error reached
    · exact (first.makes session).bind reached ((second a).makes after)
  fails session failure := by
    rw [on_bind]
    rcases reached : operation.on session with ⟨own | a, after⟩
    · rintro ⟨⟩
      exact first.fails session failure (congrArg Prod.fst reached)
    · exact (second a).fails after failure

instance {condition : Prop} [Decidable condition] {first second : Operation α} [Inspecting kind first]
    [Inspecting kind second] : Inspecting kind (if condition then first else second) := by
  split <;> infer_instance

end Inspecting

instance [once : AskingOnce operation] : Asking operation :=
  ⟨fun session => (once.told session).imp fun _ => And.right⟩

theorem diagnosed_of_inspecting [inspects : Inspecting Failure.IsMalformation operation] {prior : Link.Exchange}
    (succeeds : prior.Succeeds) (session : Session) :
    Diagnosed Failure.IsRefusal none [prior] (operation.on session).1 := by
  cases failed : (operation.on session).1 with
  | ok a => exact diagnosed_of_succeeds succeeds a
  | error failure =>
      obtain ⟨malformation, rfl⟩ := inspects.fails session failure failed
      obtain ⟨body, outcome⟩ := succeeds
      exact diagnosed_of_explains (outcome ▸ .malformed body malformation)

instance [inspects : Inspecting Failure.IsMalformation operation] : Following operation :=
  ⟨fun session => ⟨[], inspects.makes session, fun _ succeeds => diagnosed_of_inspecting succeeds session⟩⟩

instance [asks : Asking operation] [committed : Committed operation] : Following operation where
  told session := by
    obtain ⟨made, makes, told⟩ := asks.told session
    refine ⟨made, makes, fun prior succeeds => ?_⟩
    have unrefused := (committed.unrefused session).not_refusal
    generalize (operation.on session).1 = result at told unrefused
    cases told with
    | refused refusal => exact absurd refusal (unrefused _ rfl)
    | replied a _ all => exact .replied a (List.cons_ne_nil _ _) (List.forall_mem_cons.2 ⟨succeeds, all⟩)
    | absent request body none => cases none
    | failed all explained _ =>
        rw [← List.cons_append]
        exact .failed (List.forall_mem_cons.2 ⟨succeeds, all⟩) explained fun empty => by cases empty

instance (request : Bytes) : AskingOnce (do Response.ofAnswer (← exchange request)) where
  told session := by
    refine ⟨[⟨request, (session.link.sendCbor request).1⟩], Nat.le_refl 1, ?_, ?_⟩
    · rcases reached : (exchange request).on session with ⟨failure | answer, after⟩
      · exact (makes_exchange request session).bind_error reached
      · exact (makes_exchange request session).bind reached (makes_of_frame (fun _ _ => rfl) after)
    · have same : ((do Response.ofAnswer (← exchange request) : Operation (Option Response)).on session).1 =
          ((session.link.sendCbor request).1.mapError Failure.link).bind Response.ofAnswer := by
        rw [on_bind, on_exchange]
        cases (session.link.sendCbor request).1 <;> rfl
      rw [same]
      exact diagnosed_ofAnswer request _

instance [before : Inspecting Failure.IsRefusal operation] [asks : ∀ a, AskingOnce (next a)] :
    AskingOnce (operation >>= next) where
  told session := by
    rcases reached : operation.on session with ⟨failure | a, after⟩
    · refine ⟨[], Nat.zero_le 1, (before.makes session).bind_error reached, ?_⟩
      rw [on_bind, reached]
      exact .refused (before.fails session failure (congrArg Prod.fst reached))
    · obtain ⟨made, short, makes, told⟩ := (asks a).told after
      refine ⟨made, short, (before.makes session).bind reached makes, ?_⟩
      rw [on_bind, reached]
      exact told

/-- What a bind makes of the result that stands for a status: it goes on to another one without doing anything. -/
inductive PassesOn (next : α → Operation β) : Option (UInt8 × α) → Option (UInt8 × β) → Prop where
  | never : PassesOn next none none
  | absence {code : UInt8} {nothing : α} {other : β} : next nothing = pure other →
      PassesOn next (some (code, nothing)) (some (code, other))

theorem PassesOn.error {absence : Option (UInt8 × α)} {other : Option (UInt8 × β)} (passes : PassesOn next absence other)
    {failure : Failure} (told : Diagnosed refuses absence made (.error failure)) :
    Diagnosed refuses other made (.error failure) := by
  cases told with
  | refused refusal => exact .refused refusal
  | failed all explained distinct =>
      refine .failed all explained fun empty => ?_
      cases passes with
      | never => rintro _ _ ⟨⟩
      | absence => rintro _ _ ⟨⟩; exact distinct empty _ _ rfl

theorem told_bind {absence : Option (UInt8 × α)} {other : Option (UInt8 × β)} (passes : PassesOn next absence other)
    (follows : ∀ a, Following (next a)) (makes : operation.Makes made session)
    (told : Diagnosed Failure.IsRefusal absence made (operation.on session).1) :
    ∃ made, (operation >>= next).Makes made session ∧
      Diagnosed Failure.IsRefusal other made ((operation >>= next).on session).1 := by
  rcases reached : operation.on session with ⟨failure | a, after⟩
  · rw [reached] at told
    rw [on_bind, reached]
    exact ⟨made, makes.bind_error reached, passes.error told⟩
  · rw [reached] at told
    rw [on_bind, reached]
    cases told with
    | replied a some all =>
        obtain ⟨later, makes', told⟩ := (follows a).told after
        exact ⟨made ++ later, makes.bind reached makes', .append some all told⟩
    | absent request body same =>
        subst same
        cases passes with
        | absence skips =>
            refine ⟨_, makes.bind reached (makes_of_frame (by rw [skips]; exact fun _ _ => rfl) after), ?_⟩
            rw [List.append_nil]
            show Diagnosed _ _ _ ((next a).on after).1
            rw [skips]
            exact .absent request body rfl

instance [asks : Asking operation] [follows : ∀ a, Following (next a)] : Asking (operation >>= next) where
  told session := by
    obtain ⟨made, makes, told⟩ := asks.told session
    exact told_bind .never follows makes told

instance [asks : AskingOnce operation] [inspects : ∀ a, Inspecting Failure.IsMalformation (next a)] :
    AskingOnce (operation >>= next) where
  told session := by
    obtain ⟨made, short, makes, told⟩ := asks.told session
    rcases reached : operation.on session with ⟨failure | a, after⟩
    · rw [reached] at told
      rw [on_bind, reached]
      exact ⟨made, short, makes.bind_error reached, (PassesOn.never : PassesOn next none none).error told⟩
    · rw [reached] at told
      rw [on_bind, reached]
      refine ⟨made ++ [], by simpa using short, makes.bind reached ((inspects a).makes after), ?_⟩
      obtain ⟨some, all⟩ := told.succeeds
      exact .append some all fun _ succeeds => diagnosed_of_inspecting succeeds after

theorem following_bind [follows : Following operation] (later : ∀ a, Following (next a)) :
    Following (operation >>= next) where
  told session := by
    obtain ⟨made, makes, told⟩ := follows.told session
    rcases reached : operation.on session with ⟨failure | a, after⟩
    · rw [reached] at told
      rw [on_bind, reached]
      exact ⟨made, makes.bind_error reached, fun prior succeeds =>
        (PassesOn.never : PassesOn next none none).error (told prior succeeds)⟩
    · rw [reached] at told
      rw [on_bind, reached]
      obtain ⟨final, makes', told'⟩ := (later a).told after
      refine ⟨made ++ final, makes.bind reached makes', fun prior succeeds => ?_⟩
      obtain ⟨some, all⟩ := (told prior succeeds).succeeds
      exact .append some all told'

instance [Following operation] [later : ∀ a, Following (next a)] : Following (operation >>= next) :=
  following_bind later

instance {condition : Prop} [Decidable condition] {first second : Operation α} [Following first] [Following second] :
    Following (if condition then first else second) := by
  split <;> infer_instance

instance [asks : AskingOnce operation] : AskingOnce (unattended operation) where
  told session := by
    obtain ⟨made, short, makes, told⟩ := asks.told (quiet session)
    exact ⟨made, short, makes.unattended, told⟩

instance [asks : Asking operation] : Asking (unattended operation) where
  told session := by
    obtain ⟨made, makes, told⟩ := asks.told (quiet session)
    exact ⟨made, makes.unattended, told⟩

/-- A handler that knows a status that stands for a result, and no other failure. -/
theorem told_tryCatch (operation : Operation α) [asks : AskingOnce operation] {code : UInt8} {nothing : α}
    {handler : Failure → Operation α}
    (caught : handler (.status code) = pure nothing)
    (passed : ∀ failure, failure ≠ .status code → handler failure = throw failure) (session : Session) :
    ∃ made, (tryCatch operation handler).Makes made session ∧
      Diagnosed Failure.IsRefusal (some (code, nothing)) made ((tryCatch operation handler).on session).1 := by
  obtain ⟨made, short, makes, told⟩ := asks.told session
  have still (result : Result α) (after : Session) : (rescue handler result).Makes [] after := by
    refine makes_of_frame (fun _ _ => ?_) after
    cases result with
    | ok a => rfl
    | error failure =>
        by_cases known : failure = .status code
        · rw [known, rescue, caught]; rfl
        · rw [rescue, passed failure known]; rfl
  refine ⟨made ++ [], makes.follow (on_tryCatch_rescue handler) (still _ _), ?_⟩
  rw [on_tryCatch_rescue, List.append_nil]
  generalize (operation.on session).1 = result at told
  cases told with
  | refused refusal =>
      rw [rescue, passed _ fun known => by rw [known] at refusal; exact refusal]
      exact .refused refusal
  | replied a some all => exact .replied a some all
  | absent request body none => cases none
  | @failed earlier last failure all explained distinct =>
      by_cases known : failure = .status code
      · subst known
        rw [rescue, caught]
        obtain rfl : earlier = [] := List.length_eq_zero_iff.1 (by simpa using short)
        obtain ⟨request, outcome⟩ := last
        cases explained with
        | status body nonzero => exact .absent request body rfl
      · rw [rescue, passed failure known]
        exact .failed all explained fun _ _ _ same => by cases same; exact known

end Operation

end SecurityKey
