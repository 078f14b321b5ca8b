import SecurityKey.Proofs.Session.Listing

/-!
# Announced totals

A listing that succeeds has as many items as the first response announces, as long as that announces any. When it
announces that there is nothing, a listing of relying parties is empty, but a listing of credentials takes an item from
the response all the same.
-/

namespace SecurityKey.Listing

open Operation

variable {Item : Type}

/-- How a listing ends whose first response announces a total of zero. -/
def unannounced : Listing Item → Response → Result (List Item)
  | assertions _, response => do return [← Assertion.ofResponse response]
  | relyingParties _, _ => .ok []
  | credentials _ _, response => do return [← CredentialStore.StoredCredential.ofResponse response]

variable {listing : Listing Item} {response : Response} {session : Session} {request : Bytes}

/-- When a total of zero is taken, the first item is read all the same. -/
theorem gives_first {number : UInt64} (none : number = 0) (first : Result Item) (next : Operation Item) :
    (do return (← first) :: (← Session.repeated next (number.toNat - 1)) : Operation (List Item)).Gives
      (do return [← first]) := by
  subst none
  exact fun _ => by cases first <;> rfl

theorem collect_gives_unannounced (nothing : listing.total response = .ok 0) :
    (listing.collect response).Gives (listing.unannounced response) := by
  cases listing with
  | assertions parameters =>
      cases held : Assertion.ofResponse response with
      | error failure =>
          rw [unannounced, held]
          exact gives_of_error held _
      | ok assertion =>
          rw [total, numberOfCredentials_of_ofResponse held] at nothing
          rw [unannounced, collect, held]
          exact gives_first (Except.ok.inj nothing) (.ok assertion) Session.nextAssertion
  | relyingParties token =>
      cases field : response.field .unsigned 0x05 with
      | error failure =>
          rw [total, field] at nothing
          cases nothing
      | ok number =>
          rw [total, field] at nothing
          have none : number.getD 0 = 0 := Except.ok.inj nothing
          intro session
          rw [collect, field, on_bind, on_liftM]
          simp only [none]
          rfl
  | credentials token rpIdHash =>
      cases field : response.field .unsigned 0x09 with
      | error failure =>
          rw [total, field] at nothing
          cases nothing
      | ok number =>
          rw [total, field] at nothing
          rw [collect, field]
          exact gives_first (Except.ok.inj nothing) (CredentialStore.StoredCredential.ofResponse response)
            (CredentialStore.next 0x05 CredentialStore.StoredCredential.ofResponse)

/-- What is stored on the authenticator can always be asked for. When the first response announces a total of one or
more, a listing that succeeds has as many items and took as many replies. When it announces a total of zero, nothing
further is asked for: a listing of relying parties is then empty, and a listing of credentials is the one item of the
response, or fails when the response does not hold one. -/
theorem announced_totals_are_kept (listing : Listing Item) (session : Session) :
    (listing.IsOfStore → ∃ request, listing.opening session.info = .ok request) ∧
    ∀ request, listing.opening session.info = .ok request → ∃ first later, first.request = request ∧
      listing.perform.Makes (first :: later) session ∧
      ∀ response total, first.reply = .ok (some response) → listing.total response = .ok total →
        (∀ items, 1 ≤ total → (listing.perform.on session).1 = .ok items →
          items.length = total.toNat ∧ later.length + 1 = total.toNat) ∧
        (total = 0 → later = [] ∧ (listing.perform.on session).1 = listing.unannounced response) := by
  refine ⟨fun ofStore => opening_of_store ofStore _, fun request opened => ?_⟩
  obtain ⟨first, later, after, same, makes, -, course, result⟩ := exists_course opened
  refine ⟨first, later, same, makes, fun response total replied announced => ⟨?_, ?_⟩⟩
  · intro items some succeeded
    have collected := course.collected response total replied announced some
    rw [← result, succeeded] at collected
    exact ⟨collected.length_eq.2, collected.length_eq.1⟩
  · rintro rfl
    refine ⟨?_, ?_⟩
    · by_contra several
      obtain ⟨response', total', replied', announced', many⟩ := course.announced several
      cases replied.symm.trans replied'
      cases announced.symm.trans announced'
      exact absurd many (by decide)
    · rw [result, replied]
      exact congrArg Prod.fst (collect_gives_unannounced announced after)

/-- A listing of credentials. -/
def stored : Listing CredentialStore.StoredCredential :=
  .credentials ⟨.two, List.replicate 32 0x11⟩ (List.replicate 32 0x33)

/-- A response about one relying party that announces three of them. -/
def threeParties : Response :=
  ⟨[(0x03, .map [(.text "id", .text "a")]), (0x04, .bytes [0x11]), (0x05, .unsigned 3)]⟩

/-- A response that announces no relying party. -/
def noParties : Response :=
  ⟨[(0x05, .unsigned 0)]⟩

/-- A response that announces no credential. -/
def noCredentials : Response :=
  ⟨[(0x09, .unsigned 0)]⟩

theorem ofAnswer_threeParties : Response.ofAnswer threeParties.toAnswer = .ok (some threeParties) := by
  refine Response.ofAnswer_toAnswer (by decide) ?_
  simp only [threeParties, List.forall_mem_cons, List.not_mem_nil, false_imp_iff, implies_true, and_true]
  refine ⟨.map (by decide) ?_ ?_, .bytes _ (by decide), .unsigned _ _⟩
  · exact List.forall_mem_singleton.2 (.text _ (by decide))
  · exact List.forall_mem_singleton.2 (.text _ (by decide))

theorem totals_of_parties :
    parties.IsOfStore ∧
    (∃ request first later, parties.opening {} = .ok request ∧ first.request = request ∧
      parties.perform.Makes (first :: later) (answeringSession (List.replicate 3 threeParties.toAnswer)) ∧
      first.reply = .ok (some threeParties) ∧ parties.total threeParties = .ok 3 ∧ (1 : UInt64) ≤ 3 ∧
      ∃ items, (parties.perform.on (answeringSession (List.replicate 3 threeParties.toAnswer))).1 = .ok items ∧
        items.length = 3 ∧ later.length + 1 = 3) ∧
    ∃ first, parties.perform.Makes [first] (answeringSession [noParties.toAnswer]) ∧
      first.reply = .ok (some noParties) ∧ parties.total noParties = .ok 0 ∧
      (parties.perform.on (answeringSession [noParties.toAnswer])).1 = .ok [] := by
  refine ⟨trivial, ?_, ?_⟩
  · obtain ⟨opens, kept⟩ :=
      announced_totals_are_kept parties (answeringSession (List.replicate 3 threeParties.toAnswer))
    obtain ⟨request, opened⟩ := opens trivial
    obtain ⟨first, later, same, makes, totals⟩ := kept request opened
    have replied : first.reply = .ok (some threeParties) :=
      (reply_of_answeringSession makes).trans ofAnswer_threeParties
    have some : (1 : UInt64) ≤ 3 := by decide
    have succeeds : (parties.perform.on (answeringSession (List.replicate 3 threeParties.toAnswer))).1.isOk := by
      decide +kernel
    cases reached : (parties.perform.on (answeringSession (List.replicate 3 threeParties.toAnswer))).1 with
    | error failure =>
        rw [reached] at succeeds
        cases succeeds
    | ok items =>
        exact ⟨request, first, later, opened, same, makes, replied, rfl, some, items, rfl,
          (totals threeParties 3 replied rfl).1 items some reached⟩
  · obtain ⟨opens, kept⟩ := announced_totals_are_kept parties (answeringSession [noParties.toAnswer])
    obtain ⟨request, opened⟩ := opens trivial
    obtain ⟨first, later, -, makes, totals⟩ := kept request opened
    have replied : first.reply = .ok (some noParties) :=
      (reply_of_answeringSession makes).trans
        (Response.ofAnswer_toAnswer (by decide) (List.forall_mem_singleton.2 (.unsigned _ _)))
    obtain ⟨rfl, result⟩ := (totals noParties 0 replied rfl).2 rfl
    exact ⟨first, makes, replied, rfl, result⟩

/-- A listing of credentials is not empty when none is announced: the response has to hold one. -/
theorem credential_is_read_unannounced :
    ¬∀ (session : Session) (first : Link.Exchange) (later : List Link.Exchange) (response : Response),
      stored.perform.Makes (first :: later) session → first.reply = .ok (some response) →
      stored.total response = .ok 0 → (stored.perform.on session).1 = .ok [] := by
  intro always
  have ofStore : stored.IsOfStore := trivial
  obtain ⟨request, opened⟩ := opening_of_store ofStore (answeringSession [noCredentials.toAnswer]).info
  obtain ⟨first, later, after, -, makes, -, -, result⟩ := exists_course opened
  have replied : first.reply = .ok (some noCredentials) :=
    (reply_of_answeringSession makes).trans
      (Response.ofAnswer_toAnswer (by decide) (List.forall_mem_singleton.2 (.unsigned _ _)))
  have empty := always _ first later _ makes replied rfl
  rw [result, replied] at empty
  cases empty

end SecurityKey.Listing
