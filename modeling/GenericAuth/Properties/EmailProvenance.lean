import GenericAuth.Properties.OneTimeTokens

/-! Where `email_verified` comes from. A first sign-in through the provider
confirms any address that the profile carries, whether or not the provider
says that it is verified. All other writers of the flag have proof. -/
namespace GenericAuth

open Interaction Relational

section Provenance

variable [External] {state : AppState} {start : Db} {pool : ServerPool} {t : Nat}

/-! ### Proofs of ownership, among the steps before `t` -/

def ByAdmin (pool : ServerPool) (t : Nat) (userId : Uuid) : Prop :=
  ∃ k < t, ∃ i args email passwordHash displayName roleId columns,
    pool.Serves i (.createAdmin args) ∧
    Did pool k i (.insertUser email passwordHash displayName roleId true) columns ∧
    columns.id = userId

/-- A verification token that was stored for this user was consumed. -/
def ByToken (pool : ServerPool) (t : Nat) (userId : Uuid) : Prop :=
  ∃ k < t, ∃ i q draw expiresAt, pool.Serves i (.verifyEmail q) ∧
    TokenKind.emailVerification.Consumed pool k i draw (sha256Hex q.token) userId ∧
    ∃ l < k, ∃ j,
      TokenKind.emailVerification.Stored pool l j userId (sha256Hex q.token) expiresAt

/-- The user was created from a profile with this address and this value in
`email_verified`. -/
def ByProfile (pool : ServerPool) (t : Nat) (userId : Uuid) (email : Option String)
    (verified : Option Bool) : Prop :=
  ∃ k < t, ∃ i q passwordHash displayName roleId columns l draw profile,
    pool.Serves i (.googleCallback q) ∧
    pool.Executed answer l i draw (.exchangeCode q.code) (.ok profile) ∧
    Did pool k i (.insertUser profile.email passwordHash displayName roleId
      profile.email.isSome) columns ∧
    columns.id = userId ∧ profile.email = email ∧ profile.emailVerified = verified

/-- Every profile from which a callback creates a user has no address, or the
provider says that the address is verified. -/
def ConfirmedProfiles (pool : ServerPool) : Prop :=
  ∀ k i q passwordHash displayName roleId columns l draw profile,
    pool.Serves i (.googleCallback q) →
    pool.Executed answer l i draw (.exchangeCode q.code) (.ok profile) →
    Did pool k i (.insertUser profile.email passwordHash displayName roleId
      profile.email.isSome) columns →
    profile.email = none ∨ profile.emailVerified = some true

/-! ### Writers of the flag -/

def verifiedUsers (db : Db) : List UserRow :=
  db.users.rows.filter fun row => row.emailVerified && row.email.isSome

/-- The operation sets the flag of this row. -/
def Verifies (op : Op) (reply : op.Reply) (row : UserRow) : Prop :=
  (∃ passwordHash displayName roleId columns, columns.id = row.id ∧
    (⟨op, reply⟩ : Call Op Op.Reply) =
      ⟨.sql (.insertUser row.email passwordHash displayName roleId true), .ok columns⟩) ∨
  op = .sql (.markEmailVerified row.id)

def SameUser (old new : UserRow) : Prop := new.id = old.id ∧ new.email = old.email

/-- An update that sets no flag. -/
theorem verified_of_update {db : Db} {userId : Uuid} {change : UserRow → UserRow} {row : UserRow}
    {keeps : Keeps UserRow.clash change}
    (hMem : row ∈ verifiedUsers (db.updateUsers userId change keeps))
    (hSame : ∀ old, SameUser old (change old))
    (hFlag : ∀ old, (change old).emailVerified = old.emailVerified) :
    ∃ old ∈ verifiedUsers db, SameUser old row := by
  obtain ⟨hRow, hVerified⟩ := List.mem_filter.mp hMem
  obtain ⟨old, hOld, rfl⟩ := List.mem_map.mp hRow
  refine ⟨old, List.mem_filter.mpr ⟨hOld, ?_⟩, ?_⟩
  · split at hVerified
    · rw [← hFlag old, ← (hSame old).2]
      exact hVerified
    · exact hVerified
  · split
    · exact hSame old
    · exact ⟨rfl, rfl⟩

/-- One step: a verified row was verified before, or is verified by the step. -/
theorem verified_step (draw : Draw) (db : Db) (op : Op) (row : UserRow)
    (hMem : row ∈ verifiedUsers (answer draw db op).2) :
    (∃ old ∈ verifiedUsers db, SameUser old row) ∨ Verifies op (answer draw db op).1 row := by
  have effect := answer_effect draw db op
  generalize (answer draw db op).1 = reply, (answer draw db op).2 = db' at effect hMem
  cases effect with
  | @insertUser _ passwordHash displayName roleId _ _ inserted =>
      obtain ⟨hRow, hVerified⟩ := List.mem_filter.mp hMem
      rcases (Table.mem_insert inserted).mp hRow with hOld | rfl
      · exact .inl ⟨row, List.mem_filter.mpr ⟨hOld, hVerified⟩, rfl, rfl⟩
      · simp only [Bool.and_eq_true] at hVerified
        obtain ⟨rfl, _⟩ := hVerified
        exact .inr (.inl ⟨passwordHash, displayName, roleId, _, rfl, rfl⟩)
  | updateRole hRole =>
      exact .inl (verified_of_update hMem (fun _ => ⟨rfl, rfl⟩) fun _ => rfl)
  | updateActive active userId =>
      exact .inl (verified_of_update hMem (fun _ => ⟨rfl, rfl⟩) fun _ => rfl)
  | updatePasswordHash passwordHash userId =>
      exact .inl (verified_of_update hMem (fun _ => ⟨rfl, rfl⟩) fun _ => rfl)
  | markEmailVerified userId =>
      obtain ⟨hRow, hVerified⟩ := List.mem_filter.mp hMem
      obtain ⟨old, hOld, rfl⟩ := List.mem_map.mp hRow
      by_cases hUser : old.id = userId
      · refine .inr (.inr ?_)
        simp [hUser]
      · simp only [hUser, beq_iff_eq, if_false] at hVerified ⊢
        exact .inl ⟨old, List.mem_filter.mpr ⟨hOld, hVerified⟩, rfl, rfl⟩
  | _ => exact .inl ⟨row, hMem, rfl, rfl⟩

/-- Each verified row was verified by some step. -/
theorem ServerRun.verified_by (run : ServerRun state migrated pool) {row : UserRow}
    (hMem : row ∈ (pool.storeAt t).users.rows) (hEmail : row.email.isSome)
    (hVerified : row.emailVerified = true) :
    ∃ k < t, ∃ i draw op reply, pool.Executed answer k i draw op reply ∧ Verifies op reply row := by
  obtain ⟨k, hk, i, draw, op, reply, written, step, verifies, hId, hSame⟩ :=
    run.origin verifiedUsers SameUser (fun _ _ op reply row => Verifies op reply row)
      (fun _ => ⟨rfl, rfl⟩) (fun _ _ _ early late => ⟨late.1.trans early.1, late.2.trans early.2⟩)
      rfl verified_step (List.mem_filter.mpr ⟨hMem, by simp [hVerified, hEmail]⟩)
  rw [Verifies, ← hId, ← hSame] at verifies
  exact ⟨k, hk, i, draw, op, reply, step, verifies⟩

/-- Without the condition, a profile can take the place of a proof. -/
theorem ServerRun.email_provenance (run : ServerRun state migrated pool) {row : UserRow}
    (hMem : row ∈ (pool.storeAt t).users.rows) (hEmail : row.email.isSome)
    (hVerified : row.emailVerified = true) :
    ByAdmin pool t row.id ∨ ByToken pool t row.id ∨
      ∃ verified, ByProfile pool t row.id row.email verified := by
  obtain ⟨k, hk, i, draw, op, reply, step, verifies⟩ := run.verified_by hMem hEmail hVerified
  rcases verifies with ⟨passwordHash, displayName, roleId, columns, hId, hCall⟩ | rfl
  · cases hCall
    obtain ⟨request, serves, allowed⟩ := Runs.allowed (handle_obeys state) run step
    cases request with
    | createAdmin args =>
        exact .inl ⟨k, hk, i, args, _, _, _, _, columns, serves, ⟨draw, step⟩, hId⟩
    | googleCallback q =>
        obtain ⟨⟨hFlag, profile, exchanged, hProfile, _⟩, _⟩ := allowed
        obtain ⟨l, _, draw', exchange⟩ := run.executed_of_past exchanged
        refine .inr (.inr ⟨profile.emailVerified, k, hk, i, q, passwordHash, displayName, roleId,
          columns, l, draw', profile, serves, exchange, ⟨draw, ?_⟩, hId, hProfile.symm, rfl⟩)
        rwa [← hProfile, ← hFlag]
    | register body => simp [Allowed, Creates] at allowed
    | _ => exact allowed.1.elim
  · obtain ⟨_, serves, q, rfl, saw⟩ := Runs.allowed (handle_obeys state) run step
    obtain ⟨l, hl, draw', consumed⟩ := run.executed_of_past saw
    have hConsumed : TokenKind.emailVerification.Consumed pool l i draw' (sha256Hex q.token) row.id :=
      consumed
    obtain ⟨expiresAt, _, m, hm, j, stored, _⟩ := hConsumed.provenance run
    exact .inr (.inl ⟨l, Nat.lt_trans hl hk, i, q, draw', expiresAt, serves, hConsumed, m, hm, j,
      stored⟩)

/-- In the runs whose callbacks create users from confirmed profiles only,
every confirmed address has a proof of ownership, at every moment. -/
theorem emailVerified_proved (run : ServerRun state migrated pool)
    (confirmed : ConfirmedProfiles pool) {row : UserRow}
    (hMem : row ∈ (pool.storeAt t).users.rows) (hEmail : row.email.isSome)
    (hVerified : row.emailVerified = true) :
    ByAdmin pool t row.id ∨ ByToken pool t row.id ∨
      ByProfile pool t row.id row.email (some true) := by
  rcases run.email_provenance hMem hEmail hVerified with admin | token | ⟨verified, profile⟩
  · exact .inl admin
  · exact .inr (.inl token)
  · obtain ⟨k, hk, i, q, passwordHash, displayName, roleId, columns, l, draw, profile, serves,
      exchange, did, hId, hSame, hProfile⟩ := profile
    rcases confirmed k i q _ _ _ columns l draw profile serves exchange did with hNone | hTrue
    · simp [← hSame, hNone] at hEmail
    · exact .inr (.inr ⟨k, hk, i, q, _, _, _, columns, l, draw, profile, serves, exchange, did, hId,
        hSame, hTrue⟩)

end Provenance

/-! ### Runs of the reference instance -/

section Runs

attribute [local instance] reference

/-- A first sign-in with this profile. -/
def firstSignIn (profile : GoogleProfile) : ServerPool :=
  Pool.play answer (handle exampleState) migrated
    ([.arrive (.googleCallback ⟨"code", none⟩), exchange 0 0 profile] ++ steps 0 1 9)

def profileWith (emailVerified : Option Bool) : GoogleProfile :=
  { sub := "1001", email := some "user@example.org", emailVerified, name := none, picture := none }

theorem serves_mem {pool : ServerPool} {i : Nat} {request : Request}
    (serves : pool.Serves i request) : request ∈ pool.clients.map Client.request := by
  apply List.mem_of_getElem? (i := i)
  rw [List.getElem?_map]
  exact serves

/-- Callbacks alone, whose profiles are not verified, prove nothing. -/
theorem no_proof {pool : ServerPool} {q : OAuthCallbackQuery} (t : Nat) (userId : Uuid)
    (email : Option String) (hClients : pool.clients.map Client.request = [.googleCallback q])
    (hProfiles : (pool.log.all fun event =>
      event.draw.profile.toOption.all fun profile => profile.emailVerified != some true) = true) :
    ¬ByAdmin pool t userId ∧ ¬ByToken pool t userId ∧ ¬ByProfile pool t userId email (some true) := by
  refine ⟨?_, ?_, ?_⟩
  · rintro ⟨_, _, i, args, _, _, _, _, _, serves, _⟩
    simpa [hClients] using serves_mem serves
  · rintro ⟨_, _, i, q', _, _, serves, _⟩
    simpa [hClients] using serves_mem serves
  · rintro ⟨_, _, _, _, _, _, _, _, _, _, profile, _, step, _, _, _, hTrue⟩
    simpa [hTrue] using exchange_profile hProfiles step

theorem confirmed_of_log {pool : ServerPool} (h : (pool.log.all fun event =>
      event.draw.profile.toOption.all fun profile => profile.emailVerified == some true) = true) :
    ConfirmedProfiles pool := by
  intro k i q _ _ _ _ l draw profile _ step _
  exact .inr (by simpa using exchange_profile h step)

/-- The first user row of a store, when its address is confirmed. -/
def confirmedRow (db : Db) : Option UserRow :=
  db.users.find fun row => row.email == some "user@example.org" && row.emailVerified

theorem confirmedRow_eq {db : Db} {row : UserRow} (h : confirmedRow db = some row) :
    row ∈ db.users.rows ∧ row.email = some "user@example.org" ∧ row.emailVerified = true := by
  obtain ⟨hMem, hRow⟩ := Table.mem_of_find h
  exact ⟨hMem, by simpa using hRow⟩

def unverifiedSignIn : ServerPool := firstSignIn (profileWith (some false))

/-- A profile whose address the provider calls unverified creates an account with
a confirmed address, for which there is no proof at all. -/
theorem unverified_profile_confirms : ∃ (pool : ServerPool) (t : Nat),
    ServerRun exampleState migrated pool ∧ FreshDraws pool ∧
    ∃ row ∈ (pool.storeAt t).users.rows, row.email = some "user@example.org" ∧
      row.emailVerified = true ∧ ¬ByAdmin pool t row.id ∧ ¬ByToken pool t row.id ∧
      ¬ByProfile pool t row.id row.email (some true) := by
  have found : (confirmedRow (unverifiedSignIn.storeAt 10)).isSome = true := by decide +kernel
  obtain ⟨row, hRow⟩ := Option.isSome_iff_exists.mp found
  obtain ⟨hMem, hEmail, hVerified⟩ := confirmedRow_eq hRow
  have only : unverifiedSignIn.clients.map Client.request = [.googleCallback ⟨"code", none⟩] := by
    decide +kernel
  exact ⟨unverifiedSignIn, 10, Runs.play _, by decide +kernel, row, hMem, hEmail, hVerified,
    no_proof 10 row.id row.email only (by decide +kernel)⟩

def verifiedSignIn : ServerPool := firstSignIn (profileWith (some true))

/-- The hypotheses hold of a sign-in with a verified profile. -/
theorem emailVerified_proved_signIn : ∃ row ∈ (verifiedSignIn.storeAt 10).users.rows,
    row.emailVerified = true ∧ (ByAdmin verifiedSignIn 10 row.id ∨ ByToken verifiedSignIn 10 row.id ∨
      ByProfile verifiedSignIn 10 row.id row.email (some true)) := by
  have run : ServerRun exampleState migrated verifiedSignIn := Runs.play _
  have found : (confirmedRow (verifiedSignIn.storeAt 10)).isSome = true := by decide +kernel
  obtain ⟨row, hRow⟩ := Option.isSome_iff_exists.mp found
  obtain ⟨hMem, hEmail, hVerified⟩ := confirmedRow_eq hRow
  have hProved := emailVerified_proved run (confirmed_of_log (by decide +kernel)) hMem
    (by simp [hEmail]) hVerified
  exact ⟨row, hMem, hVerified, hProved⟩

end Runs

end GenericAuth
