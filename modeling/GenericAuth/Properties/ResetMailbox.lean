import GenericAuth.Api.Recovery
import GenericAuth.Api.Run
import GenericAuth.Auth.Reference

/-! Where the mail with a reset link goes. The account is found by an address that
the database compares without case, and the mail goes to the address as it was
typed, not as it is stored. -/
namespace GenericAuth

open Interaction Relational

/-- Addressees and texts of the mails that were handed over. -/
def mailsIn (calls : Calls) : List (String × String) :=
  calls.filterMap fun call =>
    match call.op with
    | .sendMail toEmail _ body => some (toEmail, body)
    | _ => none

/-- The token of the link, from the second and the third draw. -/
def linkToken (draws : Stream' Draw) : String :=
  hexEncode (draws.get 1).uuid ++ hexEncode (draws.get 2).uuid

section Mailbox

variable [External] {state : AppState} {draws : Stream' Draw} {db : Db} {row : UserRow}
    {email : String} {found : UserSecretRecord} {instant : OffsetDateTime}

/-! ### Storing the token -/

/-- Neither the token nor the id of its row was drawn before. -/
def Db.NewReset (db : Db) (draws : Stream' Draw) : Prop :=
  ∀ stored ∈ db.passwordResetTokens.rows, stored.id ≠ (draws.get 4).uuid ∧
    stored.tokenHash ≠ sha256Hex (linkToken draws)

instance (db : Db) (draws : Stream' Draw) : Decidable (db.NewReset draws) :=
  inferInstanceAs (Decidable (∀ _ ∈ _, _))

/-- One token is stored: this one, for this user. -/
def StoredLink (before after : Db) (userId : Uuid) (token : String) : Prop :=
  ∃ new : OneTimeTokenRow, after.passwordResetTokens.rows = before.passwordResetTokens.rows ++ [new] ∧
    new.userId = userId ∧ new.tokenHash = sha256Hex token ∧ new.usedAt = none

theorem not_storedLink {userId : Uuid} {token : String} : ¬StoredLink db db userId token := by
  rintro ⟨new, hRows, _⟩
  simpa using congrArg List.length hRows

theorem storePasswordResetToken_new {draw : Draw} {userId : Uuid} {token : String}
    (instant : OffsetDateTime)
    (hUser : db.hasUser userId = true) (fresh : ∀ stored ∈ db.passwordResetTokens.rows,
      stored.id ≠ draw.uuid ∧ stored.tokenHash ≠ sha256Hex token) :
    ∃ after, db.storePasswordResetToken draw userId (sha256Hex token) instant = (.ok (), after) ∧
      StoredLink db after userId token := by
  have free : ∀ stored ∈ db.passwordResetTokens.rows, stored.clash
      { id := draw.uuid, userId, tokenHash := sha256Hex token, expiresAt := instant,
        usedAt := none, createdAt := draw.dbNow } = false := by
    intro stored hMem
    simp [OneTimeTokenRow.clash, fresh stored hMem]
  have untaken : (db.passwordResetTokens.rows.any fun stored =>
      stored.tokenHash == sha256Hex token) = false := by
    simpa using fun stored hMem => (fresh stored hMem).2
  obtain ⟨table, inserted⟩ := Table.insert_of_free free
  refine ⟨{ db with passwordResetTokens := table }, ?_, _, Table.insert_rows inserted, rfl, rfl, rfl⟩
  simp [Db.storePasswordResetToken, Db.storeOneTimeToken, untaken, inserted, hUser]

/-- Otherwise the statement does nothing, or fails. -/
theorem storePasswordResetToken_stale {draw : Draw} {token : String} (userId : Uuid)
    (instant : OffsetDateTime)
    (stale : ¬∀ stored ∈ db.passwordResetTokens.rows,
      stored.id ≠ draw.uuid ∧ stored.tokenHash ≠ sha256Hex token) :
    (db.storePasswordResetToken draw userId (sha256Hex token) instant).2 = db := by
  simp only [Db.storePasswordResetToken, Db.storeOneTimeToken]
  split
  · rfl
  · next untaken =>
      split
      · rfl
      · next inserted =>
          refine absurd (fun stored hMem => ?_) stale
          have free := Table.free_of_insert inserted stored hMem
          simpa [OneTimeTokenRow.clash] using free

/-! ### The request -/

/-- Nothing is stored and nothing is mailed. -/
def NothingDone (state : AppState) (db : Db) (email : String) (draws : Stream' Draw) : Prop :=
  storeAfter (handle state (.forgotPassword ⟨email⟩)) draws db = db ∧
    mailsIn (callsOf (handle state (.forgotPassword ⟨email⟩)) draws db) = []

/-- One token is stored for the user, and one mail with it goes to the address. -/
def LinkMailed (state : AppState) (db : Db) (email : String) (draws : Stream' Draw) (userId : Uuid)
    (address : String) : Prop :=
  ∃ token, StoredLink db (storeAfter (handle state (.forgotPassword ⟨email⟩)) draws db) userId token ∧
    mailsIn (callsOf (handle state (.forgotPassword ⟨email⟩)) draws db) =
      [(address, resetText (resetLink state token))]

theorem forgot_unknown (hFault : draws.head.fault = none) (hFree : db.findByEmail email = none) :
    NothingDone state db email draws := by
  simp [NothingDone, storeAfter, callsOf, handle, forgotPassword, requestPasswordReset,
    passwordResetPort, ExceptT.run_bind, answer_sql hFault, Db.exec, hFree, Program.trace, mailsIn]

theorem forgot_passwordless (hFault : draws.head.fault = none)
    (hFound : db.findByEmail email = some found) (hHash : found.passwordHash = none) :
    NothingDone state db email draws := by
  simp [NothingDone, storeAfter, callsOf, handle, forgotPassword, requestPasswordReset,
    passwordResetPort, ExceptT.run_bind, answer_sql hFault, Db.exec, hFound, Program.trace, mailsIn,
    UserSecretRecord.toUserWithSecret, hHash]

/-- A token is stored and mailed to the address of the request. -/
theorem forgot_mails (hFaults : ∀ n, (draws.get n).fault = none)
    (hFound : db.findByEmail email = some found) (hHash : found.passwordHash.isSome)
    (hUser : db.hasUser found.id = true) (hDeadline : ¬LinkOverflows (draws.get 3))
    (fresh : db.NewReset draws) : LinkMailed state db email draws found.id email := by
  obtain ⟨phc, hHash⟩ := Option.isSome_iff_exists.mp hHash
  cases hInstant : deadline (draws.get 3).now (TDuration.hours 1) with
  | error stop => exact absurd (by simp [LinkOverflows, hInstant, Except.toOption]) hDeadline
  | ok instant =>
      obtain ⟨after, hStored, link⟩ := storePasswordResetToken_new instant hUser fresh
      rw [linkToken] at hStored
      refine ⟨linkToken draws, ?_, ?_⟩
      · rwa [forgot_store state hFaults hFound hHash hInstant, hStored]
      · simp [callsOf, handle, forgotPassword, requestPasswordReset, passwordResetPort,
          sendPasswordResetEmail, ExceptT.run_bind, answer_sql, hFaults, Db.exec, hFound,
          UserSecretRecord.toUserWithSecret, UserRecord.toUser, hHash, hInstant, hStored,
          Program.trace]
        rfl

/-- Nothing is stored when the link would outlast the calendar, or was drawn before. -/
theorem forgot_unstored (hFaults : ∀ n, (draws.get n).fault = none)
    (hFound : db.findByEmail email = some found)
    (h : LinkOverflows (draws.get 3) ∨ ¬db.NewReset draws) :
    storeAfter (handle state (.forgotPassword ⟨email⟩)) draws db = db := by
  cases hHash : found.passwordHash with
  | none => exact (forgot_passwordless (hFaults 0) hFound hHash).1
  | some phc =>
      cases hInstant : deadline (draws.get 3).now (TDuration.hours 1) with
      | error stop =>
          obtain ⟨message, rfl⟩ := deadline_panics hInstant
          simp [storeAfter, handle, forgotPassword, requestPasswordReset, passwordResetPort,
            ExceptT.run_bind, answer_sql, hFaults, Db.exec, hFound,
            UserSecretRecord.toUserWithSecret, hHash, hInstant]
      | ok instant =>
          have stale : ¬db.NewReset draws :=
            h.resolve_left (by simp [LinkOverflows, hInstant, Except.toOption])
          rw [forgot_store state hFaults hFound hHash hInstant]
          exact storePasswordResetToken_stale found.id instant stale

/-- The link goes to the mailbox of the account, and nothing happens without an
account that has a password. -/
def ResetDelivered (state : AppState) (db : Db) (email : String) (draws : Stream' Draw) : Prop :=
  (∀ row ∈ db.users.rows, sameEmail row.email (some email) = true → row.passwordHash.isSome →
    ∃ address, row.email = some address ∧ LinkMailed state db email draws row.id address) ∧
  ((∀ row ∈ db.users.rows, sameEmail row.email (some email) = true → row.passwordHash = none) →
    NothingDone state db email draws)

/-- A link that was stored and mailed went to the address of the request. -/
theorem LinkMailed.address {userId : Uuid} {address : String} (hFaults : ∀ n, (draws.get n).fault = none)
    (hFound : db.findByEmail email = some found) (hHash : found.passwordHash.isSome)
    (hUser : db.hasUser found.id = true) (mailed : LinkMailed state db email draws userId address) :
    address = email ∧ ¬LinkOverflows (draws.get 3) ∧ db.NewReset draws := by
  obtain ⟨token, link, hMail⟩ := mailed
  have stored : ¬(LinkOverflows (draws.get 3) ∨ ¬db.NewReset draws) := by
    intro unstored
    rw [forgot_unstored hFaults hFound unstored] at link
    exact not_storedLink link
  obtain ⟨hDeadline, fresh⟩ := not_or.mp stored
  have fresh := not_not.mp fresh
  have delivered : LinkMailed state db email draws found.id email :=
    forgot_mails hFaults hFound hHash hUser hDeadline fresh
  obtain ⟨token', _, hMail'⟩ := delivered
  rw [hMail'] at hMail
  exact ⟨(Prod.mk.inj (List.cons.inj hMail).1).1.symm, hDeadline, fresh⟩

/-- Without a failure a reset link is delivered exactly if the address was typed as
it is stored (and the link can be stored at all). -/
theorem reset_delivered_iff {pool : ServerPool} (run : ServerRun state migrated pool)
    (hFaults : ∀ n, (draws.get n).fault = none) :
    ResetDelivered state pool.store email draws ↔
      ∀ row ∈ pool.store.users.rows, sameEmail row.email (some email) = true →
        row.passwordHash.isSome →
        row.email = some email ∧ ¬LinkOverflows (draws.get 3) ∧ pool.store.NewReset draws := by
  constructor
  · rintro ⟨delivered, _⟩ row hMem hEmail hHash
    obtain ⟨found, hFound, hColumns, hSame, _⟩ := run.references.findByEmail hMem hEmail
    obtain ⟨address, hAddress, mailed⟩ := delivered row hMem hEmail hHash
    have hUser : pool.store.hasUser found.id = true :=
      hasUser_iff.mpr ⟨row, hMem, (congrArg UserColumns.id hColumns).symm⟩
    obtain ⟨rfl, stored⟩ := mailed.address hFaults hFound (hSame ▸ hHash) hUser
    exact ⟨hAddress, stored⟩
  · intro h
    constructor
    · intro row hMem hEmail hHash
      obtain ⟨hAddress, hDeadline, fresh⟩ := h row hMem hEmail hHash
      obtain ⟨found, hFound, hColumns, hSame, _⟩ := run.references.findByEmail hMem hEmail
      have hId : found.id = row.id := congrArg UserColumns.id hColumns
      have hUser : pool.store.hasUser found.id = true := hasUser_iff.mpr ⟨row, hMem, hId.symm⟩
      refine ⟨email, hAddress, ?_⟩
      rw [← hId]
      exact forgot_mails hFaults hFound (hSame ▸ hHash) hUser hDeadline fresh
    · intro passwordless
      cases hFound : pool.store.findByEmail email with
      | none => exact forgot_unknown (hFaults 0) hFound
      | some found =>
          obtain ⟨row, hMem, hEmail, _, hSame⟩ := findByEmail_db hFound
          exact forgot_passwordless (hFaults 0) hFound (hSame.trans (passwordless row hMem hEmail))

end Mailbox

/-! ### Runs of the reference instance -/

section Runs

attribute [local instance] reference

theorem reset_delivered_as_stored :
    ResetDelivered exampleState registered.store "user@example.org" (moments 20) :=
  (reset_delivered_iff registered_run fun _ => rfl).mpr (by decide +kernel)

end Runs

section Folding

/-- The reference instance, with addresses compared without case. -/
@[reducible] def folding : External :=
  { reference with lower := fun email => .ofList (email.toList.map Char.toLower) }

attribute [local instance] folding

/-- A user has registered as `user@example.org`. -/
def lowerCased : ServerPool :=
  Pool.play answer (handle exampleState) migrated registration

/-- The link for an account goes to an address that is not the account's. -/
theorem reset_link_strays : ∃ (pool : ServerPool) (email : String) (draws : Stream' Draw),
    ServerRun exampleState migrated pool ∧ (∀ n, (draws.get n).fault = none) ∧
    pool.store.NewReset draws ∧ ¬LinkOverflows (draws.get 3) ∧
    (∃ row ∈ pool.store.users.rows, sameEmail row.email (some email) = true ∧
      row.passwordHash.isSome ∧ row.email = some "user@example.org") ∧
    (mailsIn (callsOf (handle exampleState (.forgotPassword ⟨email⟩)) draws pool.store)).map
      Prod.fst = ["USER@EXAMPLE.ORG"] ∧
    ¬ResetDelivered exampleState pool.store email draws := by
  have row : ∃ row ∈ lowerCased.store.users.rows,
      sameEmail row.email (some "USER@EXAMPLE.ORG") = true ∧ row.passwordHash.isSome ∧
        row.email = some "user@example.org" := by decide +kernel
  have mails : (mailsIn (callsOf (handle exampleState (.forgotPassword ⟨"USER@EXAMPLE.ORG"⟩))
      (moments 20) lowerCased.store)).map Prod.fst = ["USER@EXAMPLE.ORG"] := by decide +kernel
  refine ⟨lowerCased, "USER@EXAMPLE.ORG", moments 20, Runs.play _, fun _ => rfl, by decide +kernel,
    by decide +kernel, row, mails, ?_⟩
  rintro ⟨delivered, _⟩
  obtain ⟨row, hMem, hEmail, hHash, hStored⟩ := row
  obtain ⟨address, hAddress, token, _, hMail⟩ := delivered row hMem hEmail hHash
  rw [hMail] at mails
  rw [hStored] at hAddress
  cases hAddress
  simp at mails

end Folding

end GenericAuth
