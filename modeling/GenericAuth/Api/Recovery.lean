import GenericAuth.Api.Alone

/-! Password resets that are executed alone. A reset that succeeds has made three
writes, and whether it succeeds is decided by the row of the presented token. -/
namespace GenericAuth

open Interaction Relational

variable [External] {state : AppState} {body : ResetPasswordReq} {draws : Stream' Draw} {db : Db}

/-- A reset link would outlast the calendar. -/
def LinkOverflows (draw : Draw) : Prop :=
  (deadline draw.now (TDuration.hours 1)).toOption = none

instance (draw : Draw) : Decidable (LinkOverflows draw) :=
  inferInstanceAs (Decidable (_ = _))

/-- The token is consumed, then the password replaced, then the sessions revoked. -/
def ResetDone (body : ResetPasswordReq) (calls : Calls) : Outcome → Prop
  | .error _ => True
  | .ok payload => payload = .empty ∧ ∃ userId salt phc,
      External.argon2Hash body.newPassword salt = .ok phc ∧ writes calls =
        [⟨.sql (.consumePasswordResetToken (sha256Hex body.token)), .ok (some userId)⟩,
          ⟨.sql (.updatePasswordHash phc userId), .ok ()⟩,
          ⟨.sql (.revokeAllRefreshTokens userId), .ok ()⟩]

theorem ResetPasswordCourse.done {calls : Calls} {outcome : Outcome}
    (course : ResetPasswordCourse body calls outcome) : ResetDone body calls outcome := by
  cases course with
  | @reset _ userId salt phc hashed =>
      exact ⟨rfl, userId, salt, phc, hashed, by simp [wrote]⟩
  | _ => trivial

theorem resetPassword_done (state : AppState) (body : ResetPasswordReq) (draws : Stream' Draw)
    (db : Db) : ResetDone body (callsOf (handle state (.resetPassword body)) draws db)
      (outcomeOf (handle state (.resetPassword body)) draws db) :=
  ResetPasswordCourse.done (course_alone state (.resetPassword body) draws db)

/-- The token is stored, unused and in time. -/
def Db.Consumable (db : Db) (draw : Draw) (tokenHash : String) : Prop :=
  ∃ row ∈ db.passwordResetTokens.rows, row.tokenHash = tokenHash ∧ row.usedAt = none ∧
    draw.dbNow < row.expiresAt

theorem not_consumable {draw : Draw} {tokenHash : String} :
    (db.consumePasswordResetToken draw tokenHash).1 = none ↔ ¬db.Consumable draw tokenHash := by
  simp [Db.consumePasswordResetToken, Db.consumeOneTimeToken, Table.find, Db.consumable, Db.Consumable]

/-- What a reset of this user's password makes of the store. -/
def Db.reset (db : Db) (draw draw' draw'' : Draw) (tokenHash phc : String) (userId : Uuid) : Db :=
  ((db.consumePasswordResetToken draw tokenHash).2.updatePasswordHash draw' phc
    userId).revokeAllRefreshTokens draw'' userId

/-- A successful reset hits the owner of a token that could be consumed. -/
theorem reset_ok {payload : Payload}
    (h : outcomeOf (handle state (.resetPassword body)) draws db = .ok payload) :
    payload = .empty ∧ ∃ draw draw' draw'' userId salt phc,
      External.argon2Hash body.newPassword salt = .ok phc ∧
      (db.consumePasswordResetToken draw (sha256Hex body.token)).1 = some userId ∧
      storeAfter (handle state (.resetPassword body)) draws db =
        db.reset draw draw' draw'' (sha256Hex body.token) phc userId := by
  have done := resetPassword_done state body draws db
  have traced := traced_writes (handle state (.resetPassword body)) draws db
  rw [h] at done
  obtain ⟨hPayload, userId, salt, phc, hHash, hWrites⟩ := done
  rw [hWrites] at traced
  obtain ⟨draw, used, hConsume, rest⟩ := traced.of_cons
  obtain ⟨draw', updated, hUpdate, rest⟩ := rest.of_cons
  obtain ⟨draw'', revoked, hRevoke, rest⟩ := rest.of_cons
  obtain ⟨hUser, rfl⟩ := Prod.mk.inj (exec_of_answer hConsume)
  obtain ⟨-, rfl⟩ := Prod.mk.inj (exec_of_answer hUpdate)
  obtain ⟨-, rfl⟩ := Prod.mk.inj (exec_of_answer hRevoke)
  exact ⟨hPayload, draw, draw', draw'', userId, salt, phc, hHash, Except.ok.inj hUser,
    rest.eq_of_nil⟩

/-- A token that cannot be consumed is rejected, and nothing is written. -/
theorem reset_rejected (h : ¬db.Consumable (draws.get 0) (sha256Hex body.token)) :
    (∃ stop, outcomeOf (handle state (.resetPassword body)) draws db = .error stop) ∧
      storeAfter (handle state (.resetPassword body)) draws db = db := by
  have hNone := not_consumable.mpr h
  have same : (db.consumePasswordResetToken (draws.get 0) (sha256Hex body.token)).2 = db := by
    simp only [Db.consumePasswordResetToken] at hNone ⊢
    rw [consumeOneTimeToken_none hNone]
  have hAnswer : (∃ error, answer (draws.get 0) db
        (.sql (.consumePasswordResetToken (sha256Hex body.token))) = (.error error, db)) ∨
      answer (draws.get 0) db (.sql (.consumePasswordResetToken (sha256Hex body.token))) =
        (.ok none, db) := by
    cases hFault : (draws.get 0).fault with
    | some error => exact .inl ⟨error, answer_of_fault hFault _⟩
    | none =>
        refine .inr ?_
        rw [answer_sql hFault, Db.exec, hNone, same]
  cases hValid : body.validate.isEmpty with
  | false =>
      simp [outcomeOf, storeAfter, handle, resetPassword, performPasswordReset, ExceptT.run_bind,
        hValid]
  | true =>
      rcases hAnswer with ⟨error, hAnswer⟩ | hAnswer <;>
        simp [outcomeOf, storeAfter, handle, resetPassword, performPasswordReset, passwordResetPort,
          ExceptT.run_bind, hValid, hAnswer]

/-- A token that can be consumed is accepted when nothing fails. -/
theorem reset_accepted (hValid : body.validate = []) (hFault : ∀ n, (draws.get n).fault = none)
    (hHashes : ∃ phc, External.argon2Hash body.newPassword (draws.get 1).salt = .ok phc)
    (h : db.Consumable (draws.get 0) (sha256Hex body.token)) :
    outcomeOf (handle state (.resetPassword body)) draws db = .ok .empty := by
  obtain ⟨phc, hHash⟩ := hHashes
  have hSome : (db.consumePasswordResetToken (draws.get 0) (sha256Hex body.token)).1 ≠ none :=
    fun hNone => not_consumable.mp hNone h
  obtain ⟨userId, hUser⟩ := Option.ne_none_iff_exists'.mp hSome
  simp [outcomeOf, handle, resetPassword, performPasswordReset, passwordResetPort, ExceptT.run_bind,
    hValid, answer_sql, hFault, Db.exec, hUser, hHash]

/-! ### Requests for a reset -/

/-- For an account with a password the store is the one that the link is stored in,
whether the mail is sent or not. -/
theorem forgot_store (state : AppState) {email phc : String} {found : UserSecretRecord}
    {instant : OffsetDateTime} (hFaults : ∀ n, (draws.get n).fault = none)
    (hFound : db.findByEmail email = some found) (hHash : found.passwordHash = some phc)
    (hInstant : deadline (draws.get 3).now (TDuration.hours 1) = .ok instant) :
    storeAfter (handle state (.forgotPassword ⟨email⟩)) draws db =
      (db.storePasswordResetToken (draws.get 4) found.id (sha256Hex
        (hexEncode (draws.get 1).uuid ++ hexEncode (draws.get 2).uuid)) instant).2 := by
  simp [storeAfter, handle, forgotPassword, requestPasswordReset, passwordResetPort,
    ExceptT.run_bind, answer_sql, hFaults, Db.exec, hFound, UserSecretRecord.toUserWithSecret,
    UserRecord.toUser, hHash, hInstant]
  rcases db.storePasswordResetToken (draws.get 4) found.id (sha256Hex
      (hexEncode (draws.get 1).uuid ++ hexEncode (draws.get 2).uuid)) instant with
    ⟨error | rows, after⟩
  · simp
  · simp [sendPasswordResetEmail]

end GenericAuth
