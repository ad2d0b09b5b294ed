import GenericAuth.Properties.OneTimeTokens

/-! Used tokens and their effect. A token is used first and takes effect
afterwards, statement by statement, so a request that fails in between has used
its token up. A request that succeeds has had its whole effect. -/
namespace GenericAuth

open Interaction Relational

section Effects

variable [External] {state : AppState} {pool : ServerPool} {kind : TokenKind} {draws : Stream' Draw}
    {db : Db}

/-! ### Who used a token -/

/-- There is no hash of the password with the salt that was drawn. -/
def HashFails (calls : Calls) (plain : String) : Prop :=
  ∃ salt e, (⟨.saltGenerate, salt⟩ : Call Op Op.Reply) ∈ calls ∧
    External.argon2Hash plain salt = .error e

/-- How far a failed reset has come. -/
def ResetWrites (body : ResetPasswordReq) (calls : Calls) : Outcome → Prop
  | .error _ => writes calls = [] ∨ ∃ userId,
      writes calls = [⟨.sql (.consumePasswordResetToken (sha256Hex body.token)), .ok (some userId)⟩] ∧
        (HashFails calls body.newPassword ∨
          ∃ phc, HashOf calls body.newPassword phc ∧ Failed calls (.updatePasswordHash phc userId)) ∨
      ∃ phc, HashOf calls body.newPassword phc ∧ writes calls =
          [⟨.sql (.consumePasswordResetToken (sha256Hex body.token)), .ok (some userId)⟩,
            ⟨.sql (.updatePasswordHash phc userId), .ok ()⟩] ∧
        Failed calls (.revokeAllRefreshTokens userId)
  | .ok _ => True

theorem ResetPasswordCourse.writes {body : ResetPasswordReq} {calls : Calls} {outcome : Outcome}
    (course : ResetPasswordCourse body calls outcome) : ResetWrites body calls outcome := by
  cases course with
  | invalid | failed | unknown => exact .inl (by simp [wrote])
  | unhashed valid userId h =>
      exact .inr ⟨userId, .inl ⟨by simp [wrote], .inl ⟨_, _, by simp, h⟩⟩⟩
  | notUpdated valid userId hashed error =>
      exact .inr ⟨userId, .inl ⟨by simp [wrote],
        .inr ⟨_, ⟨_, by simp, hashed⟩, error, by simp⟩⟩⟩
  | notRevoked valid userId hashed error =>
      exact .inr ⟨userId, .inr ⟨_, ⟨_, by simp, hashed⟩, by simp [wrote], error, by simp⟩⟩
  | reset => trivial

/-- How far a failed verification has come. -/
def VerifyWrites (q : VerifyEmailQuery) (calls : Calls) : Outcome → Prop
  | .error _ => writes calls = [] ∨ ∃ userId,
      writes calls = [⟨.sql (.consumeEmailVerificationToken (sha256Hex q.token)), .ok (some userId)⟩] ∧
        Failed calls (.markEmailVerified userId)
  | .ok _ => True

theorem VerifyEmailCourse.writes {q : VerifyEmailQuery} {calls : Calls} {outcome : Outcome}
    (course : VerifyEmailCourse q calls outcome) : VerifyWrites q calls outcome := by
  cases course with
  | failed | unknown => exact .inl (by simp [wrote])
  | notMarked userId error => exact .inr ⟨userId, by simp [wrote], error, by simp⟩
  | marked => trivial

end Effects

/-! ### Runs of the reference instance -/

section Runs

attribute [local instance] reference

end Runs

end GenericAuth
