import GenericAuth.Db.Effect

/-! What stays true of a row from one step to the next. No statement deletes a
row or changes whom it belongs to, and no token is given back. -/
namespace GenericAuth

open Relational

/-- Passwords, roles and the active flag may change in either direction, so they do
not appear here. -/
structure UserRow.Later (old new : UserRow) : Prop where
  id : new.id = old.id
  email : new.email = old.email
  emailVerified : old.emailVerified = true → new.emailVerified = true

/-- A subject stays bound to its user. -/
structure OAuthIdentityRow.Later (old new : OAuthIdentityRow) : Prop where
  userId : new.userId = old.userId
  provider : new.provider = old.provider
  subject : new.subject = old.subject

/-- A revoked session stays revoked, though the date may be replaced. -/
structure RefreshTokenRow.Later (old new : RefreshTokenRow) : Prop where
  userId : new.userId = old.userId
  tokenHash : new.tokenHash = old.tokenHash
  expiresAt : new.expiresAt = old.expiresAt
  revokedAt : old.revokedAt.isSome → new.revokedAt.isSome

/-- A used token stays used, with its date. -/
structure OneTimeTokenRow.Later (old new : OneTimeTokenRow) : Prop where
  userId : new.userId = old.userId
  tokenHash : new.tokenHash = old.tokenHash
  expiresAt : new.expiresAt = old.expiresAt
  usedAt : old.usedAt.isSome → new.usedAt = old.usedAt

theorem UserRow.Later.refl (row : UserRow) : row.Later row := ⟨rfl, rfl, fun h => h⟩

theorem OAuthIdentityRow.Later.refl (row : OAuthIdentityRow) : row.Later row := ⟨rfl, rfl, rfl⟩

theorem RefreshTokenRow.Later.refl (row : RefreshTokenRow) : row.Later row :=
  ⟨rfl, rfl, rfl, fun h => h⟩

theorem OneTimeTokenRow.Later.refl (row : OneTimeTokenRow) : row.Later row :=
  ⟨rfl, rfl, rfl, fun _ => rfl⟩

theorem UserRow.Later.trans (first second third : UserRow) (early : first.Later second)
    (late : second.Later third) : first.Later third where
  id := late.id.trans early.id
  email := late.email.trans early.email
  emailVerified := late.emailVerified ∘ early.emailVerified

theorem OAuthIdentityRow.Later.trans (first second third : OAuthIdentityRow)
    (early : first.Later second) (late : second.Later third) : first.Later third where
  userId := late.userId.trans early.userId
  provider := late.provider.trans early.provider
  subject := late.subject.trans early.subject

theorem RefreshTokenRow.Later.trans (first second third : RefreshTokenRow)
    (early : first.Later second) (late : second.Later third) : first.Later third where
  userId := late.userId.trans early.userId
  tokenHash := late.tokenHash.trans early.tokenHash
  expiresAt := late.expiresAt.trans early.expiresAt
  revokedAt := late.revokedAt ∘ early.revokedAt

theorem OneTimeTokenRow.Later.trans (first second third : OneTimeTokenRow)
    (early : first.Later second) (late : second.Later third) : first.Later third where
  userId := late.userId.trans early.userId
  tokenHash := late.tokenHash.trans early.tokenHash
  expiresAt := late.expiresAt.trans early.expiresAt
  usedAt h := (late.usedAt (early.usedAt h ▸ h)).trans (early.usedAt h)

section Tables

variable [External] {draw : Draw} {db db' : Db} {op : Op} {reply : op.Reply}

/-- What no operation undoes. -/
structure Db.Later (before after : Db) : Prop where
  roles : after.roles = before.roles
  permissions : after.permissions = before.permissions
  rolePermissions : after.rolePermissions = before.rolePermissions
  users : Table.Evolves UserRow.Later before.users after.users
  oauthIdentities :
    Table.Evolves OAuthIdentityRow.Later before.oauthIdentities after.oauthIdentities
  refreshTokens : Table.Evolves RefreshTokenRow.Later before.refreshTokens after.refreshTokens
  emailVerificationTokens : Table.Evolves OneTimeTokenRow.Later before.emailVerificationTokens
    after.emailVerificationTokens
  passwordResetTokens :
    Table.Evolves OneTimeTokenRow.Later before.passwordResetTokens after.passwordResetTokens

theorem Db.Later.refl (db : Db) : db.Later db where
  roles := rfl
  permissions := rfl
  rolePermissions := rfl
  users := .refl UserRow.Later.refl _
  oauthIdentities := .refl OAuthIdentityRow.Later.refl _
  refreshTokens := .refl RefreshTokenRow.Later.refl _
  emailVerificationTokens := .refl OneTimeTokenRow.Later.refl _
  passwordResetTokens := .refl OneTimeTokenRow.Later.refl _

theorem Db.Later.trans (first second third : Db) (early : first.Later second)
    (late : second.Later third) : first.Later third where
  roles := late.roles.trans early.roles
  permissions := late.permissions.trans early.permissions
  rolePermissions := late.rolePermissions.trans early.rolePermissions
  users := early.users.trans UserRow.Later.trans late.users
  oauthIdentities := early.oauthIdentities.trans OAuthIdentityRow.Later.trans late.oauthIdentities
  refreshTokens := early.refreshTokens.trans RefreshTokenRow.Later.trans late.refreshTokens
  emailVerificationTokens :=
    early.emailVerificationTokens.trans OneTimeTokenRow.Later.trans late.emailVerificationTokens
  passwordResetTokens :=
    early.passwordResetTokens.trans OneTimeTokenRow.Later.trans late.passwordResetTokens

omit [External] in
/-- Only an unused token is consumed, so that no date of use is overwritten. -/
theorem consumable_later {draw : Draw} {tokenHash : String} {row : OneTimeTokenRow}
    (h : Db.consumable draw tokenHash row = true) :
    row.Later { row with usedAt := some draw.dbNow } := by
  simp only [Db.consumable, Bool.and_eq_true, Option.isNone_iff_eq_none] at h
  exact ⟨rfl, rfl, rfl, fun hUsed => by simp [h.1.2] at hUsed⟩

omit [External] in
theorem consumeOneTimeToken_later (draw : Draw) (table : Table OneTimeTokenRow.clash)
    (tokenHash : String) :
    Table.Evolves OneTimeTokenRow.Later table (Db.consumeOneTimeToken draw table tokenHash).2 := by
  exact Table.evolves_update OneTimeTokenRow.Later.refl rfl fun row _ h => consumable_later h

/-- One case for each way to change the tables. Rows are inserted or rewritten, and
no case deletes one. -/
theorem Effect.later (effect : Effect draw db op reply db') : db.Later db' := by
  have same := Db.Later.refl db
  cases effect with
  | unchanged => exact same
  | insertUser inserted =>
      exact { same with users := Table.evolves_insert UserRow.Later.refl inserted }
  | updateRole | updateActive | updatePasswordHash =>
      refine { same with users := ?_ }
      exact Table.evolves_update UserRow.Later.refl rfl fun row _ _ => ⟨rfl, rfl, fun h => h⟩
  | markEmailVerified =>
      refine { same with users := ?_ }
      exact Table.evolves_update UserRow.Later.refl rfl fun row _ _ => ⟨rfl, rfl, fun _ => rfl⟩
  | grantNew | grantAgain => exact { same with }
  | upsertNew free inserted =>
      refine { same with oauthIdentities := ?_ }
      exact Table.evolves_insert OAuthIdentityRow.Later.refl inserted
  | upsertAgain =>
      refine { same with oauthIdentities := ?_ }
      exact Table.evolves_update OAuthIdentityRow.Later.refl rfl fun row _ _ => ⟨rfl, rfl, rfl⟩
  | storeRefreshToken inserted =>
      refine { same with refreshTokens := ?_ }
      exact Table.evolves_insert RefreshTokenRow.Later.refl inserted
  | revokeRefreshToken | revokeAllRefreshTokens =>
      refine { same with refreshTokens := ?_ }
      exact Table.evolves_update RefreshTokenRow.Later.refl rfl
        fun row _ _ => ⟨rfl, rfl, rfl, fun _ => rfl⟩
  | storeEmailVerificationToken inserted =>
      refine { same with emailVerificationTokens := ?_ }
      exact Table.evolves_insert OneTimeTokenRow.Later.refl inserted
  | consumeEmailVerificationToken tokenHash =>
      exact { same with emailVerificationTokens := consumeOneTimeToken_later draw _ tokenHash }
  | storePasswordResetToken inserted =>
      refine { same with passwordResetTokens := ?_ }
      exact Table.evolves_insert OneTimeTokenRow.Later.refl inserted
  | consumePasswordResetToken tokenHash =>
      exact { same with passwordResetTokens := consumeOneTimeToken_later draw _ tokenHash }

/-- Any operation of any client, whether it succeeds or fails. -/
theorem answer_later (draw : Draw) (db : Db) (op : Op) : db.Later (answer draw db op).2 :=
  (answer_effect draw db op).later

theorem Db.Later.of_answer (h : answer draw db op = (reply, db')) : db.Later db' := by
  have later := answer_later draw db op
  rwa [h] at later

end Tables

end GenericAuth
