import GenericAuth.Db.Operation

/-! What one operation can do to the tables. -/
namespace GenericAuth

open Relational Interaction

variable [External] {draw : Draw} {db db' : Db} {op : Op} {reply : op.Reply}

/-- The writes of the statements. Reads, failures and statements that select no
row leave the tables unchanged. -/
inductive Effect (draw : Draw) (db : Db) : (op : Op) → op.Reply → Db → Prop where
  | unchanged (op : Op) (reply : op.Reply) : Effect draw db op reply db
  | insertUser {email passwordHash displayName : Option String} {roleId : Nat}
      {emailVerified : Bool} {users : Table UserRow.clash}
      (inserted : db.users.insert
        { id := draw.uuid, email, displayName, isActive := true, emailVerified,
          createdAt := draw.dbNow, updatedAt := draw.dbNow, passwordHash, roleId } = some users)
      (hRole : (db.roles.any fun role => role.id == roleId) = true) :
      Effect draw db (.sql (.insertUser email passwordHash displayName roleId emailVerified))
        (.ok { id := draw.uuid, email, displayName, isActive := true, emailVerified,
               createdAt := draw.dbNow, updatedAt := draw.dbNow }) { db with users }
  | updateRole {roleId : Nat} {userId : Uuid}
      (hRole : db.hasUser userId = true → (db.roles.any fun role => role.id == roleId) = true) :
      Effect draw db (.sql (.updateRole roleId userId)) (.ok ())
        (db.updateUsers userId (fun row => { row with roleId, updatedAt := draw.dbNow })
          fun _ _ => ⟨rfl, rfl⟩)
  | updateActive (active : Bool) (userId : Uuid) :
      Effect draw db (.sql (.updateActive active userId)) (.ok ())
        (db.updateActive draw active userId)
  | markEmailVerified (userId : Uuid) :
      Effect draw db (.sql (.markEmailVerified userId)) (.ok ()) (db.markEmailVerified draw userId)
  | updatePasswordHash (passwordHash : String) (userId : Uuid) :
      Effect draw db (.sql (.updatePasswordHash passwordHash userId)) (.ok ())
        (db.updatePasswordHash draw passwordHash userId)
  | grantNew {userId : Uuid} {permission : String} {granted : Bool} {selected : PermissionRow}
      {userPermissions : Table UserPermissionRow.clash}
      (hSelected : (db.permissions.find? fun row => row.name == permission) = some selected)
      (inserted : db.userPermissions.insert { userId, permissionId := selected.id, granted } =
        some userPermissions)
      (hUser : db.hasUser userId = true) :
      Effect draw db (.sql (.grantPermission userId permission granted)) (.ok ())
        { db with userPermissions }
  | grantAgain {userId : Uuid} {permission : String} {granted : Bool} {selected : PermissionRow}
      (hSelected : (db.permissions.find? fun row => row.name == permission) = some selected) :
      Effect draw db (.sql (.grantPermission userId permission granted)) (.ok ())
        { db with userPermissions := db.regrant { userId, permissionId := selected.id, granted } }
  | upsertNew {userId : Uuid} {provider subject : String} {email : Option String}
      {rawProfile : GoogleProfile} {oauthIdentities : Table OAuthIdentityRow.clash}
      (free : ∀ row ∈ db.oauthIdentities.rows, ¬(row.provider = provider ∧ row.subject = subject))
      (inserted : db.oauthIdentities.insert
        { id := draw.uuid, userId, provider, subject, email, rawProfile,
          createdAt := draw.dbNow } = some oauthIdentities)
      (hUser : db.hasUser userId = true) :
      Effect draw db (.sql (.upsertOauthIdentity userId provider subject email rawProfile)) (.ok ())
        { db with oauthIdentities }
  | upsertAgain {provider subject : String} (userId : Uuid) (email : Option String)
      (rawProfile : GoogleProfile)
      (bound : ∃ row ∈ db.oauthIdentities.rows, row.provider = provider ∧ row.subject = subject) :
      Effect draw db (.sql (.upsertOauthIdentity userId provider subject email rawProfile)) (.ok ())
        { db with oauthIdentities := db.reprofile provider subject email rawProfile }
  | storeRefreshToken {userId : Uuid} {tokenHash : String} {expiresAt : OffsetDateTime}
      {userAgent : Option String} {refreshTokens : Table RefreshTokenRow.clash}
      (inserted : db.refreshTokens.insert
        { id := draw.uuid, userId, tokenHash, issuedAt := draw.dbNow, expiresAt,
          revokedAt := none, userAgent } = some refreshTokens)
      (hUser : db.hasUser userId = true) :
      Effect draw db (.sql (.storeRefreshToken userId tokenHash expiresAt userAgent))
        (.ok draw.uuid) { db with refreshTokens }
  | revokeRefreshToken (tokenHash : String) :
      Effect draw db (.sql (.revokeRefreshToken tokenHash)) (.ok ())
        (db.revokeRefreshToken draw tokenHash)
  | revokeAllRefreshTokens (userId : Uuid) :
      Effect draw db (.sql (.revokeAllRefreshTokens userId)) (.ok ())
        (db.revokeAllRefreshTokens draw userId)
  | storeEmailVerificationToken {userId : Uuid} {tokenHash : String} {expiresAt : OffsetDateTime}
      {emailVerificationTokens : Table OneTimeTokenRow.clash}
      (inserted : db.emailVerificationTokens.insert
        { id := draw.uuid, userId, tokenHash, expiresAt, usedAt := none, createdAt := draw.dbNow } =
          some emailVerificationTokens)
      (hUser : db.hasUser userId = true) :
      Effect draw db (.sql (.storeEmailVerificationToken userId tokenHash expiresAt)) (.ok ())
        { db with emailVerificationTokens }
  | consumeEmailVerificationToken (tokenHash : String) :
      Effect draw db (.sql (.consumeEmailVerificationToken tokenHash))
        (.ok (db.consumeEmailVerificationToken draw tokenHash).1)
        (db.consumeEmailVerificationToken draw tokenHash).2
  | storePasswordResetToken {userId : Uuid} {tokenHash : String} {expiresAt : OffsetDateTime}
      {passwordResetTokens : Table OneTimeTokenRow.clash}
      (inserted : db.passwordResetTokens.insert
        { id := draw.uuid, userId, tokenHash, expiresAt, usedAt := none, createdAt := draw.dbNow } =
          some passwordResetTokens)
      (hUser : db.hasUser userId = true) :
      Effect draw db (.sql (.storePasswordResetToken userId tokenHash expiresAt)) (.ok ())
        { db with passwordResetTokens }
  | consumePasswordResetToken (tokenHash : String) :
      Effect draw db (.sql (.consumePasswordResetToken tokenHash))
        (.ok (db.consumePasswordResetToken draw tokenHash).1)
        (db.consumePasswordResetToken draw tokenHash).2

theorem exec_effect (draw : Draw) (db : Db) (statement : Statement) :
    Effect draw db (.sql statement) (db.exec draw statement).1 (db.exec draw statement).2 := by
  cases statement with
  | insertUser email passwordHash displayName roleId emailVerified =>
      simp only [Db.exec, Db.insertUser]
      split
      · exact .unchanged _ _
      · next users inserted =>
          split
          · next hRole => exact .insertUser inserted hRole
          · exact .unchanged _ _
  | updateRole roleId userId =>
      simp only [Db.exec, Db.updateRole]
      split
      · exact .unchanged _ _
      · next hRole => exact .updateRole (by simpa using hRole)
  | updateActive active userId => exact .updateActive active userId
  | markEmailVerified userId => exact .markEmailVerified userId
  | updatePasswordHash passwordHash userId => exact .updatePasswordHash passwordHash userId
  | grantPermission userId permission granted =>
      simp only [Db.exec, Db.grantPermission]
      split
      · exact .unchanged _ _
      · next selected hSelected =>
          split
          · exact .grantAgain hSelected
          · next userPermissions inserted =>
              split
              · next hUser => exact .grantNew hSelected inserted hUser
              · exact .unchanged _ _
  | upsertOauthIdentity userId provider subject email rawProfile =>
      simp only [Db.exec, Db.upsertOauthIdentity]
      split
      · next bound => exact .upsertAgain userId email rawProfile (by simpa using bound)
      · next free =>
          split
          · exact .unchanged _ _
          · next oauthIdentities inserted =>
              split
              · next hUser => exact .upsertNew (by simpa using free) inserted hUser
              · exact .unchanged _ _
  | storeRefreshToken userId tokenHash expiresAt userAgent =>
      simp only [Db.exec, Db.storeRefreshToken]
      split
      · exact .unchanged _ _
      · next refreshTokens inserted =>
          split
          · next hUser => exact .storeRefreshToken inserted hUser
          · exact .unchanged _ _
  | revokeRefreshToken tokenHash => exact .revokeRefreshToken tokenHash
  | revokeAllRefreshTokens userId => exact .revokeAllRefreshTokens userId
  | storeEmailVerificationToken userId tokenHash expiresAt =>
      simp only [Db.exec, Db.storeEmailVerificationToken, Db.storeOneTimeToken]
      split
      · exact .unchanged _ _
      · split
        · exact .unchanged _ _
        · next emailVerificationTokens inserted =>
            split
            · next hUser => exact .storeEmailVerificationToken inserted hUser
            · exact .unchanged _ _
  | consumeEmailVerificationToken tokenHash => exact .consumeEmailVerificationToken tokenHash
  | storePasswordResetToken userId tokenHash expiresAt =>
      simp only [Db.exec, Db.storePasswordResetToken, Db.storeOneTimeToken]
      split
      · exact .unchanged _ _
      · split
        · exact .unchanged _ _
        · next passwordResetTokens inserted =>
            split
            · next hUser => exact .storePasswordResetToken inserted hUser
            · exact .unchanged _ _
  | consumePasswordResetToken tokenHash => exact .consumePasswordResetToken tokenHash
  | roleIdFor _ | findByEmail _ | findById _ | listUsers _ _ | permissionsFor _
  | findUserByOauth _ _ | lookupRefreshToken _ => exact .unchanged _ _

/-- The inversion lemma of the service, used by every invariant. -/
theorem answer_effect (draw : Draw) (db : Db) (op : Op) :
    Effect draw db op (answer draw db op).1 (answer draw db op).2 := by
  cases op with
  | sql statement =>
      simp only [answer]
      split
      · exact .unchanged _ _
      · exact exec_effect draw db statement
  | nowUtc | randomBytes | newV4 | saltGenerate => exact .unchanged _ _
  | exchangeCode code => exact .unchanged _ _
  | sendMail toEmail subject body => exact .unchanged _ _

/-- A statement that succeeded was executed. -/
theorem exec_of_answer {statement : Statement} {rows : statement.Rows}
    (h : answer draw db (.sql statement) = (.ok rows, db')) :
    db.exec draw statement = (.ok rows, db') := by
  simp only [answer] at h
  split at h
  · simp at h
  · exact h

theorem fault_of_answer {statement : Statement} {rows : statement.Rows}
    (h : (answer draw db (.sql statement)).1 = .ok rows) : draw.fault = none := by
  simp only [answer] at h
  split at h
  · cases h
  · assumption

end GenericAuth
