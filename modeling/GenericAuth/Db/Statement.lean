import GenericAuth.Db.Schema
import Mathlib.Data.List.Dedup

/-! The SQL statements of the program, each one atomic. A statement that fails
changes nothing; whether it fails for reasons outside the tables is drawn. -/
namespace GenericAuth

open Relational

inductive SqlxError where
  | rowNotFound
  | database (message : String)
  | other (message : String)
  deriving DecidableEq, Repr

def SqlxError.display : SqlxError → String
  | .rowNotFound => "no rows returned by a query that expected to return at least one row"
  | .database message => "error returned from database: " ++ message
  | .other message => message

/-- What one operation may find outside the program. -/
structure Draw where
  /-- The application's clock. -/
  now : OffsetDateTime
  /-- The database's `now()`. -/
  dbNow : OffsetDateTime
  uuid : Uuid
  bytes : BitVec 256
  salt : String
  /-- The statement is not executed and fails with this error. That a reply is lost after
  the statement has been executed is not modelled. -/
  fault : Option SqlxError
  /-- What the identity provider answers. -/
  profile : Except String GoogleProfile
  /-- Order among rows that `ORDER BY` leaves equal. -/
  tieBreak : Uuid → Nat

/-- A user joined with the name of its role. -/
structure UserRecord extends UserColumns where
  roleName : String
  deriving DecidableEq, Repr

structure UserSecretRecord extends UserRecord where
  passwordHash : Option String
  deriving DecidableEq, Repr

inductive Statement where
  | roleIdFor (name : String)
  | insertUser (email passwordHash displayName : Option String) (roleId : Nat)
      (emailVerified : Bool)
  | findByEmail (email : String)
  | findById (id : Uuid)
  | listUsers (limit offset : Int64)
  | updateRole (roleId : Nat) (userId : Uuid)
  | updateActive (active : Bool) (userId : Uuid)
  | permissionsFor (userId : Uuid)
  | upsertOauthIdentity (userId : Uuid) (provider subject : String) (email : Option String)
      (rawProfile : GoogleProfile)
  | findUserByOauth (provider subject : String)
  | storeRefreshToken (userId : Uuid) (tokenHash : String) (expiresAt : OffsetDateTime)
      (userAgent : Option String)
  | revokeRefreshToken (tokenHash : String)
  | lookupRefreshToken (tokenHash : String)
  | storeEmailVerificationToken (userId : Uuid) (tokenHash : String) (expiresAt : OffsetDateTime)
  | consumeEmailVerificationToken (tokenHash : String)
  | markEmailVerified (userId : Uuid)
  | storePasswordResetToken (userId : Uuid) (tokenHash : String) (expiresAt : OffsetDateTime)
  | consumePasswordResetToken (tokenHash : String)
  | updatePasswordHash (passwordHash : String) (userId : Uuid)
  | revokeAllRefreshTokens (userId : Uuid)
  | grantPermission (userId : Uuid) (permission : String) (granted : Bool)
  deriving DecidableEq, Repr

/-- What a statement yields when it succeeds. -/
@[reducible] def Statement.Rows : Statement → Type
  | .roleIdFor _ => Option Nat
  | .insertUser .. => UserColumns
  | .findByEmail _ => Option UserSecretRecord
  | .findById _ => Option UserRecord
  | .listUsers .. => List UserRecord
  | .permissionsFor _ => List String
  | .findUserByOauth .. => Option UserRecord
  | .storeRefreshToken .. => Uuid
  | .lookupRefreshToken _ => Option (Uuid × OffsetDateTime × Option OffsetDateTime)
  | .consumeEmailVerificationToken _ => Option Uuid
  | .consumePasswordResetToken _ => Option Uuid
  | _ => Unit

abbrev SqlResult (Rows : Type) := Except SqlxError Rows

def duplicateKey (constraint : String) : SqlxError :=
  .database ("duplicate key value violates unique constraint \"" ++ constraint ++ "\"")

def foreignKey (table constraint : String) : SqlxError :=
  .database ("insert or update on table \"" ++ table ++ "\" violates foreign key constraint \"" ++
    constraint ++ "\"")

namespace Db

variable [External] (draw : Draw) (db : Db)

def hasUser (id : Uuid) : Bool := db.users.rows.any fun row => row.id == id

/-! ### Users -/

def roleIdFor (name : String) : Option Nat :=
  (db.roles.find? fun role => role.name == name).map RoleRow.id

/-- `JOIN roles r ON r.id = u.role_id`. -/
def record (row : UserRow) : Option UserRecord :=
  (db.roles.find? fun role => role.id == row.roleId).map fun role =>
    { toUserColumns := row.toUserColumns, roleName := role.name }

def insertUser (email passwordHash displayName : Option String) (roleId : Nat)
    (emailVerified : Bool) : SqlResult UserColumns × Db :=
  let row : UserRow :=
    { id := draw.uuid, email, displayName, isActive := true, emailVerified,
      createdAt := draw.dbNow, updatedAt := draw.dbNow, passwordHash, roleId }
  match db.users.insert row with
  | none =>
      (.error (duplicateKey (if db.hasUser row.id then "users_pkey" else "users_email_key")), db)
  | some users =>
      if db.roles.any fun role => role.id == roleId then
        (.ok row.toUserColumns, { db with users })
      else (.error (foreignKey "users" "users_role_id_fkey"), db)

def findByEmail (email : String) : Option UserSecretRecord :=
  (db.users.find fun row => sameEmail row.email (some email)).bind fun row =>
    (db.record row).map fun record => { toUserRecord := record, passwordHash := row.passwordHash }

def findById (id : Uuid) : Option UserRecord :=
  (db.users.find fun row => row.id == id).bind db.record

/-- `ORDER BY created_at DESC`, with ties in the drawn order. -/
def newestFirst (first second : UserRow) : Bool :=
  decide (second.createdAt < first.createdAt) ||
    (first.createdAt == second.createdAt &&
      decide (draw.tieBreak first.id ≤ draw.tieBreak second.id))

def listUsers (limit offset : Int64) : SqlResult (List UserRecord) :=
  if offset < 0 then .error (.database "OFFSET must not be negative")
  else if limit < 0 then .error (.database "LIMIT must not be negative")
  else .ok ((((db.users.rows.mergeSort (newestFirst draw)).filterMap db.record).drop
    offset.toInt.toNat).take limit.toInt.toNat)

def updateUsers (id : Uuid) (change : UserRow → UserRow)
    (keeps : Keeps UserRow.clash change) : Db :=
  { db with users := db.users.update (fun row => row.id == id) change keeps }

def updateRole (roleId : Nat) (userId : Uuid) : SqlResult Unit × Db :=
  if db.hasUser userId && !(db.roles.any fun role => role.id == roleId) then
    (.error (foreignKey "users" "users_role_id_fkey"), db)
  else (.ok (), db.updateUsers userId (fun row => { row with roleId, updatedAt := draw.dbNow })
    fun _ _ => ⟨rfl, rfl⟩)

def updateActive (active : Bool) (userId : Uuid) : Db :=
  db.updateUsers userId (fun row => { row with isActive := active, updatedAt := draw.dbNow })
    fun _ _ => ⟨rfl, rfl⟩

def markEmailVerified (userId : Uuid) : Db :=
  db.updateUsers userId (fun row => { row with emailVerified := true, updatedAt := draw.dbNow })
    fun _ _ => ⟨rfl, rfl⟩

def updatePasswordHash (passwordHash : String) (userId : Uuid) : Db :=
  db.updateUsers userId
    (fun row => { row with passwordHash := some passwordHash, updatedAt := draw.dbNow })
    fun _ _ => ⟨rfl, rfl⟩

/-! ### Permissions -/

def permissionNames (permissionId : Nat) : List String :=
  (db.permissions.filter fun permission => permission.id == permissionId).map PermissionRow.name

/-- `role_perms`: permissions of the user's current role. -/
def rolePerms (userId : Uuid) : List String :=
  (db.users.rows.filter fun row => row.id == userId).flatMap fun row =>
    (db.rolePermissions.filter fun entry => entry.roleId == row.roleId).flatMap fun entry =>
      db.permissionNames entry.permissionId

/-- `granted` and `revoked`: the explicit overrides of either kind. -/
def overrides (userId : Uuid) (granted : Bool) : List String :=
  (db.userPermissions.rows.filter fun row => row.userId == userId && row.granted == granted).flatMap
    fun row => db.permissionNames row.permissionId

def permissionsFor (userId : Uuid) : List String :=
  ((db.rolePerms userId ++ db.overrides userId true).dedup).filter fun name =>
    !(db.overrides userId false).contains name

/-- `ON CONFLICT (user_id, permission_id) DO UPDATE SET granted`. -/
def regrant (row : UserPermissionRow) : Table UserPermissionRow.clash :=
  db.userPermissions.update (fun stored => stored.clash row)
    (fun stored => { stored with granted := row.granted }) fun _ _ => ⟨rfl, rfl⟩

def grantPermission (userId : Uuid) (permission : String) (granted : Bool) :
    SqlResult Unit × Db :=
  match db.permissions.find? fun row => row.name == permission with
  | none => (.ok (), db)
  | some selected =>
      let row : UserPermissionRow := { userId, permissionId := selected.id, granted }
      match db.userPermissions.insert row with
      | none => (.ok (), { db with userPermissions := db.regrant row })
      | some userPermissions =>
          if db.hasUser userId then (.ok (), { db with userPermissions })
          else (.error (foreignKey "user_permissions" "user_permissions_user_id_fkey"), db)

/-! ### OAuth identities -/

/-- `ON CONFLICT (provider, subject) DO UPDATE`, which leaves `user_id` alone. -/
def reprofile (provider subject : String) (email : Option String) (rawProfile : GoogleProfile) :
    Table OAuthIdentityRow.clash :=
  db.oauthIdentities.update (fun row => row.provider == provider && row.subject == subject)
    (fun row => { row with email, rawProfile }) fun _ _ => ⟨rfl, rfl⟩

def upsertOauthIdentity (userId : Uuid) (provider subject : String) (email : Option String)
    (rawProfile : GoogleProfile) : SqlResult Unit × Db :=
  if db.oauthIdentities.rows.any fun row => row.provider == provider && row.subject == subject then
    (.ok (), { db with oauthIdentities := db.reprofile provider subject email rawProfile })
  else
    let row : OAuthIdentityRow :=
      { id := draw.uuid, userId, provider, subject, email, rawProfile, createdAt := draw.dbNow }
    match db.oauthIdentities.insert row with
    | none => (.error (duplicateKey "oauth_identities_pkey"), db)
    | some oauthIdentities =>
        if db.hasUser userId then (.ok (), { db with oauthIdentities })
        else (.error (foreignKey "oauth_identities" "oauth_identities_user_id_fkey"), db)

def findUserByOauth (provider subject : String) : Option UserRecord :=
  (db.oauthIdentities.find fun row => row.provider == provider && row.subject == subject).bind
    fun identity => db.findById identity.userId

/-! ### Refresh tokens -/

def storeRefreshToken (userId : Uuid) (tokenHash : String) (expiresAt : OffsetDateTime)
    (userAgent : Option String) : SqlResult Uuid × Db :=
  let row : RefreshTokenRow :=
    { id := draw.uuid, userId, tokenHash, issuedAt := draw.dbNow, expiresAt, revokedAt := none,
      userAgent }
  match db.refreshTokens.insert row with
  | none =>
      (.error (duplicateKey (if db.refreshTokens.rows.any fun stored => stored.id == row.id then
        "refresh_tokens_pkey" else "refresh_tokens_token_hash_key")), db)
  | some refreshTokens =>
      if db.hasUser userId then (.ok row.id, { db with refreshTokens })
      else (.error (foreignKey "refresh_tokens" "refresh_tokens_user_id_fkey"), db)

/-- The statement has no condition on `revoked_at`. -/
def revokeRefreshToken (tokenHash : String) : Db :=
  let updated := db.refreshTokens.update (fun row => row.tokenHash == tokenHash)
    (fun row => { row with revokedAt := some draw.dbNow }) fun _ _ => ⟨rfl, rfl⟩
  { db with refreshTokens := updated }

def lookupRefreshToken (tokenHash : String) :
    Option (Uuid × OffsetDateTime × Option OffsetDateTime) :=
  (db.refreshTokens.find fun row => row.tokenHash == tokenHash).map fun row =>
    (row.userId, row.expiresAt, row.revokedAt)

def revokeAllRefreshTokens (userId : Uuid) : Db :=
  let updated := db.refreshTokens.update
    (fun row => row.userId == userId && row.revokedAt.isNone)
    (fun row => { row with revokedAt := some draw.dbNow }) fun _ _ => ⟨rfl, rfl⟩
  { db with refreshTokens := updated }

/-! ### One-time tokens -/

/-- `INSERT … ON CONFLICT (token_hash) DO NOTHING`, for either table. -/
def storeOneTimeToken (name : String) (table : Table OneTimeTokenRow.clash) (userId : Uuid)
    (tokenHash : String) (expiresAt : OffsetDateTime) :
    SqlResult Unit × Table OneTimeTokenRow.clash :=
  if table.rows.any fun row => row.tokenHash == tokenHash then (.ok (), table)
  else
    let row : OneTimeTokenRow :=
      { id := draw.uuid, userId, tokenHash, expiresAt, usedAt := none, createdAt := draw.dbNow }
    match table.insert row with
    | none => (.error (duplicateKey (name ++ "_pkey")), table)
    | some table' =>
        if db.hasUser userId then (.ok (), table')
        else (.error (foreignKey name (name ++ "_user_id_fkey")), table)

/-- The condition of the consuming `UPDATE`. -/
def consumable (tokenHash : String) (row : OneTimeTokenRow) : Bool :=
  row.tokenHash == tokenHash && row.usedAt.isNone && decide (draw.dbNow < row.expiresAt)

/-- `UPDATE … SET used_at = now() WHERE … RETURNING user_id`, for either table. -/
def consumeOneTimeToken (table : Table OneTimeTokenRow.clash) (tokenHash : String) :
    Option Uuid × Table OneTimeTokenRow.clash :=
  ((table.find (consumable draw tokenHash)).map OneTimeTokenRow.userId,
    table.update (consumable draw tokenHash) (fun row => { row with usedAt := some draw.dbNow })
      fun _ _ => ⟨rfl, rfl⟩)

def storeEmailVerificationToken (userId : Uuid) (tokenHash : String)
    (expiresAt : OffsetDateTime) : SqlResult Unit × Db :=
  let stored := storeOneTimeToken draw db "email_verification_tokens" db.emailVerificationTokens
    userId tokenHash expiresAt
  (stored.1, { db with emailVerificationTokens := stored.2 })

def consumeEmailVerificationToken (tokenHash : String) : Option Uuid × Db :=
  let consumed := consumeOneTimeToken draw db.emailVerificationTokens tokenHash
  (consumed.1, { db with emailVerificationTokens := consumed.2 })

def storePasswordResetToken (userId : Uuid) (tokenHash : String)
    (expiresAt : OffsetDateTime) : SqlResult Unit × Db :=
  let stored := storeOneTimeToken draw db "password_reset_tokens" db.passwordResetTokens
    userId tokenHash expiresAt
  (stored.1, { db with passwordResetTokens := stored.2 })

def consumePasswordResetToken (tokenHash : String) : Option Uuid × Db :=
  let consumed := consumeOneTimeToken draw db.passwordResetTokens tokenHash
  (consumed.1, { db with passwordResetTokens := consumed.2 })

/-! ### Execution -/

/-- Execute a statement that the database accepts. -/
def exec : (statement : Statement) → SqlResult statement.Rows × Db
  | .roleIdFor name => (.ok (db.roleIdFor name), db)
  | .insertUser email passwordHash displayName roleId emailVerified =>
      db.insertUser draw email passwordHash displayName roleId emailVerified
  | .findByEmail email => (.ok (db.findByEmail email), db)
  | .findById id => (.ok (db.findById id), db)
  | .listUsers limit offset => (db.listUsers draw limit offset, db)
  | .updateRole roleId userId => db.updateRole draw roleId userId
  | .updateActive active userId => (.ok (), db.updateActive draw active userId)
  | .permissionsFor userId => (.ok (db.permissionsFor userId), db)
  | .upsertOauthIdentity userId provider subject email rawProfile =>
      db.upsertOauthIdentity draw userId provider subject email rawProfile
  | .findUserByOauth provider subject => (.ok (db.findUserByOauth provider subject), db)
  | .storeRefreshToken userId tokenHash expiresAt userAgent =>
      db.storeRefreshToken draw userId tokenHash expiresAt userAgent
  | .revokeRefreshToken tokenHash => (.ok (), db.revokeRefreshToken draw tokenHash)
  | .lookupRefreshToken tokenHash => (.ok (db.lookupRefreshToken tokenHash), db)
  | .storeEmailVerificationToken userId tokenHash expiresAt =>
      db.storeEmailVerificationToken draw userId tokenHash expiresAt
  | .consumeEmailVerificationToken tokenHash =>
      let consumed := db.consumeEmailVerificationToken draw tokenHash
      (.ok consumed.1, consumed.2)
  | .markEmailVerified userId => (.ok (), db.markEmailVerified draw userId)
  | .storePasswordResetToken userId tokenHash expiresAt =>
      db.storePasswordResetToken draw userId tokenHash expiresAt
  | .consumePasswordResetToken tokenHash =>
      let consumed := db.consumePasswordResetToken draw tokenHash
      (.ok consumed.1, consumed.2)
  | .updatePasswordHash passwordHash userId =>
      (.ok (), db.updatePasswordHash draw passwordHash userId)
  | .revokeAllRefreshTokens userId => (.ok (), db.revokeAllRefreshTokens draw userId)
  | .grantPermission userId permission granted => db.grantPermission userId permission granted

end Db
end GenericAuth
