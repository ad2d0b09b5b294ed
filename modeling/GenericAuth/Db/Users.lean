import GenericAuth.Db.Operation

/-! User and identity queries. Passwords are stored only as hashes, and OAuth
users may have none. -/
namespace GenericAuth

open Interaction

/-- What `create_user` is asked to store. Identifier and dates come from the database. -/
structure NewUser where
  email : Option String
  passwordHash : Option String
  displayName : Option String
  role : Role
  emailVerified : Bool
  deriving DecidableEq, Repr

/-- The only user type that carries the hash; handlers never return it. -/
structure UserWithSecret where
  user : User
  passwordHash : Option String
  deriving DecidableEq, Repr

/-- A role name that is not known counts as the ordinary role. -/
def UserRecord.toUser (r : UserRecord) : User :=
  { id := r.id, email := r.email, displayName := r.displayName,
    role := (Role.parse r.roleName).getD .user, isActive := r.isActive,
    emailVerified := r.emailVerified, createdAt := r.createdAt, updatedAt := r.updatedAt }

def UserSecretRecord.toUserWithSecret (r : UserSecretRecord) : UserWithSecret :=
  { user := r.toUser, passwordHash := r.passwordHash }

/-- The created user, with the role that was asked for. -/
def UserColumns.toUser (row : UserColumns) (role : Role) : User :=
  { id := row.id, email := row.email, displayName := row.displayName, role,
    isActive := row.isActive, emailVerified := row.emailVerified,
    createdAt := row.createdAt, updatedAt := row.updatedAt }

namespace UserDb

/-- A role without a row in the `roles` table is reported as a missing row. -/
def roleIdFor (role : Role) : DbResult Nat := do
  let some id ← query (.roleIdFor role.asStr) | throw (.sqlx .rowNotFound)
  return id

/-- Two statements, so that other clients may come between them. The role of the
result is the one that was asked for, not one that was read back. -/
def createUser (new : NewUser) : DbResult User := do
  let roleId ← roleIdFor new.role
  let row ← query (.insertUser new.email new.passwordHash new.displayName roleId
    new.emailVerified)
  return row.toUser new.role

def findByEmail (email : String) : DbResult (Option UserWithSecret) := do
  let row ← query (.findByEmail email)
  return row.map UserSecretRecord.toUserWithSecret

def findById (id : Uuid) : DbResult (Option User) := do
  let row ← query (.findById id)
  return row.map UserRecord.toUser

/-- The bounds are passed on as they are. The handler has cut the limit before. -/
def listUsers (limit offset : Int64) : DbResult (List User) := do
  let rows ← query (.listUsers limit offset)
  return rows.map UserRecord.toUser

/-- Like `create_user` this is two statements. A user that is not stored is no error. -/
def setRole (userId : Uuid) (role : Role) : DbResult Unit := do
  let roleId ← roleIdFor role
  query (.updateRole roleId userId)

def setActive (userId : Uuid) (active : Bool) : DbResult Unit :=
  query (.updateActive active userId)

def permissionsFor (userId : Uuid) : DbResult (List String) :=
  query (.permissionsFor userId)

/-- An identity that exists keeps its user; only the address and the profile are
renewed. -/
def upsertOauthIdentity (userId : Uuid) (provider subject : String) (email : Option String)
    (rawProfile : GoogleProfile) : DbResult Unit :=
  query (.upsertOauthIdentity userId provider subject email rawProfile)

def findUserByOauth (provider subject : String) : DbResult (Option User) := do
  let row ← query (.findUserByOauth provider subject)
  return row.map UserRecord.toUser

def storeRefreshToken (userId : Uuid) (tokenHash : String) (expiresAt : OffsetDateTime)
    (userAgent : Option String) : DbResult Uuid :=
  query (.storeRefreshToken userId tokenHash expiresAt userAgent)

/-- The date of an earlier revocation is overwritten, and an unknown hash is no error. -/
def revokeRefreshToken (tokenHash : String) : DbResult Unit :=
  query (.revokeRefreshToken tokenHash)

/-- The owner, the expiry and the revocation of a session. Nothing is compared with
the clock here. -/
def lookupRefreshToken (tokenHash : String) :
    DbResult (Option (Uuid × OffsetDateTime × Option OffsetDateTime)) :=
  query (.lookupRefreshToken tokenHash)

def storeEmailVerificationToken (userId : Uuid) (tokenHash : String)
    (expiresAt : OffsetDateTime) : DbResult Unit :=
  query (.storeEmailVerificationToken userId tokenHash expiresAt)

/-- `none` if the token is unknown, already used, or expired. -/
def consumeEmailVerificationToken (tokenHash : String) : DbResult (Option Uuid) :=
  query (.consumeEmailVerificationToken tokenHash)

def markEmailVerified (userId : Uuid) : DbResult Unit :=
  query (.markEmailVerified userId)

def storePasswordResetToken (userId : Uuid) (tokenHash : String)
    (expiresAt : OffsetDateTime) : DbResult Unit :=
  query (.storePasswordResetToken userId tokenHash expiresAt)

/-- `none` if the token is unknown, already used, or expired. -/
def consumePasswordResetToken (tokenHash : String) : DbResult (Option Uuid) :=
  query (.consumePasswordResetToken tokenHash)

/-- The last two writes of a reset. Both succeed when no row is selected. -/
def updatePasswordHash (userId : Uuid) (passwordHash : String) : DbResult Unit :=
  query (.updatePasswordHash passwordHash userId)

def revokeAllRefreshTokens (userId : Uuid) : DbResult Unit :=
  query (.revokeAllRefreshTokens userId)

/-! ### The queries as programs -/

section Run

variable (userId : Uuid) (email tokenHash provider subject passwordHash : String)
    (expiresAt : OffsetDateTime)

/-- Every query is a program whose replies are statement results. From here on the
queries are not unfolded any more. -/
@[simp] theorem run_roleIdFor (role : Role) :
    (roleIdFor role).run = .call (.sql (.roleIdFor role.asStr)) fun (rows : SqlResult (Option Nat)) =>
      match rows with
      | .ok (some id) => .done (.ok id)
      | .ok none => .done (.error (.sqlx .rowNotFound))
      | .error e => .done (.error (.sqlx e)) := by
  refine congrArg (Program.call (Op.sql _)) (funext fun rows => ?_)
  rcases rows with e | (_ | id) <;> rfl

/-- The insertion is not tried when the role is missing. -/
theorem run_createUser (new : NewUser) :
    (createUser new).run = (roleIdFor new.role).run >>= fun roleId =>
      match roleId with
      | .error e => .done (.error e)
      | .ok roleId =>
          .call (.sql (.insertUser new.email new.passwordHash new.displayName roleId
            new.emailVerified)) fun (row : SqlResult UserColumns) =>
              .done ((row.mapError .sqlx).map fun row => row.toUser new.role) := by
  refine congrArg ((roleIdFor new.role).run >>= ·) (funext fun roleId => ?_)
  cases roleId with
  | error e => rfl
  | ok roleId =>
      refine congrArg (Program.call (Op.sql _)) (funext fun row => ?_)
      cases row <;> rfl

@[simp] theorem run_findByEmail :
    (findByEmail email).run = .call (.sql (.findByEmail email))
      fun (row : SqlResult (Option UserSecretRecord)) =>
        .done ((row.mapError .sqlx).map (Option.map UserSecretRecord.toUserWithSecret)) := by
  refine congrArg (Program.call (Op.sql _)) (funext fun row => ?_)
  cases row <;> rfl

@[simp] theorem run_findById :
    (findById userId).run = .call (.sql (.findById userId))
      fun (row : SqlResult (Option UserRecord)) =>
        .done ((row.mapError .sqlx).map (Option.map UserRecord.toUser)) := by
  refine congrArg (Program.call (Op.sql _)) (funext fun row => ?_)
  cases row <;> rfl

@[simp] theorem run_listUsers (limit offset : Int64) :
    (listUsers limit offset).run = .call (.sql (.listUsers limit offset))
      fun (rows : SqlResult (List UserRecord)) =>
        .done ((rows.mapError .sqlx).map (List.map UserRecord.toUser)) := by
  refine congrArg (Program.call (Op.sql _)) (funext fun rows => ?_)
  cases rows <;> rfl

@[simp] theorem run_setRole (role : Role) :
    (setRole userId role).run = (roleIdFor role).run >>= fun roleId =>
      match roleId with
      | .error e => .done (.error e)
      | .ok roleId => .call (.sql (.updateRole roleId userId)) fun (row : SqlResult Unit) =>
          .done (row.mapError .sqlx) := by
  refine congrArg ((roleIdFor role).run >>= ·) (funext fun roleId => ?_)
  cases roleId <;> rfl

@[simp] theorem run_setActive (active : Bool) :
    (setActive userId active).run = .call (.sql (.updateActive active userId))
      fun (row : SqlResult Unit) => .done (row.mapError .sqlx) := rfl

@[simp] theorem run_permissionsFor :
    (permissionsFor userId).run = .call (.sql (.permissionsFor userId))
      fun (names : SqlResult (List String)) => .done (names.mapError .sqlx) := rfl

@[simp] theorem run_upsertOauthIdentity (email : Option String) (rawProfile : GoogleProfile) :
    (upsertOauthIdentity userId provider subject email rawProfile).run =
      .call (.sql (.upsertOauthIdentity userId provider subject email rawProfile))
        fun (row : SqlResult Unit) => .done (row.mapError .sqlx) := rfl

@[simp] theorem run_findUserByOauth :
    (findUserByOauth provider subject).run = .call (.sql (.findUserByOauth provider subject))
      fun (row : SqlResult (Option UserRecord)) =>
        .done ((row.mapError .sqlx).map (Option.map UserRecord.toUser)) := by
  refine congrArg (Program.call (Op.sql _)) (funext fun row => ?_)
  cases row <;> rfl

@[simp] theorem run_storeRefreshToken (userAgent : Option String) :
    (storeRefreshToken userId tokenHash expiresAt userAgent).run =
      .call (.sql (.storeRefreshToken userId tokenHash expiresAt userAgent))
        fun (row : SqlResult Uuid) => .done (row.mapError .sqlx) := rfl

@[simp] theorem run_revokeRefreshToken :
    (revokeRefreshToken tokenHash).run = .call (.sql (.revokeRefreshToken tokenHash))
      fun (row : SqlResult Unit) => .done (row.mapError .sqlx) := rfl

@[simp] theorem run_lookupRefreshToken :
    (lookupRefreshToken tokenHash).run = .call (.sql (.lookupRefreshToken tokenHash))
      fun (row : SqlResult (Option (Uuid × OffsetDateTime × Option OffsetDateTime))) =>
        .done (row.mapError .sqlx) := rfl

@[simp] theorem run_storeEmailVerificationToken :
    (storeEmailVerificationToken userId tokenHash expiresAt).run =
      .call (.sql (.storeEmailVerificationToken userId tokenHash expiresAt))
        fun (row : SqlResult Unit) => .done (row.mapError .sqlx) := rfl

@[simp] theorem run_consumeEmailVerificationToken :
    (consumeEmailVerificationToken tokenHash).run =
      .call (.sql (.consumeEmailVerificationToken tokenHash))
        fun (row : SqlResult (Option Uuid)) => .done (row.mapError .sqlx) := rfl

@[simp] theorem run_markEmailVerified :
    (markEmailVerified userId).run = .call (.sql (.markEmailVerified userId))
      fun (row : SqlResult Unit) => .done (row.mapError .sqlx) := rfl

@[simp] theorem run_storePasswordResetToken :
    (storePasswordResetToken userId tokenHash expiresAt).run =
      .call (.sql (.storePasswordResetToken userId tokenHash expiresAt))
        fun (row : SqlResult Unit) => .done (row.mapError .sqlx) := rfl

@[simp] theorem run_consumePasswordResetToken :
    (consumePasswordResetToken tokenHash).run = .call (.sql (.consumePasswordResetToken tokenHash))
      fun (row : SqlResult (Option Uuid)) => .done (row.mapError .sqlx) := rfl

@[simp] theorem run_updatePasswordHash :
    (updatePasswordHash userId passwordHash).run =
      .call (.sql (.updatePasswordHash passwordHash userId))
        fun (row : SqlResult Unit) => .done (row.mapError .sqlx) := rfl

@[simp] theorem run_revokeAllRefreshTokens :
    (revokeAllRefreshTokens userId).run = .call (.sql (.revokeAllRefreshTokens userId))
      fun (row : SqlResult Unit) => .done (row.mapError .sqlx) := rfl

end Run

end UserDb
end GenericAuth
