import GenericAuth.Relational.Table
import GenericAuth.Auth.External

/-! The tables of the auth schema and their unique constraints. Columns that no
query reads (descriptions, client addresses) are left out. -/
namespace GenericAuth

open Relational

structure RoleRow where
  id : Nat
  name : String
  deriving DecidableEq, Repr

structure PermissionRow where
  id : Nat
  name : String
  deriving DecidableEq, Repr

structure RolePermissionRow where
  roleId : Nat
  permissionId : Nat
  deriving DecidableEq, Repr

/-- The columns that every query on users reads. -/
structure UserColumns where
  id : Uuid
  email : Option String
  displayName : Option String
  isActive : Bool
  emailVerified : Bool
  createdAt : OffsetDateTime
  updatedAt : OffsetDateTime
  deriving DecidableEq, Repr

structure UserRow extends UserColumns where
  /-- NULL for OAuth-only users. -/
  passwordHash : Option String
  roleId : Nat
  deriving DecidableEq, Repr

/-- A subject of a provider, bound to one user. -/
structure OAuthIdentityRow where
  id : Uuid
  userId : Uuid
  provider : String
  subject : String
  email : Option String
  rawProfile : GoogleProfile
  createdAt : OffsetDateTime
  deriving DecidableEq, Repr

/-- A session. The token itself is not stored, only its hash. -/
structure RefreshTokenRow where
  id : Uuid
  userId : Uuid
  tokenHash : String
  issuedAt : OffsetDateTime
  expiresAt : OffsetDateTime
  revokedAt : Option OffsetDateTime
  userAgent : Option String
  deriving DecidableEq, Repr

/-- Row of `email_verification_tokens` and of `password_reset_tokens`. -/
structure OneTimeTokenRow where
  id : Uuid
  userId : Uuid
  tokenHash : String
  expiresAt : OffsetDateTime
  usedAt : Option OffsetDateTime
  createdAt : OffsetDateTime
  deriving DecidableEq, Repr

structure UserPermissionRow where
  userId : Uuid
  permissionId : Nat
  /-- `false` is an explicit revocation. -/
  granted : Bool
  deriving DecidableEq, Repr

/-! ### Unique constraints -/

/-- Equality of nullable CITEXT columns, where NULL equals nothing. -/
def sameEmail [External] : Option String → Option String → Bool
  | some first, some second => External.lower first == External.lower second
  | _, _ => false

/-- The primary key, and the unique index on addresses. -/
def UserRow.clash [External] (first second : UserRow) : Bool :=
  first.id == second.id || sameEmail first.email second.email

def OAuthIdentityRow.clash (first second : OAuthIdentityRow) : Bool :=
  first.id == second.id ||
    (first.provider == second.provider && first.subject == second.subject)

def RefreshTokenRow.clash (first second : RefreshTokenRow) : Bool :=
  first.id == second.id || first.tokenHash == second.tokenHash

def OneTimeTokenRow.clash (first second : OneTimeTokenRow) : Bool :=
  first.id == second.id || first.tokenHash == second.tokenHash

def UserPermissionRow.clash (first second : UserPermissionRow) : Bool :=
  first.userId == second.userId && first.permissionId == second.permissionId

theorem sameEmail_comm [External] (first second : Option String) :
    sameEmail first second = sameEmail second first := by
  cases first <;> cases second <;> simp [sameEmail, Bool.beq_comm]

theorem UserRow.clash_comm [External] (first second : UserRow) :
    first.clash second = second.clash first := by
  simp only [clash, sameEmail_comm second.email, Bool.beq_comm]

theorem OAuthIdentityRow.clash_comm (first second : OAuthIdentityRow) :
    first.clash second = second.clash first := by
  simp only [clash, Bool.beq_comm]

theorem RefreshTokenRow.clash_comm (first second : RefreshTokenRow) :
    first.clash second = second.clash first := by
  simp only [clash, Bool.beq_comm]

theorem OneTimeTokenRow.clash_comm (first second : OneTimeTokenRow) :
    first.clash second = second.clash first := by
  simp only [clash, Bool.beq_comm]

theorem UserPermissionRow.clash_comm (first second : UserPermissionRow) :
    first.clash second = second.clash first := by
  simp only [clash, Bool.beq_comm]

/-! ### The database -/

/-- The whole store. Tables that only the migration writes are plain lists. -/
structure Db [External] where
  roles : List RoleRow
  permissions : List PermissionRow
  rolePermissions : List RolePermissionRow
  users : Table UserRow.clash
  oauthIdentities : Table OAuthIdentityRow.clash
  refreshTokens : Table RefreshTokenRow.clash
  emailVerificationTokens : Table OneTimeTokenRow.clash
  passwordResetTokens : Table OneTimeTokenRow.clash
  userPermissions : Table UserPermissionRow.clash

/-- What the migration leaves behind: serial ids count from one. -/
def migrated [External] : Db where
  roles := [⟨1, "admin"⟩, ⟨2, "moderator"⟩, ⟨3, "user"⟩]
  permissions := [⟨1, "users.read"⟩, ⟨2, "users.manage"⟩, ⟨3, "users.assign_roles"⟩]
  rolePermissions := [⟨1, 1⟩, ⟨1, 2⟩, ⟨1, 3⟩, ⟨2, 1⟩]
  users := .empty
  oauthIdentities := .empty
  refreshTokens := .empty
  emailVerificationTokens := .empty
  passwordResetTokens := .empty
  userPermissions := .empty

end GenericAuth
