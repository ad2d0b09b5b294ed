import GenericAuth.Db.Users

/-! Passwords, opaque tokens, access tokens and the identity provider. The
functions that need only time and randomness work in any such monad. -/
namespace GenericAuth

open Interaction

variable [External] {m : Type → Type} [Monad m] [Runtime m]

/-! ### Passwords -/

/-- A fresh random salt for every password. -/
def hashPassword (plain : String) : ExceptT AppError m String := do
  let salt ← (Runtime.saltGenerate : m String)
  match External.argon2Hash plain salt with
  | .ok phc => return phc
  | .error e => throw (.auth ("hash: " ++ e))

theorem hashPassword_run [LawfulMonad m] (plain : String) :
    (hashPassword (m := m) plain).run = Runtime.saltGenerate >>= fun salt =>
      pure ((External.argon2Hash plain salt).mapError fun e => .auth ("hash: " ++ e)) := by
  apply (ExceptT.run_bind_lift _ _).trans
  apply bind_congr
  intro salt
  cases External.argon2Hash plain salt <;> rfl

omit [Runtime m] in
/-- A hash that cannot be read is an error, which differs from a password that does
not match. -/
def verifyPassword (plain phc : String) : ExceptT AppError m Bool :=
  match External.argon2Verify plain phc with
  | .ok verified => return verified
  | .error e => throw (.auth ("parse hash: " ++ e))

/-! ### Opaque tokens -/

/-- 256 random bits in hexadecimal. -/
def generateRefreshToken : m String := do
  let bytes ← (Runtime.randomBytes : m (BitVec 256))
  return hexEncode bytes

/-- Only the hash of a refresh token is stored. -/
def hashRefreshToken (token : String) : String := External.sha256Hex token

/-- Two random UUIDs in a row. -/
def generateVerificationToken : m String := do
  let first ← (Runtime.newV4 : m Uuid)
  let second ← (Runtime.newV4 : m Uuid)
  return hexEncode first ++ hexEncode second

def sha256Hex (input : String) : String := External.sha256Hex input

/-! ### Access tokens -/

structure JwtConfig where
  secret : String
  accessTtlMin : Int64
  refreshTtlDays : Int64
  issuer : String
  deriving DecidableEq, Repr

structure JwtCodec where
  cfg : JwtConfig
  deriving DecidableEq, Repr

/-- Expiry is computed in machine integers, which may wrap around. -/
def JwtCodec.claims (codec : JwtCodec) (userId : Uuid) (role : Role) (instant : OffsetDateTime)
    (jti : Uuid) : Claims :=
  let now := instant.unixTimestamp
  let exp := now + codec.cfg.accessTtlMin * 60
  { sub := userId, role := role.asStr, iss := codec.cfg.issuer, iat := now, exp, jti }

def JwtCodec.issue (codec : JwtCodec) (userId : Uuid) (role : Role) : ExceptT AppError m String := do
  let instant ← (Runtime.nowUtc : m OffsetDateTime)
  let jti ← (Runtime.newV4 : m Uuid)
  match External.jwtEncode codec.cfg.secret (codec.claims userId role instant jti) with
  | .ok token => return token
  | .error e => throw (.auth ("encode jwt: " ++ e))

/-- The reason why a token is refused is not surfaced. -/
def JwtCodec.verify (codec : JwtCodec) (token : String) : ExceptT AppError m Claims := do
  let instant ← (Runtime.nowUtc : m OffsetDateTime)
  match External.jwtDecode codec.cfg.secret codec.cfg.issuer instant.unixTimestamp token with
  | .ok claims => return claims
  | .error _ => throw .unauthorized

/-! ### Identity provider -/

structure GoogleConfig where
  clientId : String
  clientSecret : String
  redirectUrl : String
  deriving DecidableEq, Repr

def googleClient (cfg : GoogleConfig) : ExceptT AppError m GoogleConfig :=
  match External.redirectUrl cfg.redirectUrl with
  | .ok () => return cfg
  | .error e => throw (.auth ("redirect url: " ++ e))

/-- The URL carries a random CSRF state, which nobody keeps. -/
def googleAuthorizeUrl (client : GoogleConfig) : m String := do
  let csrf ← (Runtime.randomBytes : m (BitVec 256))
  return External.authorizeUrl client.clientId client.redirectUrl (hexEncode csrf)

def googleExchangeCode (_client : GoogleConfig) (code : String) :
    ExceptT AppError Server GoogleProfile :=
  ExceptT.mk (.call (.exchangeCode code) fun (profile : Except String GoogleProfile) =>
    .done (profile.mapError AppError.auth))

/-! ### Permissions -/

inductive Permission where
  | usersRead
  | usersManage
  | usersAssignRoles
  | filesUpload
  | filesReadOwn
  | filesReadAll
  | filesDeleteOwn
  | filesDeleteAny
  | formatsManageOwn
  | formatsManageAny
  | mappingsManageOwn
  | mappingsManageAny
  | jobsRun
  deriving DecidableEq, Repr

def Permission.asStr : Permission → String
  | .usersRead => "users.read"
  | .usersManage => "users.manage"
  | .usersAssignRoles => "users.assign_roles"
  | .filesUpload => "files.upload"
  | .filesReadOwn => "files.read_own"
  | .filesReadAll => "files.read_all"
  | .filesDeleteOwn => "files.delete_own"
  | .filesDeleteAny => "files.delete_any"
  | .formatsManageOwn => "formats.manage_own"
  | .formatsManageAny => "formats.manage_any"
  | .mappingsManageOwn => "mappings.manage_own"
  | .mappingsManageAny => "mappings.manage_any"
  | .jobsRun => "jobs.run"

def loadPermissions (userId : Uuid) : ExceptT AppError Server (List String) := do
  let v ← UserDb.permissionsFor userId
  return v

/-- Permissions are compared by name. The list is the one that was loaded before. -/
def require (perms : List String) (p : Permission) : ExceptT AppError m Unit :=
  if perms.contains p.asStr then return () else throw .forbidden

/-! ### As programs of the server -/

section Run

@[simp] theorem run_hashPassword (plain : String) :
    (hashPassword (m := Server) plain).run = .call .saltGenerate fun (salt : String) =>
      .done ((External.argon2Hash plain salt).mapError fun e => .auth ("hash: " ++ e)) := by
  rw [hashPassword_run]
  rfl

@[simp] theorem run_verifyPassword (plain phc : String) :
    (verifyPassword (m := Server) plain phc).run =
      .done ((External.argon2Verify plain phc).mapError fun e => .auth ("parse hash: " ++ e)) := by
  unfold verifyPassword
  cases External.argon2Verify plain phc <;> rfl

omit [External] in
@[simp] theorem generateRefreshToken_eq :
    (generateRefreshToken : Server String) = .call .randomBytes fun (bytes : BitVec 256) =>
      .done (hexEncode bytes) := rfl

omit [External] in
@[simp] theorem generateVerificationToken_eq :
    (generateVerificationToken : Server String) = .call .newV4 fun (first : Uuid) =>
      .call .newV4 fun (second : Uuid) => .done (hexEncode first ++ hexEncode second) := rfl

@[simp] theorem JwtCodec.run_issue (codec : JwtCodec) (userId : Uuid) (role : Role) :
    (codec.issue (m := Server) userId role).run = .call .nowUtc fun (instant : OffsetDateTime) =>
      .call .newV4 fun (jti : Uuid) =>
        .done ((External.jwtEncode codec.cfg.secret (codec.claims userId role instant jti)).mapError
          fun e => .auth ("encode jwt: " ++ e)) := by
  refine congrArg (Program.call Op.nowUtc) (funext fun instant => ?_)
  refine congrArg (Program.call Op.newV4) (funext fun jti => ?_)
  change (match External.jwtEncode codec.cfg.secret (codec.claims userId role instant jti) with
    | .ok token => _ | .error e => _ : ExceptT AppError Server String).run = _
  cases External.jwtEncode codec.cfg.secret (codec.claims userId role instant jti) <;> rfl

@[simp] theorem JwtCodec.run_verify (codec : JwtCodec) (token : String) :
    (codec.verify (m := Server) token).run = .call .nowUtc fun (instant : OffsetDateTime) =>
      .done ((External.jwtDecode codec.cfg.secret codec.cfg.issuer instant.unixTimestamp
        token).mapError fun _ => .unauthorized) := by
  refine congrArg (Program.call Op.nowUtc) (funext fun instant => ?_)
  change (match External.jwtDecode codec.cfg.secret codec.cfg.issuer _ token with
    | .ok claims => _ | .error e => _ : ExceptT AppError Server Claims).run = _
  cases External.jwtDecode codec.cfg.secret codec.cfg.issuer _ token <;> rfl

@[simp] theorem run_googleClient (cfg : GoogleConfig) :
    (googleClient (m := Server) cfg).run =
      .done (((External.redirectUrl cfg.redirectUrl).mapError
        fun e => .auth ("redirect url: " ++ e)).map fun _ => cfg) := by
  unfold googleClient
  cases External.redirectUrl cfg.redirectUrl <;> rfl

@[simp] theorem googleAuthorizeUrl_eq (client : GoogleConfig) :
    (googleAuthorizeUrl client : Server String) = .call .randomBytes fun (csrf : BitVec 256) =>
      .done (External.authorizeUrl client.clientId client.redirectUrl (hexEncode csrf)) := rfl

omit [External] in
@[simp] theorem run_googleExchangeCode (client : GoogleConfig) (code : String) :
    (googleExchangeCode client code).run = .call (.exchangeCode code)
      fun (profile : Except String GoogleProfile) => .done (profile.mapError .auth) := rfl

omit [External] in
@[simp] theorem run_loadPermissions (userId : Uuid) :
    (loadPermissions userId).run = .call (.sql (.permissionsFor userId))
      fun (names : SqlResult (List String)) =>
        .done (names.mapError fun e => .ofDbError (.sqlx e)) := by
  refine congrArg (Program.call (Op.sql _)) (funext fun names => ?_)
  cases names <;> rfl

omit [External] in
@[simp] theorem run_require (perms : List String) (p : Permission) :
    (require (m := Server) perms p).run =
      .done (if perms.contains p.asStr then .ok () else .error .forbidden) := by
  unfold require
  split <;> rfl

end Run

end GenericAuth
