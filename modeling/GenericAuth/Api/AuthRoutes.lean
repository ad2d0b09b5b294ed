import GenericAuth.Api.State

/-! Registration and login, identity provider sign-in, refresh-token rotation,
logout, e-mail verification and password recovery. -/
namespace GenericAuth

variable [External]

structure TokenPair where
  accessToken : String
  refreshToken : String
  accessExpiresIn : Int64
  deriving DecidableEq, Repr

/-- The rule `length(min = 8)`, which counts characters. -/
def validateLength (field value : String) : ValidationErrors :=
  if 8 ≤ value.length then [] else [(field, [⟨"length", none, some 8, none⟩])]

/-- The rule `email`. -/
def validateEmail (field value : String) : ValidationErrors :=
  if External.validateEmail value then [] else [(field, [⟨"email", none, none, none⟩])]

/-! ### Registration -/

structure RegisterReq where
  email : String
  password : String
  displayName : Option String
  deriving DecidableEq, Repr

def RegisterReq.validate (body : RegisterReq) : ValidationErrors :=
  validateEmail "email" body.email ++ validateLength "password" body.password

/-- What the registration flow needs from its surroundings. -/
structure RegisterPort (m : Type → Type) where
  createUser : (email passwordHash : String) → (displayName : Option String) →
    ExceptT AppError m User
  storeRefreshToken : (userId : Uuid) → (tokenHash : String) → (expiresAt : OffsetDateTime) →
    ExceptT AppError m Unit
  issueAccessToken : (userId : Uuid) → (role : Role) → ExceptT AppError m String

def AppState.registerPort (state : AppState) : RegisterPort Server where
  createUser email passwordHash displayName :=
    UserDb.createUser { email := some email, passwordHash := some passwordHash, displayName,
                        role := .user, emailVerified := false }
  storeRefreshToken userId tokenHash expiresAt := do
    let _ ← UserDb.storeRefreshToken userId tokenHash expiresAt none
  issueAccessToken userId role := state.jwt.issue userId role

def registerUser {m : Type → Type} [Monad m] [Runtime m] (port : RegisterPort m)
    (body : RegisterReq) (accessTtlMin refreshTtlDays : Int64) : ExceptT Stop m TokenPair := do
  validated body.validate
  let phc ← hashPassword (m := m) body.password
  let user ← port.createUser body.email phc body.displayName
  let access ← port.issueAccessToken user.id user.role
  let refresh ← (generateRefreshToken : m String)
  let hash := hashRefreshToken refresh
  let expiresAt ← fromNow (TDuration.days refreshTtlDays)
  port.storeRefreshToken user.id hash expiresAt
  return { accessToken := access, refreshToken := refresh, accessExpiresIn := accessTtlMin * 60 }

/-- Store a verification token and hand the mail to the background. The inner
result is the function's own; a panic is not caught by it. -/
def spawnVerificationEmail (state : AppState) (userId : Uuid) (email : String) :
    AppResult (Except Unit Unit) := do
  let token ← (generateVerificationToken : Server String)
  let hash := sha256Hex token
  let expiresAt ← fromNow (TDuration.hours 24)
  match ← ExceptT.lift (UserDb.storeEmailVerificationToken userId hash expiresAt).run with
  | .error _ => return .error ()
  | .ok () =>
      let url := verificationLink state token
      sendVerificationEmail email url
      return .ok ()

/-- The verification mail is best effort: no failure of it is reported. -/
def register (state : AppState) (body : RegisterReq) : AppResult TokenPair := do
  let pair ← registerUser state.registerPort body state.settings.auth.jwtAccessTtlMin
    state.settings.auth.jwtRefreshTtlDays
  match ← ExceptT.lift (UserDb.findByEmail body.email).run with
  | .ok (some u) =>
      let _ ← spawnVerificationEmail state u.user.id body.email
      return pair
  | _ => return pair

/-! ### Tokens and sessions -/

def issueTokens (state : AppState) (userId : Uuid) (role : Role) (userAgent : Option String) :
    AppResult TokenPair := do
  let access ← state.jwt.issue (m := Server) userId role
  let refresh ← (generateRefreshToken : Server String)
  let hash := hashRefreshToken refresh
  let exp ← fromNow (TDuration.days state.settings.auth.jwtRefreshTtlDays)
  let _ ← UserDb.storeRefreshToken userId hash exp userAgent
  return { accessToken := access, refreshToken := refresh,
           accessExpiresIn := state.settings.auth.jwtAccessTtlMin * 60 }

/-- The account of a registration, which has no tokens yet. -/
def createAccount (state : AppState) (body : RegisterReq) : AppResult User := do
  validated body.validate
  let phc ← hashPassword (m := Server) body.password
  state.registerPort.createUser body.email phc body.displayName

theorem registerPort_storeRefreshToken (state : AppState) (userId : Uuid) (tokenHash : String)
    (expiresAt : OffsetDateTime) {Value : Type} (value : Value) :
    (do
      state.registerPort.storeRefreshToken userId tokenHash expiresAt
      return value : AppResult Value) = (do
        let _ ← UserDb.storeRefreshToken userId tokenHash expiresAt none
        return value) := by
  apply ExceptT.ext
  simp [AppState.registerPort]
  funext r
  cases r <;> rfl

theorem registerUser_eq (state : AppState) (body : RegisterReq) :
    registerUser state.registerPort body state.settings.auth.jwtAccessTtlMin
        state.settings.auth.jwtRefreshTtlDays =
      createAccount state body >>= fun user => issueTokens state user.id user.role none := by
  simp only [registerUser, createAccount, bind_assoc, registerPort_storeRefreshToken]
  rfl

structure LoginReq where
  email : String
  password : String
  deriving DecidableEq, Repr

def login (state : AppState) (body : LoginReq) : AppResult TokenPair := do
  let some row ← UserDb.findByEmail body.email
    | throw (.err (.auth "Invalid email or password"))
  let some phc := row.passwordHash
    | throw (.err (.auth "password login disabled"))
  unless ← verifyPassword (m := Server) body.password phc do
    throw (.err (.auth "Invalid email or password"))
  unless row.user.isActive do
    throw (.err .forbidden)
  issueTokens state row.user.id row.user.role none

structure RefreshReq where
  refreshToken : String
  deriving DecidableEq, Repr

def refresh (state : AppState) (body : RefreshReq) : AppResult TokenPair := do
  let hash := hashRefreshToken body.refreshToken
  let some (userId, expiresAt, revokedAt) ← UserDb.lookupRefreshToken hash
    | throw (.err .unauthorized)
  -- The clock is read only for a token that is not revoked.
  if revokedAt.isSome then
    throw (.err .unauthorized)
  if expiresAt ≤ (← (Runtime.nowUtc : Server OffsetDateTime)) then
    throw (.err .unauthorized)
  UserDb.revokeRefreshToken hash
  let some user ← UserDb.findById userId
    | throw (.err .unauthorized)
  issueTokens state user.id user.role none

structure LogoutReq where
  refreshToken : String
  deriving DecidableEq, Repr

def logout (body : LogoutReq) : AppResult Unit := do
  let hash := hashRefreshToken body.refreshToken
  UserDb.revokeRefreshToken hash

/-! ### Identity provider -/

def googleStart (state : AppState) : AppResult String := do
  let cfg := state.googleConfig
  if cfg.clientId.isEmpty then
    throw (.err (.badRequest "google oauth disabled"))
  let client ← googleClient (m := Server) cfg
  let url ← (googleAuthorizeUrl client : Server String)
  return url

structure OAuthCallbackQuery where
  code : String
  state : Option String
  deriving DecidableEq, Repr

/-- The account of a provider's subject, created on the first sign-in. -/
def upsertOauthUser (provider subject : String) (email displayName : Option String)
    (raw : GoogleProfile) : AppResult User := do
  match ← UserDb.findUserByOauth provider subject with
  | some u =>
      UserDb.upsertOauthIdentity u.id provider subject email raw
      return u
  | none =>
      let user ← UserDb.createUser
        { email, passwordHash := none, displayName, role := .user, emailVerified := email.isSome }
      UserDb.upsertOauthIdentity user.id provider subject email raw
      return user

/-- The callback does not look at the `state` parameter. -/
def googleCallback (state : AppState) (q : OAuthCallbackQuery) : AppResult TokenPair := do
  let client ← googleClient (m := Server) state.googleConfig
  let profile ← googleExchangeCode client q.code
  let user ← upsertOauthUser "google" profile.sub profile.email profile.name profile
  issueTokens state user.id user.role none

/-! ### Requests with an access token -/

/-- `str::strip_prefix`. -/
def stripPrefix (start text : String) : Option String :=
  if start.toList.isPrefixOf text.toList then
    some (String.ofList (text.toList.drop start.length))
  else none

/-- `str::trim`; header values contain no other white space. -/
def trim (text : String) : String :=
  String.ofList
    ((text.toList.dropWhile Char.isWhitespace).reverse.dropWhile Char.isWhitespace).reverse

/-- An accepted access token, whether or not the e-mail is confirmed. -/
structure AuthUser where
  userId : Uuid
  role : Role
  deriving DecidableEq, Repr

/-- The extractor takes the text of the `Authorization` header, if there is one. -/
def authUser (state : AppState) (authorization : Option String) : ExceptT AppError Server AuthUser := do
  let some header := authorization | throw .unauthorized
  let some token := (stripPrefix "Bearer " header).map trim | throw .unauthorized
  let claims ← state.jwt.verify token
  return { userId := claims.sub, role := (Role.parse claims.role).getD .user }

/-- An accepted access token of a user with a confirmed e-mail. -/
structure VerifiedUser where
  userId : Uuid
  role : Role
  deriving DecidableEq, Repr

def verifiedUser (state : AppState) (authorization : Option String) :
    ExceptT AppError Server VerifiedUser := do
  let auth ← authUser state authorization
  let some user ← UserDb.findById auth.userId | throw .unauthorized
  unless user.emailVerified do
    throw .emailNotVerified
  return { userId := auth.userId, role := auth.role }

/-! ### E-mail verification -/

structure VerifyEmailQuery where
  token : String
  deriving DecidableEq, Repr

def verifyEmail (q : VerifyEmailQuery) : AppResult Unit := do
  let hash := sha256Hex q.token
  let some userId ← UserDb.consumeEmailVerificationToken hash
    | throw (.err (.badRequest "invalid or expired token"))
  UserDb.markEmailVerified userId

def resendVerification (state : AppState) (authorization : Option String) : AppResult Unit := do
  let auth ← authUser state authorization
  let some user ← UserDb.findById auth.userId | throw (.err .unauthorized)
  if user.emailVerified then
    return ()
  match user.email with
  | some email =>
      let _ ← spawnVerificationEmail state auth.userId email
      return ()
  | none => return ()

/-! ### Password recovery -/

structure PasswordResetPort (m : Type → Type) where
  /-- User id and whether the user has a password. -/
  findByEmailForReset : (email : String) → ExceptT AppError m (Option (Uuid × Bool))
  storeResetToken : (userId : Uuid) → (tokenHash : String) → (expiresAt : OffsetDateTime) →
    ExceptT AppError m Unit
  consumeResetToken : (tokenHash : String) → ExceptT AppError m (Option Uuid)
  updatePassword : (userId : Uuid) → (phc : String) → ExceptT AppError m Unit
  revokeSessions : (userId : Uuid) → ExceptT AppError m Unit

def passwordResetPort : PasswordResetPort Server where
  findByEmailForReset email := do
    let row ← UserDb.findByEmail email
    return row.map fun row => (row.user.id, row.passwordHash.isSome)
  storeResetToken userId tokenHash expiresAt :=
    UserDb.storePasswordResetToken userId tokenHash expiresAt
  consumeResetToken tokenHash := UserDb.consumePasswordResetToken tokenHash
  updatePassword userId phc := UserDb.updatePasswordHash userId phc
  revokeSessions userId := UserDb.revokeAllRefreshTokens userId

section Port

variable {m : Type → Type} [Monad m] [Runtime m] (port : PasswordResetPort m)

/-- `none` when there is nothing to do: no such account, or no password. -/
def requestPasswordReset (email : String) (resetTtlHours : Int64) :
    ExceptT Stop m (Option String) := do
  let some (userId, hasPassword) ← port.findByEmailForReset email | return none
  if !hasPassword then
    return none
  let token ← (generateVerificationToken : m String)
  let hash := sha256Hex token
  let expiresAt ← fromNow (TDuration.hours resetTtlHours)
  port.storeResetToken userId hash expiresAt
  return some token

structure ResetPasswordReq where
  token : String
  newPassword : String
  deriving DecidableEq, Repr

def ResetPasswordReq.validate (body : ResetPasswordReq) : ValidationErrors :=
  validateLength "new_password" body.newPassword

/-- The token is consumed before the new password is hashed. -/
def performPasswordReset (body : ResetPasswordReq) : ExceptT Stop m Unit := do
  validated body.validate
  let tokenHash := sha256Hex body.token
  let some userId ← port.consumeResetToken tokenHash
    | throw (.err (.badRequest "invalid or expired token"))
  let phc ← hashPassword (m := m) body.newPassword
  port.updatePassword userId phc
  port.revokeSessions userId

end Port

structure ForgotPasswordReq where
  email : String
  deriving DecidableEq, Repr

/-- Every outcome but a panic is answered alike. -/
def forgotPassword (state : AppState) (body : ForgotPasswordReq) : AppResult Unit := do
  match ← ExceptT.lift (requestPasswordReset passwordResetPort body.email 1).run with
  | .ok (some token) =>
      let url := resetLink state token
      sendPasswordResetEmail body.email url
  | .error (.panic message) => throw (.panic message)
  | _ => return ()

def resetPassword (body : ResetPasswordReq) : AppResult Unit :=
  performPasswordReset passwordResetPort body

end GenericAuth
