import GenericAuth.Api.Server
import GenericAuth.Interaction.Course
import Mathlib.Tactic.Simps.Basic

/-! The courses that a request of the auth routes can take: all that its client asks for,
with the replies, and its outcome. Only replies are mentioned, so the courses are the same
in every interleaving. -/
namespace GenericAuth

open Interaction

abbrev Calls := List (Call Op Op.Reply)

instance (op : Op) : Nonempty op.Reply := by
  cases op with
  | sql statement => exact ⟨.error .rowNotFound⟩
  | nowUtc => exact ⟨(0 : Int)⟩
  | randomBytes | newV4 => exact ⟨0#_⟩
  | saltGenerate => exact ⟨""⟩
  | exchangeCode code => exact ⟨.error ""⟩
  | sendMail => exact ⟨()⟩

/-- How the failure of a statement ends a handler. -/
abbrev sqlStop (error : SqlxError) : Stop := .err (.ofDbError (.sqlx error))

/-! ### Accounts -/

/-- The two statements of a new account, which stop at the first that fails. -/
inductive CreateCourse (new : NewUser) : Calls → Except DbError User → Prop where
  | roleFailed (error : SqlxError) :
      CreateCourse new [⟨.sql (.roleIdFor new.role.asStr), .error error⟩] (.error (.sqlx error))
  | roleMissing : CreateCourse new [⟨.sql (.roleIdFor new.role.asStr), .ok none⟩]
      (.error (.sqlx .rowNotFound))
  | failed (roleId : Nat) (error : SqlxError) :
      CreateCourse new
        [⟨.sql (.roleIdFor new.role.asStr), .ok (some roleId)⟩,
          ⟨.sql (.insertUser new.email new.passwordHash new.displayName roleId new.emailVerified),
            .error error⟩]
        (.error (.sqlx error))
  | created (roleId : Nat) (columns : UserColumns) :
      CreateCourse new
        [⟨.sql (.roleIdFor new.role.asStr), .ok (some roleId)⟩,
          ⟨.sql (.insertUser new.email new.passwordHash new.displayName roleId new.emailVerified),
            .ok columns⟩]
        (.ok (columns.toUser new.role))

theorem createUser_course (new : NewUser) :
    (UserDb.createUser new).run.Takes (CreateCourse new) := by
  simp [UserDb.run_createUser, forall_except, Option.forall]
  exact ⟨.roleFailed, .roleMissing, fun roleId => ⟨.failed roleId, .created roleId⟩⟩

variable [External]

/-- An account with a password, from a body that is validated first. -/
inductive AccountCourse (errs : ValidationErrors) (password : String) (new : String → NewUser) :
    Calls → Except Stop User → Prop where
  | invalid (h : errs ≠ []) :
      AccountCourse errs password new [] (.error (.err (.fromValidationErrors errs)))
  | unhashed (valid : errs = []) {salt error : String}
      (h : External.argon2Hash password salt = .error error) :
      AccountCourse errs password new [⟨.saltGenerate, salt⟩]
        (.error (.err (.auth ("hash: " ++ error))))
  | failed (valid : errs = []) {salt phc : String}
      (hashed : External.argon2Hash password salt = .ok phc) {more : Calls} {error : DbError}
      (create : CreateCourse (new phc) more (.error error)) :
      AccountCourse errs password new (⟨.saltGenerate, salt⟩ :: more)
        (.error (.err (.ofDbError error)))
  | created (valid : errs = []) {salt phc : String}
      (hashed : External.argon2Hash password salt = .ok phc) {more : Calls} {user : User}
      (create : CreateCourse (new phc) more (.ok user)) :
      AccountCourse errs password new (⟨.saltGenerate, salt⟩ :: more) (.ok user)

/-- Registration and the command differ in their port and in the columns that they
ask for. Both store the hash of the password under the drawn salt. -/
theorem account_course {port : String → ExceptT AppError Server User} (errs : ValidationErrors)
    (password : String) (new : String → NewUser)
    (hPort : ∀ phc, port phc = liftM (UserDb.createUser (new phc))) :
    (do
      validated errs
      let phc ← hashPassword (m := Server) password
      port phc : AppResult User).run.Takes (AccountCourse errs password new) := by
  by_cases valid : errs = []
  case neg => simpa [ExceptT.run_bind, valid] using AccountCourse.invalid valid
  simp [ExceptT.run_bind, valid, hPort]
  intro salt
  cases hashed : External.argon2Hash password salt with
  | error error => exact .unhashed rfl hashed
  | ok phc =>
      simp
      apply (createUser_course (new phc)).imp
      intro more result create
      cases result with
      | error error => simpa using AccountCourse.failed rfl hashed create
      | ok user => simpa using AccountCourse.created rfl hashed create

variable (state : AppState)

/-! ### Sessions -/

/-- A new session is stored last. Until then only the clock and random bits have been
read, and a failure leaves nothing behind. -/
inductive IssueCourse (userId : Uuid) (role : Role) (userAgent : Option String) :
    Calls → Except Stop TokenPair → Prop where
  | unsigned {now : OffsetDateTime} {jti : Uuid} {error : String}
      (h : External.jwtEncode state.jwt.cfg.secret (state.jwt.claims userId role now jti) =
        .error error) :
      IssueCourse userId role userAgent [⟨.nowUtc, now⟩, ⟨.newV4, jti⟩]
        (.error (.err (.auth ("encode jwt: " ++ error))))
  | outOfRange (now : OffsetDateTime) (jti : Uuid) (bytes : BitVec 256) {instant : OffsetDateTime}
      {stop : Stop}
      (h : deadline instant (TDuration.days state.settings.auth.jwtRefreshTtlDays) = .error stop) :
      IssueCourse userId role userAgent
        [⟨.nowUtc, now⟩, ⟨.newV4, jti⟩, ⟨.randomBytes, bytes⟩, ⟨.nowUtc, instant⟩] (.error stop)
  | notStored (now : OffsetDateTime) (jti : Uuid) (bytes : BitVec 256)
      (instant expiresAt : OffsetDateTime) (error : SqlxError) :
      IssueCourse userId role userAgent
        [⟨.nowUtc, now⟩, ⟨.newV4, jti⟩, ⟨.randomBytes, bytes⟩, ⟨.nowUtc, instant⟩,
          ⟨.sql (.storeRefreshToken userId (hashRefreshToken (hexEncode bytes)) expiresAt
            userAgent), .error error⟩]
        (.error (sqlStop error))
  | stored {now : OffsetDateTime} {jti : Uuid} {access : String}
      (signed : External.jwtEncode state.jwt.cfg.secret (state.jwt.claims userId role now jti) =
        .ok access)
      (bytes : BitVec 256) {instant : OffsetDateTime} (expiresAt : OffsetDateTime)
      (inTime : deadline instant (TDuration.days state.settings.auth.jwtRefreshTtlDays) =
        .ok expiresAt)
      (id : Uuid) :
      IssueCourse userId role userAgent
        [⟨.nowUtc, now⟩, ⟨.newV4, jti⟩, ⟨.randomBytes, bytes⟩, ⟨.nowUtc, instant⟩,
          ⟨.sql (.storeRefreshToken userId (hashRefreshToken (hexEncode bytes)) expiresAt
            userAgent), .ok id⟩]
        (.ok { accessToken := access, refreshToken := hexEncode bytes,
               accessExpiresIn := state.settings.auth.jwtAccessTtlMin * 60 })

theorem issueTokens_course (userId : Uuid) (role : Role) (userAgent : Option String) :
    (issueTokens state userId role userAgent).run.Takes
      (IssueCourse state userId role userAgent) := by
  simp [issueTokens, ExceptT.run_bind]
  intro now jti
  cases signed : External.jwtEncode state.jwt.cfg.secret
      (state.jwt.claims userId role now jti) with
  | error error => exact .unsigned signed
  | ok access =>
      simp
      intro bytes instant
      cases inTime : deadline instant
          (TDuration.days state.settings.auth.jwtRefreshTtlDays) with
      | error stop => exact .outOfRange now jti bytes inTime
      | ok expiresAt =>
          simp [forall_except]
          exact ⟨.notStored now jti bytes instant expiresAt, .stored signed bytes expiresAt inTime⟩

omit [External] in
/-- A pair in the answer is the one that was issued. -/
theorem pair_of_map {result : Except Stop TokenPair} {pair : TokenPair}
    (h : Payload.tokenPair <$> result = .ok (.tokenPair pair)) : result = .ok pair := by
  cases result with
  | error stop => cases h
  | ok value => rw [Payload.tokenPair.inj (Except.ok.inj h)]

/-- The flag of the account is looked at last, after the password was verified. -/
inductive LoginCourse (body : LoginReq) : Calls → Outcome → Prop where
  | failed (error : SqlxError) :
      LoginCourse body [⟨.sql (.findByEmail body.email), .error error⟩] (.error (sqlStop error))
  | unknown : LoginCourse body [⟨.sql (.findByEmail body.email), .ok none⟩]
      (.error (.err (.auth "Invalid email or password")))
  | passwordless {found : UserSecretRecord} (h : found.passwordHash = none) :
      LoginCourse body [⟨.sql (.findByEmail body.email), .ok (some found)⟩]
        (.error (.err (.auth "password login disabled")))
  | unreadable {found : UserSecretRecord} {phc error : String}
      (hHash : found.passwordHash = some phc)
      (h : External.argon2Verify body.password phc = .error error) :
      LoginCourse body [⟨.sql (.findByEmail body.email), .ok (some found)⟩]
        (.error (.err (.auth ("parse hash: " ++ error))))
  | mismatch {found : UserSecretRecord} {phc : String} (hHash : found.passwordHash = some phc)
      (h : External.argon2Verify body.password phc = .ok false) :
      LoginCourse body [⟨.sql (.findByEmail body.email), .ok (some found)⟩]
        (.error (.err (.auth "Invalid email or password")))
  | disabled {found : UserSecretRecord} {phc : String} (hHash : found.passwordHash = some phc)
      (hVerify : External.argon2Verify body.password phc = .ok true)
      (h : found.isActive = false) :
      LoginCourse body [⟨.sql (.findByEmail body.email), .ok (some found)⟩]
        (.error (.err .forbidden))
  | issued {found : UserSecretRecord} {phc : String} (hHash : found.passwordHash = some phc)
      (hVerify : External.argon2Verify body.password phc = .ok true)
      (hActive : found.isActive = true) {more : Calls} {result : Except Stop TokenPair}
      (issue : IssueCourse state found.id found.toUser.role none more result) :
      LoginCourse body (⟨.sql (.findByEmail body.email), .ok (some found)⟩ :: more)
        (Payload.tokenPair <$> result)

theorem login_course (body : LoginReq) :
    (handle state (.login body)).Takes (LoginCourse state body) := by
  simp [handle, login, ExceptT.run_bind, forall_except, Option.forall]
  refine ⟨.failed, .unknown, fun found => ?_⟩
  cases hHash : found.passwordHash with
  | none => simpa [UserSecretRecord.toUserWithSecret, hHash] using LoginCourse.passwordless hHash
  | some phc =>
      simp [UserSecretRecord.toUserWithSecret, hHash, ExceptT.run_bind]
      cases hVerify : External.argon2Verify body.password phc with
      | error error => exact .unreadable hHash hVerify
      | ok verified =>
          cases verified with
          | false => exact .mismatch hHash hVerify
          | true =>
              simp
              refine ⟨fun hActive => ?_, fun h => .disabled hHash hVerify h⟩
              apply (issueTokens_course state _ _ none).imp
              exact fun more result issue => .issued hHash hVerify hActive issue

/-- The presented session is revoked before its owner is looked up and before the new
one is stored. What fails in between loses it. -/
inductive RefreshCourse (body : RefreshReq) : Calls → Outcome → Prop where
  | failed (error : SqlxError) :
      RefreshCourse body
        [⟨.sql (.lookupRefreshToken (hashRefreshToken body.refreshToken)), .error error⟩]
        (.error (sqlStop error))
  | unknown :
      RefreshCourse body
        [⟨.sql (.lookupRefreshToken (hashRefreshToken body.refreshToken)), .ok none⟩]
        (.error (.err .unauthorized))
  | revoked (owner : Uuid) (expiresAt instant : OffsetDateTime) :
      RefreshCourse body
        [⟨.sql (.lookupRefreshToken (hashRefreshToken body.refreshToken)),
          .ok (some (owner, expiresAt, some instant))⟩]
        (.error (.err .unauthorized))
  | expired (owner : Uuid) {expiresAt now : OffsetDateTime} (h : expiresAt ≤ now) :
      RefreshCourse body
        [⟨.sql (.lookupRefreshToken (hashRefreshToken body.refreshToken)),
          .ok (some (owner, expiresAt, none))⟩, ⟨.nowUtc, now⟩]
        (.error (.err .unauthorized))
  | notRevoked (owner : Uuid) {expiresAt now : OffsetDateTime} (live : now < expiresAt)
      (error : SqlxError) :
      RefreshCourse body
        [⟨.sql (.lookupRefreshToken (hashRefreshToken body.refreshToken)),
          .ok (some (owner, expiresAt, none))⟩, ⟨.nowUtc, now⟩,
          ⟨.sql (.revokeRefreshToken (hashRefreshToken body.refreshToken)), .error error⟩]
        (.error (sqlStop error))
  | notFound (owner : Uuid) {expiresAt now : OffsetDateTime} (live : now < expiresAt)
      (error : SqlxError) :
      RefreshCourse body
        [⟨.sql (.lookupRefreshToken (hashRefreshToken body.refreshToken)),
          .ok (some (owner, expiresAt, none))⟩, ⟨.nowUtc, now⟩,
          ⟨.sql (.revokeRefreshToken (hashRefreshToken body.refreshToken)), .ok ()⟩,
          ⟨.sql (.findById owner), .error error⟩]
        (.error (sqlStop error))
  | ownerless (owner : Uuid) {expiresAt now : OffsetDateTime} (live : now < expiresAt) :
      RefreshCourse body
        [⟨.sql (.lookupRefreshToken (hashRefreshToken body.refreshToken)),
          .ok (some (owner, expiresAt, none))⟩, ⟨.nowUtc, now⟩,
          ⟨.sql (.revokeRefreshToken (hashRefreshToken body.refreshToken)), .ok ()⟩,
          ⟨.sql (.findById owner), .ok none⟩]
        (.error (.err .unauthorized))
  | issued (owner : Uuid) {expiresAt now : OffsetDateTime} (live : now < expiresAt)
      (found : UserRecord) {more : Calls} {result : Except Stop TokenPair}
      (issue : IssueCourse state found.id found.toUser.role none more result) :
      RefreshCourse body
        ([⟨.sql (.lookupRefreshToken (hashRefreshToken body.refreshToken)),
          .ok (some (owner, expiresAt, none))⟩, ⟨.nowUtc, now⟩,
          ⟨.sql (.revokeRefreshToken (hashRefreshToken body.refreshToken)), .ok ()⟩,
          ⟨.sql (.findById owner), .ok (some found)⟩] ++ more)
        (Payload.tokenPair <$> result)

theorem refresh_course (body : RefreshReq) :
    (handle state (.refresh body)).Takes (RefreshCourse state body) := by
  simp [handle, refresh, ExceptT.run_bind, forall_except, Option.forall]
  refine ⟨.failed, .unknown, fun owner expiresAt =>
    ⟨fun now => ⟨fun expired => .expired owner expired, fun live => ?_⟩, .revoked owner expiresAt⟩⟩
  refine ⟨.notRevoked owner live, fun _ =>
    ⟨.notFound owner live, .ownerless owner live, fun found => ?_⟩⟩
  apply (issueTokens_course state _ _ none).imp
  exact fun more result issue => .issued owner live found issue

inductive LogoutCourse (body : LogoutReq) : Calls → Outcome → Prop where
  | failed (error : SqlxError) :
      LogoutCourse body
        [⟨.sql (.revokeRefreshToken (hashRefreshToken body.refreshToken)), .error error⟩]
        (.error (sqlStop error))
  | revoked :
      LogoutCourse body
        [⟨.sql (.revokeRefreshToken (hashRefreshToken body.refreshToken)), .ok ()⟩] (.ok .empty)

theorem logout_course (body : LogoutReq) :
    (handle state (.logout body)).Takes (LogoutCourse body) := by
  simp [handle, logout, forall_except]
  exact ⟨.failed, fun _ => .revoked⟩

/-! ### Registration -/

/-- The mail is sent only if its token was stored. A statement that fails is
swallowed, but a date out of range is not. -/
inductive MailCourse (userId : Uuid) (email : String) :
    Calls → Except Stop (Except Unit Unit) → Prop where
  | outOfRange (first second : Uuid) {now : OffsetDateTime} {stop : Stop}
      (h : deadline now (TDuration.hours 24) = .error stop) :
      MailCourse userId email [⟨.newV4, first⟩, ⟨.newV4, second⟩, ⟨.nowUtc, now⟩] (.error stop)
  | notStored (first second : Uuid) (now expiresAt : OffsetDateTime) (error : SqlxError) :
      MailCourse userId email
        [⟨.newV4, first⟩, ⟨.newV4, second⟩, ⟨.nowUtc, now⟩,
          ⟨.sql (.storeEmailVerificationToken userId
            (sha256Hex (hexEncode first ++ hexEncode second)) expiresAt), .error error⟩]
        (.ok (.error ()))
  | sent (first second : Uuid) (now expiresAt : OffsetDateTime) :
      MailCourse userId email
        [⟨.newV4, first⟩, ⟨.newV4, second⟩, ⟨.nowUtc, now⟩,
          ⟨.sql (.storeEmailVerificationToken userId
            (sha256Hex (hexEncode first ++ hexEncode second)) expiresAt), .ok ()⟩,
          ⟨.sendMail email "Confirm your email address" (verificationText
            (verificationLink state (hexEncode first ++ hexEncode second))), ()⟩]
        (.ok (.ok ()))

theorem spawnVerificationEmail_course (userId : Uuid) (email : String) :
    (spawnVerificationEmail state userId email).run.Takes (MailCourse state userId email) := by
  simp [spawnVerificationEmail, ExceptT.run_bind]
  intro first second now
  cases h : deadline now (TDuration.hours 24) with
  | error stop => exact .outOfRange first second h
  | ok expiresAt =>
      simp [sendVerificationEmail, forall_except]
      exact ⟨.notStored first second now expiresAt, fun _ => .sent first second now expiresAt⟩

@[simps] def RegisterReq.newUser (body : RegisterReq) (phc : String) : NewUser where
  email := some body.email
  passwordHash := some phc
  displayName := body.displayName
  role := .user
  emailVerified := false

/-- The account, and its first session. -/
inductive EnrolCourse (body : RegisterReq) : Calls → Except Stop TokenPair → Prop where
  | refused {calls : Calls} {stop : Stop}
      (account : AccountCourse body.validate body.password body.newUser calls (.error stop)) :
      EnrolCourse body calls (.error stop)
  | created {first more : Calls} {user : User} {result : Except Stop TokenPair}
      (account : AccountCourse body.validate body.password body.newUser first (.ok user))
      (issue : IssueCourse state user.id user.role none more result) :
      EnrolCourse body (first ++ more) result

theorem enrol_course (body : RegisterReq) :
    (registerUser state.registerPort body state.settings.auth.jwtAccessTtlMin
      state.settings.auth.jwtRefreshTtlDays).run.Takes (EnrolCourse state body) := by
  rw [registerUser_eq, ExceptT.run_bind, Program.takes_bind]
  apply (account_course body.validate body.password body.newUser fun _ => rfl).imp
  intro first result account
  cases result with
  | error stop => simpa using EnrolCourse.refused account
  | ok user =>
      apply (issueTokens_course state _ _ none).imp
      exact fun more result issue => .created account issue

/-- The account is complete before the mail is prepared, so the answer has the tokens
unless the mail stops the handler. -/
inductive RegistrationCourse (body : RegisterReq) : Calls → Outcome → Prop where
  | refused {calls : Calls} {stop : Stop} (enrol : EnrolCourse state body calls (.error stop)) :
      RegistrationCourse body calls (.error stop)
  | notFound {calls : Calls} {pair : TokenPair} (enrol : EnrolCourse state body calls (.ok pair))
      (error : SqlxError) :
      RegistrationCourse body (calls ++ [⟨.sql (.findByEmail body.email), .error error⟩])
        (.ok (.tokenPair pair))
  | unknown {calls : Calls} {pair : TokenPair} (enrol : EnrolCourse state body calls (.ok pair)) :
      RegistrationCourse body (calls ++ [⟨.sql (.findByEmail body.email), .ok none⟩])
        (.ok (.tokenPair pair))
  | mailed {calls more : Calls} {pair : TokenPair} {result : Except Stop (Except Unit Unit)}
      (enrol : EnrolCourse state body calls (.ok pair)) (found : UserSecretRecord)
      (mail : MailCourse state found.id body.email more result) :
      RegistrationCourse body (calls ++ ⟨.sql (.findByEmail body.email), .ok (some found)⟩ :: more)
        ((fun _ => .tokenPair pair) <$> result)

theorem register_course (body : RegisterReq) :
    (handle state (.register body)).Takes (RegistrationCourse state body) := by
  simp [handle, register, ExceptT.run_bind]
  apply (enrol_course state body).imp
  intro calls result enrol
  cases result with
  | error stop => simpa using RegistrationCourse.refused enrol
  | ok pair =>
      simp [forall_except, Option.forall]
      refine ⟨.notFound enrol, .unknown enrol, fun found => ?_⟩
      apply (spawnVerificationEmail_course state _ _).imp
      intro more result mail
      cases result with
      | error stop => simpa using RegistrationCourse.mailed enrol found mail
      | ok sent => simpa using RegistrationCourse.mailed enrol found mail

@[simps] def CreateAdminArgs.newUser (args : CreateAdminArgs) (phc : String) : NewUser where
  email := some args.email
  passwordHash := some phc
  displayName := none
  role := .admin
  emailVerified := true

inductive AdminCreationCourse (args : CreateAdminArgs) : Calls → Outcome → Prop where
  | refused {calls : Calls} {stop : Stop}
      (account : AccountCourse args.validate args.password args.newUser calls (.error stop)) :
      AdminCreationCourse args calls (.error stop)
  | created {calls : Calls} {user : User}
      (account : AccountCourse args.validate args.password args.newUser calls (.ok user)) :
      AdminCreationCourse args calls (.ok (.user user))

theorem createAdmin_course (args : CreateAdminArgs) :
    (handle state (.createAdmin args)).Takes (AdminCreationCourse args) := by
  rw [handle, ExceptT.run_map, Program.takes_map, createAdminUser]
  apply (account_course args.validate args.password args.newUser fun _ => rfl).imp
  intro calls result account
  cases result with
  | error stop => exact .refused account
  | ok user => exact .created account

/-! ### E-mail verification -/

inductive VerifyEmailCourse (q : VerifyEmailQuery) : Calls → Outcome → Prop where
  | failed (error : SqlxError) :
      VerifyEmailCourse q
        [⟨.sql (.consumeEmailVerificationToken (sha256Hex q.token)), .error error⟩]
        (.error (sqlStop error))
  | unknown :
      VerifyEmailCourse q [⟨.sql (.consumeEmailVerificationToken (sha256Hex q.token)), .ok none⟩]
        (.error (.err (.badRequest "invalid or expired token")))
  | notMarked (userId : Uuid) (error : SqlxError) :
      VerifyEmailCourse q
        [⟨.sql (.consumeEmailVerificationToken (sha256Hex q.token)), .ok (some userId)⟩,
          ⟨.sql (.markEmailVerified userId), .error error⟩]
        (.error (sqlStop error))
  | marked (userId : Uuid) :
      VerifyEmailCourse q
        [⟨.sql (.consumeEmailVerificationToken (sha256Hex q.token)), .ok (some userId)⟩,
          ⟨.sql (.markEmailVerified userId), .ok ()⟩]
        (.ok .empty)

theorem verifyEmail_course (q : VerifyEmailQuery) :
    (handle state (.verifyEmail q)).Takes (VerifyEmailCourse q) := by
  simp [handle, verifyEmail, ExceptT.run_bind, forall_except, Option.forall]
  exact ⟨.failed, .unknown, fun userId => ⟨.notMarked userId, fun _ => .marked userId⟩⟩

/-! ### Password recovery -/

/-- Accounts without a password get no link, like addresses that nobody has. -/
inductive ResetLinkCourse (email : String) (resetTtlHours : Int64) :
    Calls → Except Stop (Option String) → Prop where
  | failed (error : SqlxError) :
      ResetLinkCourse email resetTtlHours [⟨.sql (.findByEmail email), .error error⟩]
        (.error (sqlStop error))
  | unknown :
      ResetLinkCourse email resetTtlHours [⟨.sql (.findByEmail email), .ok none⟩] (.ok none)
  | passwordless {found : UserSecretRecord} (h : found.passwordHash = none) :
      ResetLinkCourse email resetTtlHours [⟨.sql (.findByEmail email), .ok (some found)⟩] (.ok none)
  | outOfRange {found : UserSecretRecord} {phc : String} (hHash : found.passwordHash = some phc)
      (first second : Uuid) {now : OffsetDateTime} {stop : Stop}
      (h : deadline now (TDuration.hours resetTtlHours) = .error stop) :
      ResetLinkCourse email resetTtlHours
        [⟨.sql (.findByEmail email), .ok (some found)⟩, ⟨.newV4, first⟩, ⟨.newV4, second⟩,
          ⟨.nowUtc, now⟩]
        (.error stop)
  | notStored {found : UserSecretRecord} {phc : String} (hHash : found.passwordHash = some phc)
      (first second : Uuid) {now expiresAt : OffsetDateTime}
      (inTime : deadline now (TDuration.hours resetTtlHours) = .ok expiresAt) (error : SqlxError) :
      ResetLinkCourse email resetTtlHours
        [⟨.sql (.findByEmail email), .ok (some found)⟩, ⟨.newV4, first⟩, ⟨.newV4, second⟩,
          ⟨.nowUtc, now⟩, ⟨.sql (.storePasswordResetToken found.id
            (sha256Hex (hexEncode first ++ hexEncode second)) expiresAt), .error error⟩]
        (.error (sqlStop error))
  | stored {found : UserSecretRecord} {phc : String} (hHash : found.passwordHash = some phc)
      (first second : Uuid) {now expiresAt : OffsetDateTime}
      (inTime : deadline now (TDuration.hours resetTtlHours) = .ok expiresAt) :
      ResetLinkCourse email resetTtlHours
        [⟨.sql (.findByEmail email), .ok (some found)⟩, ⟨.newV4, first⟩, ⟨.newV4, second⟩,
          ⟨.nowUtc, now⟩, ⟨.sql (.storePasswordResetToken found.id
            (sha256Hex (hexEncode first ++ hexEncode second)) expiresAt), .ok ()⟩]
        (.ok (some (hexEncode first ++ hexEncode second)))

theorem resetLink_course (email : String) (resetTtlHours : Int64) :
    (requestPasswordReset passwordResetPort email resetTtlHours).run.Takes
      (ResetLinkCourse email resetTtlHours) := by
  simp [requestPasswordReset, passwordResetPort, ExceptT.run_bind, forall_except, Option.forall]
  refine ⟨.failed, .unknown, fun found => ?_⟩
  cases hHash : found.passwordHash with
  | none => simpa [UserSecretRecord.toUserWithSecret, hHash] using .passwordless hHash
  | some phc =>
      simp [UserSecretRecord.toUserWithSecret, hHash]
      intro first second now
      cases inTime : deadline now (TDuration.hours resetTtlHours) with
      | error stop => exact .outOfRange hHash first second inTime
      | ok expiresAt =>
          simp [forall_except]
          exact ⟨.notStored hHash first second inTime, fun _ => .stored hHash first second inTime⟩

/-- Whatever error the port reports, the answer is empty. Only a panic gets through. -/
inductive ForgotPasswordCourse (body : ForgotPasswordReq) : Calls → Outcome → Prop where
  | silent {calls : Calls} {error : AppError}
      (link : ResetLinkCourse body.email 1 calls (.error (.err error))) :
      ForgotPasswordCourse body calls (.ok .empty)
  | panicked {calls : Calls} {message : String}
      (link : ResetLinkCourse body.email 1 calls (.error (.panic message))) :
      ForgotPasswordCourse body calls (.error (.panic message))
  | nothing {calls : Calls} (link : ResetLinkCourse body.email 1 calls (.ok none)) :
      ForgotPasswordCourse body calls (.ok .empty)
  | mailed {calls : Calls} {token : String}
      (link : ResetLinkCourse body.email 1 calls (.ok (some token))) :
      ForgotPasswordCourse body
        (calls ++ [⟨.sendMail body.email "Reset your password" (resetText (resetLink state token)),
          ()⟩])
        (.ok .empty)

theorem forgotPassword_course (body : ForgotPasswordReq) :
    (handle state (.forgotPassword body)).Takes (ForgotPasswordCourse state body) := by
  simp [handle, forgotPassword, ExceptT.run_bind]
  apply (resetLink_course body.email 1).imp
  intro calls result link
  rcases result with (error | message) | none | token
  · simpa using ForgotPasswordCourse.silent link
  · simpa using ForgotPasswordCourse.panicked link
  · simpa using ForgotPasswordCourse.nothing link
  · simp [sendPasswordResetEmail]
    exact fun _ => .mailed link

/-- The token is consumed first, and neither a failed hash nor a failed statement gives
it back. -/
inductive ResetPasswordCourse (body : ResetPasswordReq) : Calls → Outcome → Prop where
  | invalid (h : body.validate ≠ []) :
      ResetPasswordCourse body [] (.error (.err (.fromValidationErrors body.validate)))
  | failed (valid : body.validate = []) (error : SqlxError) :
      ResetPasswordCourse body
        [⟨.sql (.consumePasswordResetToken (sha256Hex body.token)), .error error⟩]
        (.error (sqlStop error))
  | unknown (valid : body.validate = []) :
      ResetPasswordCourse body
        [⟨.sql (.consumePasswordResetToken (sha256Hex body.token)), .ok none⟩]
        (.error (.err (.badRequest "invalid or expired token")))
  | unhashed (valid : body.validate = []) (userId : Uuid) {salt error : String}
      (h : External.argon2Hash body.newPassword salt = .error error) :
      ResetPasswordCourse body
        [⟨.sql (.consumePasswordResetToken (sha256Hex body.token)), .ok (some userId)⟩,
          ⟨.saltGenerate, salt⟩]
        (.error (.err (.auth ("hash: " ++ error))))
  | notUpdated (valid : body.validate = []) (userId : Uuid) {salt phc : String}
      (hashed : External.argon2Hash body.newPassword salt = .ok phc) (error : SqlxError) :
      ResetPasswordCourse body
        [⟨.sql (.consumePasswordResetToken (sha256Hex body.token)), .ok (some userId)⟩,
          ⟨.saltGenerate, salt⟩, ⟨.sql (.updatePasswordHash phc userId), .error error⟩]
        (.error (sqlStop error))
  | notRevoked (valid : body.validate = []) (userId : Uuid) {salt phc : String}
      (hashed : External.argon2Hash body.newPassword salt = .ok phc) (error : SqlxError) :
      ResetPasswordCourse body
        [⟨.sql (.consumePasswordResetToken (sha256Hex body.token)), .ok (some userId)⟩,
          ⟨.saltGenerate, salt⟩, ⟨.sql (.updatePasswordHash phc userId), .ok ()⟩,
          ⟨.sql (.revokeAllRefreshTokens userId), .error error⟩]
        (.error (sqlStop error))
  | reset (valid : body.validate = []) (userId : Uuid) {salt phc : String}
      (hashed : External.argon2Hash body.newPassword salt = .ok phc) :
      ResetPasswordCourse body
        [⟨.sql (.consumePasswordResetToken (sha256Hex body.token)), .ok (some userId)⟩,
          ⟨.saltGenerate, salt⟩, ⟨.sql (.updatePasswordHash phc userId), .ok ()⟩,
          ⟨.sql (.revokeAllRefreshTokens userId), .ok ()⟩]
        (.ok .empty)

theorem resetPassword_course (body : ResetPasswordReq) :
    (handle state (.resetPassword body)).Takes (ResetPasswordCourse body) := by
  by_cases valid : body.validate = []
  case neg =>
    simpa [handle, resetPassword, performPasswordReset, ExceptT.run_bind, valid]
      using ResetPasswordCourse.invalid valid
  simp [handle, resetPassword, performPasswordReset, passwordResetPort, ExceptT.run_bind, valid,
    forall_except, Option.forall]
  refine ⟨.failed valid, .unknown valid, fun userId salt => ?_⟩
  cases hashed : External.argon2Hash body.newPassword salt with
  | error error => exact .unhashed valid userId hashed
  | ok phc =>
      simp [forall_except]
      exact ⟨.notUpdated valid userId hashed, fun _ =>
        ⟨.notRevoked valid userId hashed, fun _ => .reset valid userId hashed⟩⟩

/-! ### Identity provider -/

/-- The random state goes into the URL and is not stored. -/
inductive GoogleStartCourse : Calls → Outcome → Prop where
  | disabled (h : state.googleConfig.clientId.isEmpty = true) :
      GoogleStartCourse [] (.error (.err (.badRequest "google oauth disabled")))
  | badUrl {error : String}
      (h : External.redirectUrl state.googleConfig.redirectUrl = .error error) :
      GoogleStartCourse [] (.error (.err (.auth ("redirect url: " ++ error))))
  | redirected (bytes : BitVec 256) :
      GoogleStartCourse [⟨.randomBytes, bytes⟩]
        (.ok (.redirect (External.authorizeUrl state.googleConfig.clientId
          state.googleConfig.redirectUrl (hexEncode bytes))))

theorem googleStart_course : (handle state .googleStart).Takes (GoogleStartCourse state) := by
  simp [handle, googleStart, ExceptT.run_bind]
  refine ⟨fun h => .disabled (by simpa using h), fun _ => ?_⟩
  cases h : External.redirectUrl state.googleConfig.redirectUrl with
  | error error => exact .badUrl h
  | ok _ => exact .redirected

@[simps] def GoogleProfile.newUser (profile : GoogleProfile) : NewUser where
  email := profile.email
  passwordHash := none
  displayName := profile.name
  role := .user
  emailVerified := profile.email.isSome

/-- The account of a profile, and the identity that binds it. -/
inductive UpsertCourse (profile : GoogleProfile) : Calls → Except Stop User → Prop where
  | failed (error : SqlxError) :
      UpsertCourse profile [⟨.sql (.findUserByOauth "google" profile.sub), .error error⟩]
        (.error (sqlStop error))
  | notRenewed (found : UserRecord) (error : SqlxError) :
      UpsertCourse profile
        [⟨.sql (.findUserByOauth "google" profile.sub), .ok (some found)⟩,
          ⟨.sql (.upsertOauthIdentity found.id "google" profile.sub profile.email profile),
            .error error⟩]
        (.error (sqlStop error))
  | renewed (found : UserRecord) :
      UpsertCourse profile
        [⟨.sql (.findUserByOauth "google" profile.sub), .ok (some found)⟩,
          ⟨.sql (.upsertOauthIdentity found.id "google" profile.sub profile.email profile),
            .ok ()⟩]
        (.ok found.toUser)
  | notCreated {more : Calls} {error : DbError}
      (create : CreateCourse profile.newUser more (.error error)) :
      UpsertCourse profile (⟨.sql (.findUserByOauth "google" profile.sub), .ok none⟩ :: more)
        (.error (.err (.ofDbError error)))
  | notBound {more : Calls} {user : User}
      (create : CreateCourse profile.newUser more (.ok user))
      (error : SqlxError) :
      UpsertCourse profile
        (⟨.sql (.findUserByOauth "google" profile.sub), .ok none⟩ :: more ++
          [⟨.sql (.upsertOauthIdentity user.id "google" profile.sub profile.email profile),
            .error error⟩])
        (.error (sqlStop error))
  | bound {more : Calls} {user : User}
      (create : CreateCourse profile.newUser more (.ok user)) :
      UpsertCourse profile
        (⟨.sql (.findUserByOauth "google" profile.sub), .ok none⟩ :: more ++
          [⟨.sql (.upsertOauthIdentity user.id "google" profile.sub profile.email profile),
            .ok ()⟩])
        (.ok user)

omit [External] in
theorem upsertOauthUser_course (profile : GoogleProfile) :
    (upsertOauthUser "google" profile.sub profile.email profile.name profile).run.Takes
      (UpsertCourse profile) := by
  simp [upsertOauthUser, ExceptT.run_bind, forall_except, Option.forall]
  refine ⟨.failed, ?_, fun found => ⟨.notRenewed found, fun _ => .renewed found⟩⟩
  apply (createUser_course profile.newUser).imp
  intro more result create
  cases result with
  | error error => simpa using UpsertCourse.notCreated create
  | ok user =>
      simp [forall_except]
      exact ⟨.notBound create, fun _ => .bound create⟩

/-- The profile decides on the account, and the query carries nothing else that is
read. -/
inductive GoogleCallbackCourse (q : OAuthCallbackQuery) : Calls → Outcome → Prop where
  | badUrl {error : String}
      (h : External.redirectUrl state.googleConfig.redirectUrl = .error error) :
      GoogleCallbackCourse q [] (.error (.err (.auth ("redirect url: " ++ error))))
  | notExchanged (hUrl : External.redirectUrl state.googleConfig.redirectUrl = .ok ())
      (error : String) :
      GoogleCallbackCourse q [⟨.exchangeCode q.code, .error error⟩] (.error (.err (.auth error)))
  | refused (hUrl : External.redirectUrl state.googleConfig.redirectUrl = .ok ())
      {profile : GoogleProfile} {more : Calls} {stop : Stop}
      (upsert : UpsertCourse profile more (.error stop)) :
      GoogleCallbackCourse q (⟨.exchangeCode q.code, .ok profile⟩ :: more) (.error stop)
  | signedIn (hUrl : External.redirectUrl state.googleConfig.redirectUrl = .ok ())
      {profile : GoogleProfile} {first more : Calls} {user : User}
      {result : Except Stop TokenPair} (upsert : UpsertCourse profile first (.ok user))
      (issue : IssueCourse state user.id user.role none more result) :
      GoogleCallbackCourse q (⟨.exchangeCode q.code, .ok profile⟩ :: first ++ more)
        (Payload.tokenPair <$> result)

theorem googleCallback_course (q : OAuthCallbackQuery) :
    (handle state (.googleCallback q)).Takes (GoogleCallbackCourse state q) := by
  rw [handle, ExceptT.run_map, Program.takes_map]
  simp [googleCallback, ExceptT.run_bind]
  cases hUrl : External.redirectUrl state.googleConfig.redirectUrl with
  | error error => exact .badUrl hUrl
  | ok _ =>
      simp [forall_except]
      refine ⟨.notExchanged hUrl, fun profile => ?_⟩
      apply (upsertOauthUser_course profile).imp
      intro first result upsert
      cases result with
      | error stop => simpa using GoogleCallbackCourse.refused hUrl upsert
      | ok user =>
          apply (issueTokens_course state _ _ none).imp
          exact fun more result issue => .signedIn hUrl upsert issue

end GenericAuth
