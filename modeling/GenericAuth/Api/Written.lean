import GenericAuth.Api.Admin
import GenericAuth.Api.Recovery

/-! The writes of every request, in order, with the reads that decided on them. An
error leaves a first part of these writes behind. -/
namespace GenericAuth

open Interaction Relational

variable [External]

/-- The call that stores the session of a pair, whose access token was signed for
this user in this role. -/
structure Session (state : AppState) (calls : Calls) (userId : Uuid) (role : Role)
    (pair : TokenPair) (store : Call Op Op.Reply) : Prop where
  signed : ∃ now jti, (⟨.nowUtc, now⟩ : Call Op Op.Reply) ∈ calls ∧ External.jwtEncode
    state.jwt.cfg.secret (state.jwt.claims userId role now jti) = .ok pair.accessToken
  stored : ∃ now expiresAt id, (⟨.nowUtc, now⟩ : Call Op Op.Reply) ∈ calls ∧
    deadline now (TDuration.days state.settings.auth.jwtRefreshTtlDays) = .ok expiresAt ∧
    store = ⟨.sql (.storeRefreshToken userId (hashRefreshToken pair.refreshToken) expiresAt none),
      .ok id⟩

theorem Session.mono {state : AppState} {past calls : Calls} {userId : Uuid} {role : Role}
    {pair : TokenPair} {store : Call Op Op.Reply} (h : past ⊆ calls)
    (session : Session state past userId role pair store) :
    Session state calls userId role pair store := by
  obtain ⟨⟨now, jti, hNow, hSigned⟩, instant, expiresAt, id, hInstant, hDeadline, hStore⟩ := session
  exact ⟨⟨now, jti, h hNow, hSigned⟩, instant, expiresAt, id, h hInstant, hDeadline, hStore⟩

/-- Requests that may succeed without a write. -/
def Request.mayOnlyRead : Request → Bool
  | .resendVerification _ | .forgotPassword _ | .googleStart | .me _ | .myPermissions _
  | .listUsers .. => true
  | _ => false

/-- The call that a successful admin request writes with. -/
def AdminWrite : Request → Call Op Op.Reply → Prop
  | .setRole _ id _, write => ∃ roleId, write = ⟨.sql (.updateRole roleId id), .ok ()⟩
  | .setActive _ id body, write => write = ⟨.sql (.updateActive body.active id), .ok ()⟩
  | .grantPermission _ id body, write =>
      write = ⟨.sql (.grantPermission id body.permission body.granted), .ok ()⟩
  | _, _ => False

/-- What a request has written when it answers. -/
inductive Written (state : AppState) (calls : Calls) : Request → Outcome → Prop where
  | refused {request : Request} (stop : Stop) (quiet : writes calls = []) :
      Written state calls request (.error stop)
  | answered {request : Request} {payload : Payload} (hRead : request.mayOnlyRead = true)
      (quiet : writes calls = []) : Written state calls request (.ok payload)
  | login {body : LoginReq} {found : UserSecretRecord} {phc : String} {pair : TokenPair} {store}
      (reads : [⟨.sql (.findByEmail body.email), .ok (some found)⟩] <+: calls)
      (hHash : found.passwordHash = some phc)
      (hVerify : External.argon2Verify body.password phc = .ok true) (hActive : found.isActive = true)
      (session : Session state calls found.id found.toUser.role pair store)
      (hWrites : writes calls = [store]) :
      Written state calls (.login body) (.ok (.tokenPair pair))
  | refreshLost {body : RefreshReq} {owner : Uuid} {expiresAt now : OffsetDateTime} (stop : Stop)
      (reads : [⟨.sql (.lookupRefreshToken (hashRefreshToken body.refreshToken)),
        .ok (some (owner, expiresAt, none))⟩, ⟨.nowUtc, now⟩] <+: calls) (hLive : now < expiresAt)
      (hWrites : writes calls =
        [⟨.sql (.revokeRefreshToken (hashRefreshToken body.refreshToken)), .ok ()⟩]) :
      Written state calls (.refresh body) (.error stop)
  | refresh {body : RefreshReq} {owner : Uuid} {expiresAt now : OffsetDateTime} {found : UserRecord}
      {pair : TokenPair} {store}
      (reads : [⟨.sql (.lookupRefreshToken (hashRefreshToken body.refreshToken)),
        .ok (some (owner, expiresAt, none))⟩, ⟨.nowUtc, now⟩] <+: calls) (hLive : now < expiresAt)
      (hFound : Saw calls (.findById owner) (some found))
      (session : Session state calls found.id found.toUser.role pair store)
      (hWrites : writes calls =
        [⟨.sql (.revokeRefreshToken (hashRefreshToken body.refreshToken)), .ok ()⟩, store]) :
      Written state calls (.refresh body) (.ok (.tokenPair pair))
  | logout {body : LogoutReq}
      (hWrites : writes calls =
        [⟨.sql (.revokeRefreshToken (hashRefreshToken body.refreshToken)), .ok ()⟩]) :
      Written state calls (.logout body) (.ok .empty)
  | verifyLost {q : VerifyEmailQuery} (userId : Uuid) (stop : Stop)
      (hWrites : writes calls =
        [⟨.sql (.consumeEmailVerificationToken (sha256Hex q.token)), .ok (some userId)⟩]) :
      Written state calls (.verifyEmail q) (.error stop)
  | verify {q : VerifyEmailQuery} (userId : Uuid)
      (hWrites : writes calls =
        [⟨.sql (.consumeEmailVerificationToken (sha256Hex q.token)), .ok (some userId)⟩,
          ⟨.sql (.markEmailVerified userId), .ok ()⟩]) :
      Written state calls (.verifyEmail q) (.ok .empty)
  | resend {authorization : Option String} {now : OffsetDateTime} {userId : Uuid}
      (tokenHash : String) (expiresAt : OffsetDateTime)
      (reads : [⟨.nowUtc, now⟩] <+: calls) (presents : Presents state authorization now userId)
      (hWrites : writes calls =
        [⟨.sql (.storeEmailVerificationToken userId tokenHash expiresAt), .ok ()⟩]) :
      Written state calls (.resendVerification authorization) (.ok .empty)
  | forgot {body : ForgotPasswordReq} {found : UserSecretRecord} (tokenHash : String)
      (expiresAt : OffsetDateTime)
      (reads : [⟨.sql (.findByEmail body.email), .ok (some found)⟩] <+: calls)
      (hWrites : writes calls =
        [⟨.sql (.storePasswordResetToken found.id tokenHash expiresAt), .ok ()⟩]) :
      Written state calls (.forgotPassword body) (.ok .empty)
  | resetLost {body : ResetPasswordReq} (userId : Uuid) (stop : Stop)
      (hWrites : writes calls =
        [⟨.sql (.consumePasswordResetToken (sha256Hex body.token)), .ok (some userId)⟩]) :
      Written state calls (.resetPassword body) (.error stop)
  | resetHalf {body : ResetPasswordReq} (userId : Uuid) (phc : String) (stop : Stop)
      (failed : Failed calls (.revokeAllRefreshTokens userId))
      (hWrites : writes calls =
        [⟨.sql (.consumePasswordResetToken (sha256Hex body.token)), .ok (some userId)⟩,
          ⟨.sql (.updatePasswordHash phc userId), .ok ()⟩]) :
      Written state calls (.resetPassword body) (.error stop)
  | reset {body : ResetPasswordReq} (userId : Uuid) (phc : String)
      (hWrites : writes calls =
        [⟨.sql (.consumePasswordResetToken (sha256Hex body.token)), .ok (some userId)⟩,
          ⟨.sql (.updatePasswordHash phc userId), .ok ()⟩,
          ⟨.sql (.revokeAllRefreshTokens userId), .ok ()⟩]) :
      Written state calls (.resetPassword body) (.ok .empty)
  | bindLost {q : OAuthCallbackQuery} {profile : GoogleProfile} {found : UserRecord} (stop : Stop)
      (reads : [⟨.exchangeCode q.code, .ok profile⟩,
        ⟨.sql (.findUserByOauth "google" profile.sub), .ok (some found)⟩] <+: calls)
      (hWrites : writes calls = [⟨.sql (.upsertOauthIdentity found.id "google" profile.sub
        profile.email profile), .ok ()⟩]) :
      Written state calls (.googleCallback q) (.error stop)
  | bind {q : OAuthCallbackQuery} {profile : GoogleProfile} {found : UserRecord} {pair : TokenPair}
      {store}
      (reads : [⟨.exchangeCode q.code, .ok profile⟩,
        ⟨.sql (.findUserByOauth "google" profile.sub), .ok (some found)⟩] <+: calls)
      (session : Session state calls found.id found.toUser.role pair store)
      (hWrites : writes calls = [⟨.sql (.upsertOauthIdentity found.id "google" profile.sub
        profile.email profile), .ok ()⟩, store]) :
      Written state calls (.googleCallback q) (.ok (.tokenPair pair))
  | signUpLost {q : OAuthCallbackQuery} {profile : GoogleProfile} (roleId : Nat)
      (columns : UserColumns) (stop : Stop)
      (reads : [⟨.exchangeCode q.code, .ok profile⟩,
        ⟨.sql (.findUserByOauth "google" profile.sub), .ok none⟩] <+: calls)
      (hWrites : writes calls <+: [⟨.sql (.insertUser profile.email none profile.name roleId
          profile.email.isSome), .ok columns⟩,
        ⟨.sql (.upsertOauthIdentity columns.id "google" profile.sub profile.email profile), .ok ()⟩]) :
      Written state calls (.googleCallback q) (.error stop)
  | signUp {q : OAuthCallbackQuery} {profile : GoogleProfile} (roleId : Nat)
      (columns : UserColumns) {pair : TokenPair} {store}
      (reads : [⟨.exchangeCode q.code, .ok profile⟩,
        ⟨.sql (.findUserByOauth "google" profile.sub), .ok none⟩] <+: calls)
      (session : Session state calls columns.id .user pair store)
      (hWrites : writes calls = [⟨.sql (.insertUser profile.email none profile.name roleId
          profile.email.isSome), .ok columns⟩,
        ⟨.sql (.upsertOauthIdentity columns.id "google" profile.sub profile.email profile), .ok ()⟩,
        store]) :
      Written state calls (.googleCallback q) (.ok (.tokenPair pair))
  | registerLost {body : RegisterReq} (phc : String) (roleId : Nat) (columns : UserColumns)
      (stop : Stop)
      (hWrites : writes calls = [⟨.sql (.insertUser (some body.email) (some phc) body.displayName
        roleId false), .ok columns⟩]) :
      Written state calls (.register body) (.error stop)
  | registerPanic {body : RegisterReq} (phc : String) (roleId : Nat) (columns : UserColumns)
      {pair : TokenPair} {store} {now : OffsetDateTime} {stop : Stop}
      (hNow : (⟨.nowUtc, now⟩ : Call Op Op.Reply) ∈ calls)
      (hMail : deadline now (TDuration.hours 24) = .error stop)
      (session : Session state calls columns.id .user pair store)
      (hWrites : writes calls = [⟨.sql (.insertUser (some body.email) (some phc) body.displayName
        roleId false), .ok columns⟩, store]) :
      Written state calls (.register body) (.error stop)
  | register {body : RegisterReq} (phc : String) (roleId : Nat) (columns : UserColumns)
      {pair : TokenPair} {store} {more : Calls}
      (session : Session state calls columns.id .user pair store)
      (hMail : more = [] ∨ ∃ (found : UserSecretRecord) (tokenHash : String)
        (expiresAt : OffsetDateTime), Saw calls (.findByEmail body.email) (some found) ∧
          more = [⟨.sql (.storeEmailVerificationToken found.id tokenHash expiresAt), .ok ()⟩])
      (hWrites : writes calls = [⟨.sql (.insertUser (some body.email) (some phc) body.displayName
        roleId false), .ok columns⟩, store] ++ more) :
      Written state calls (.register body) (.ok (.tokenPair pair))
  | createAdmin {args : CreateAdminArgs} (phc : String) (roleId : Nat) (columns : UserColumns)
      (hWrites : writes calls = [⟨.sql (.insertUser (some args.email) (some phc) none roleId true),
        .ok columns⟩]) :
      Written state calls (.createAdmin args) (.ok (.user (columns.toUser .admin)))
  | admin {request : Request} {authorization : Option String} {p : Permission} {payload : Payload}
      {write} (hCall : adminCall request = some (authorization, p)) (hWrite : AdminWrite request write)
      (hWrites : writes calls = [write]) : Written state calls request (.ok payload)

/-! ### The parts of a request -/

variable {state : AppState} {calls : Calls} {userId : Uuid} {outcome : Outcome}

theorem IssueCourse.session {role : Role} {pair : TokenPair}
    (course : IssueCourse state userId role none calls (.ok pair)) :
    ∃ store, Session state calls userId role pair store ∧ writes calls = [store] := by
  cases course with
  | stored signed bytes expiresAt inTime id =>
      exact ⟨_, ⟨⟨_, _, by simp, signed⟩, _, expiresAt, id, by simp, inTime, rfl⟩,
        by simp [wrote]⟩

/-- Until the account is created nothing is written, and afterwards only its session. -/
theorem EnrolCourse.lost {body : RegisterReq} {stop : Stop}
    (course : EnrolCourse state body calls (.error stop)) :
    writes calls = [] ∨ ∃ phc roleId columns, writes calls = [⟨.sql (.insertUser
      (some body.email) (some phc) body.displayName roleId false), .ok columns⟩] := by
  cases course with
  | refused account => exact .inl account.quiet
  | created account issue =>
      obtain ⟨phc, roleId, columns, -, hWrites⟩ := account.writes
      exact .inr ⟨phc, roleId, columns, by simp [hWrites, issue.quiet]⟩

theorem EnrolCourse.session {body : RegisterReq} {pair : TokenPair}
    (course : EnrolCourse state body calls (.ok pair)) :
    ∃ phc roleId columns store, Session state calls columns.id .user pair store ∧
      writes calls = [⟨.sql (.insertUser (some body.email) (some phc) body.displayName roleId
        false), .ok columns⟩, store] := by
  cases course with
  | created account issue =>
      obtain ⟨phc, roleId, columns, rfl, hWrites⟩ := account.writes
      obtain ⟨store, session, hStore⟩ := issue.session
      exact ⟨phc, roleId, columns, store, session.mono (List.subset_append_right _ _),
        by simp [hWrites, hStore]⟩

/-- A mail is sent if its token was stored. -/
theorem MailCourse.writes {email : String} {sent : Except Unit Unit}
    (course : MailCourse state userId email calls (.ok sent)) :
    writes calls = [] ∨ ∃ tokenHash expiresAt, writes calls =
      [⟨.sql (.storeEmailVerificationToken userId tokenHash expiresAt), .ok ()⟩] := by
  cases course with
  | notStored => exact .inl (by simp [wrote])
  | sent first second now expiresAt =>
      exact .inr ⟨sha256Hex (hexEncode first ++ hexEncode second), expiresAt, by simp [wrote]⟩

/-! ### The requests -/

theorem RegistrationCourse.written {body : RegisterReq}
    (course : RegistrationCourse state body calls outcome) :
    Written state calls (.register body) outcome := by
  cases course with
  | refused enrol =>
      rcases enrol.lost with quiet | ⟨phc, roleId, columns, hWrites⟩
      · exact .refused _ quiet
      · exact .registerLost phc roleId columns _ hWrites
  | notFound enrol | unknown enrol =>
      obtain ⟨phc, roleId, columns, store, session, hWrites⟩ := enrol.session
      exact .register phc roleId columns (session.mono (List.subset_append_left _ _)) (.inl rfl)
        (by simp [hWrites, wrote])
  | @mailed first more pair result enrol found mail =>
      obtain ⟨phc, roleId, columns, store, session, hWrites⟩ := enrol.session
      have own := session.mono (List.subset_append_left first
        (⟨.sql (.findByEmail body.email), .ok (some found)⟩ :: more))
      cases result with
      | error stop =>
          cases mail with
          | outOfRange _ _ hMail =>
              exact .registerPanic phc roleId columns (by simp) hMail own
                (by simp [hWrites, wrote])
      | ok sent =>
          rcases mail.writes with quiet | ⟨tokenHash, expiresAt, hSent⟩
          · exact .register phc roleId columns own (.inl rfl) (by simp [hWrites, wrote, quiet])
          · exact .register phc roleId columns own
              (.inr ⟨found, tokenHash, expiresAt, by simp [Saw], rfl⟩)
              (by simp [hWrites, wrote, hSent])

theorem LoginCourse.written {body : LoginReq} (course : LoginCourse state body calls outcome) :
    Written state calls (.login body) outcome := by
  cases course with
  | @issued _ _ hHash hVerify hActive more result issue =>
      cases result with
      | error stop => exact .refused stop (by simp [wrote, issue.quiet])
      | ok pair =>
          obtain ⟨store, session, hStore⟩ := issue.session
          exact .login ⟨more, rfl⟩ hHash hVerify hActive
            (session.mono (List.subset_cons_self _ _)) (by simp [wrote, hStore])
  | _ => exact .refused _ (by simp [wrote])

theorem RefreshCourse.written {body : RefreshReq}
    (course : RefreshCourse state body calls outcome) :
    Written state calls (.refresh body) outcome := by
  cases course with
  | failed | unknown | revoked | expired | notRevoked => exact .refused _ (by simp [wrote])
  | notFound owner live | ownerless owner live =>
      exact .refreshLost _ ⟨_, rfl⟩ live (by simp [wrote])
  | @issued owner _ _ live found more result issue =>
      cases result with
      | error stop => exact .refreshLost stop ⟨_, rfl⟩ live (by simp [wrote, issue.quiet])
      | ok pair =>
          obtain ⟨store, session, hStore⟩ := issue.session
          exact .refresh ⟨_, rfl⟩ live (by simp [Saw])
            (session.mono (List.subset_append_right _ _)) (by simp [wrote, hStore])

theorem ResendCourse.written {authorization : Option String}
    (course : ResendCourse state authorization calls outcome) :
    Written state calls (.resendVerification authorization) outcome := by
  cases course with
  | refused auth => exact .refused _ auth.quiet
  | failed | unknown => exact .refused _ (by simp [wrote])
  | confirmed | addressless => exact .answered rfl (by simp [wrote])
  | @mailed _ _ presents _ _ _ _ more result mail =>
      cases result with
      | error stop => exact .refused stop (by simp [wrote, mail.quiet])
      | ok sent =>
          rcases mail.writes with quiet | ⟨tokenHash, expiresAt, hSent⟩
          · exact .answered rfl (by simp [wrote, quiet])
          · exact .resend tokenHash expiresAt ⟨_, rfl⟩ presents (by simp [wrote, hSent])

theorem ForgotPasswordCourse.written {body : ForgotPasswordReq}
    (course : ForgotPasswordCourse state body calls outcome) :
    Written state calls (.forgotPassword body) outcome := by
  cases course with
  | silent link => exact .answered rfl (by cases link <;> simp [wrote])
  | panicked link => exact .refused _ (by cases link; simp [wrote])
  | nothing link => exact .answered rfl (by cases link <;> simp [wrote])
  | mailed link =>
      cases link with
      | @stored found phc hHash first second now expiresAt inTime =>
          exact .forgot (sha256Hex (hexEncode first ++ hexEncode second)) expiresAt ⟨_, rfl⟩
            (by simp [wrote])

theorem ResetPasswordCourse.written {body : ResetPasswordReq}
    (course : ResetPasswordCourse body calls outcome) :
    Written state calls (.resetPassword body) outcome := by
  cases course with
  | invalid | failed | unknown => exact .refused _ (by simp [wrote])
  | unhashed valid userId | notUpdated valid userId => exact .resetLost userId _ (by simp [wrote])
  | @notRevoked valid userId salt phc hashed error =>
      exact .resetHalf userId phc _ ⟨error, by simp⟩ (by simp [wrote])
  | @reset valid userId salt phc hashed => exact .reset userId phc (by simp [wrote])

theorem GoogleCallbackCourse.written {q : OAuthCallbackQuery}
    (course : GoogleCallbackCourse state q calls outcome) :
    Written state calls (.googleCallback q) outcome := by
  cases course with
  | badUrl | notExchanged => exact .refused _ (by simp [wrote])
  | refused hUrl upsert =>
      cases upsert with
      | failed | notRenewed => exact .refused _ (by simp [wrote])
      | notCreated create => exact .refused _ (by simp [wrote, create.quiet])
      | notBound create =>
          obtain ⟨roleId, columns, -, hWrites⟩ := create.writes
          exact .signUpLost roleId columns _ ⟨_, rfl⟩ (by simp [wrote, hWrites])
  | @signedIn hUrl profile first more user result upsert issue =>
      cases upsert with
      | renewed found =>
          cases result with
          | error stop =>
              exact .bindLost stop ⟨_, rfl⟩ (by simp [wrote, issue.quiet])
          | ok pair =>
              obtain ⟨store, session, hStore⟩ := issue.session
              exact .bind ⟨_, rfl⟩ (session.mono (List.subset_append_right _ _))
                (by simp [wrote, hStore])
      | bound create =>
          obtain ⟨roleId, columns, rfl, hWrites⟩ := create.writes
          cases result with
          | error stop =>
              exact .signUpLost roleId columns stop ⟨_, rfl⟩
                (by simp [wrote, hWrites, issue.quiet, UserColumns.toUser])
          | ok pair =>
              obtain ⟨store, session, hStore⟩ := issue.session
              exact .signUp roleId columns ⟨_, rfl⟩ (session.mono (List.subset_append_right _ _))
                (by simp [wrote, hWrites, hStore, UserColumns.toUser])

theorem AdminCourse.written {request : Request} {authorization : Option String} {p : Permission}
    (hCall : adminCall request = some (authorization, p))
    (course : AdminCourse state request authorization p calls outcome) :
    Written state calls request outcome := by
  have effect := course.effect
  cases outcome with
  | error stop => exact .refused stop effect
  | ok payload =>
      cases request with
      | setRole authorization id body =>
          obtain ⟨roleId, _, hWrites⟩ := effect
          exact .admin hCall ⟨roleId, rfl⟩ hWrites
      | setActive | grantPermission => exact .admin hCall rfl effect
      | listUsers => exact .answered rfl effect
      | _ => cases hCall

/-- What every request has written when it answers. -/
theorem Course.written {request : Request} (course : Course state request calls outcome) :
    Written state calls request outcome := by
  cases request with
  | register body => exact RegistrationCourse.written course
  | login body => exact LoginCourse.written course
  | refresh body => exact RefreshCourse.written course
  | logout body =>
      cases course with
      | failed => exact .refused _ (by simp [wrote])
      | revoked => exact .logout (by simp [wrote])
  | verifyEmail q =>
      cases course with
      | failed | unknown => exact .refused _ (by simp [wrote])
      | notMarked userId => exact .verifyLost userId _ (by simp [wrote])
      | marked userId => exact .verify userId (by simp [wrote])
  | resendVerification authorization => exact ResendCourse.written course
  | forgotPassword body => exact ForgotPasswordCourse.written course
  | resetPassword body => exact ResetPasswordCourse.written course
  | googleStart =>
      cases course with
      | disabled | badUrl => exact .refused _ rfl
      | redirected => exact .answered rfl (by simp [wrote])
  | googleCallback q => exact GoogleCallbackCourse.written course
  | me authorization =>
      cases course with
      | refused auth => exact .refused _ auth.quiet
      | failed | unknown => exact .refused _ (by simp [wrote])
      | answered => exact .answered rfl (by simp [wrote])
  | myPermissions authorization =>
      cases course with
      | refused auth => exact .refused _ auth.quiet
      | failed => exact .refused _ (by simp [wrote])
      | answered => exact .answered rfl (by simp [wrote])
  | listUsers | setRole | setActive | grantPermission => exact AdminCourse.written rfl course
  | createAdmin args =>
      cases course with
      | refused account => exact .refused _ account.quiet
      | created account =>
          obtain ⟨phc, roleId, columns, rfl, hWrites⟩ := account.writes
          exact .createAdmin phc roleId columns hWrites

end GenericAuth
