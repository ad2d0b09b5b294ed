import GenericAuth.Api.Course

/-! What the client of a request has seen before each of its writes, and before
it returns. Only replies are mentioned, so the facts hold in every interleaving. -/
namespace GenericAuth

open Interaction

/-- The statement succeeded with these rows. -/
def Saw (calls : Calls) (statement : Statement) (rows : statement.Rows) : Prop :=
  (⟨.sql statement, .ok rows⟩ : Call Op Op.Reply) ∈ calls

/-- The provider answered the code with this profile. -/
def Exchanged (calls : Calls) (code : String) (profile : GoogleProfile) : Prop :=
  (⟨.exchangeCode code, .ok profile⟩ : Call Op Op.Reply) ∈ calls

/-- An account was created with this id. -/
def Created (calls : Calls) (userId : Uuid) : Prop :=
  ∃ email passwordHash displayName roleId emailVerified row,
    Saw calls (.insertUser email passwordHash displayName roleId emailVerified) row ∧
      row.id = userId

/-- No call so far was one of the selected operations. -/
def Unasked (calls : Calls) (selected : Op → Bool) : Prop :=
  ∀ call ∈ calls, selected call.op = false

def Op.isExchange : Op → Bool
  | .exchangeCode _ => true
  | _ => false

def Op.isInsertUser : Op → Bool
  | .sql (.insertUser ..) => true
  | _ => false

def Op.isUpsertIdentity : Op → Bool
  | .sql (.upsertOauthIdentity ..) => true
  | _ => false

def Op.isUpdatePassword : Op → Bool
  | .sql (.updatePasswordHash ..) => true
  | _ => false

/-- The operations that a client performs once at most. -/
def onceOnly : List (Op → Bool) :=
  [Op.isExchange, Op.isInsertUser, Op.isUpsertIdentity, Op.isUpdatePassword]

variable [External]

/-- The hash was made of this password, with a salt that was drawn. -/
def HashOf (calls : Calls) (plain phc : String) : Prop :=
  ∃ salt, (⟨.saltGenerate, salt⟩ : Call Op Op.Reply) ∈ calls ∧
    External.argon2Hash plain salt = .ok phc

theorem HashOf.mono {past calls : Calls} {plain phc : String} (h : past ⊆ calls)
    (hashOf : HashOf past plain phc) : HashOf calls plain phc := by
  obtain ⟨salt, drawn, hHash⟩ := hashOf
  exact ⟨salt, h drawn, hHash⟩

/-- Who creates accounts, and with which confirmation of the address. -/
def Creates (calls : Calls) (email : Option String) (emailVerified : Bool) : Request → Prop
  | .register body => email = some body.email ∧ emailVerified = false
  | .createAdmin args => email = some args.email
  | .googleCallback q => emailVerified = email.isSome ∧ ∃ profile, Exchanged calls q.code profile ∧
      email = profile.email ∧ Saw calls (.findUserByOauth "google" profile.sub) none
  | _ => False

/-- Who may bind a subject to an account. -/
def Binds (calls : Calls) (userId : Uuid) (provider subject : String) : Request → Prop
  | .googleCallback q => ∃ profile, Exchanged calls q.code profile ∧ provider = "google" ∧
      subject = profile.sub ∧
      ((∃ found : UserRecord, Saw calls (.findUserByOauth "google" profile.sub) (some found) ∧
        found.id = userId) ∨ Created calls userId)
  | _ => False

/-- Who opens a session, and for which user. -/
def Opens (calls : Calls) (userId : Uuid) : Request → Prop
  | .register _ => Created calls userId
  | .login body => ∃ (found : UserSecretRecord) (phc : String),
      Saw calls (.findByEmail body.email) (some found) ∧ found.id = userId ∧
      found.passwordHash = some phc ∧ External.argon2Verify body.password phc = .ok true ∧
      found.isActive = true
  | .refresh body => ∃ (owner : Uuid) (expiresAt : OffsetDateTime) (found : UserRecord),
      Saw calls (.lookupRefreshToken (hashRefreshToken body.refreshToken))
        (some (owner, expiresAt, none)) ∧
      Saw calls (.revokeRefreshToken (hashRefreshToken body.refreshToken)) () ∧
      Saw calls (.findById owner) (some found) ∧ found.id = userId
  | .googleCallback q => ∃ profile, Exchanged calls q.code profile ∧
      Saw calls (.upsertOauthIdentity userId "google" profile.sub profile.email profile) ()
  | _ => False

/-- Whose token an `Authorization` header carries, checked against a clock that
was read. -/
def Bearer (state : AppState) (calls : Calls) (authorization : Option String) (sub : Uuid) : Prop :=
  ∃ now, (⟨.nowUtc, now⟩ : Call Op Op.Reply) ∈ calls ∧ Presents state authorization now sub

/-- The caller was a confirmed user with the permission when it was loaded. -/
def Authorised (state : AppState) (calls : Calls) (authorization : Option String)
    (p : Permission) : Prop :=
  ∃ (sub : Uuid) (found : UserRecord) (names : List String), Bearer state calls authorization sub ∧
    Saw calls (.findById sub) (some found) ∧ found.emailVerified = true ∧
    Saw calls (.permissionsFor sub) names ∧ names.contains p.asStr = true

/-- What the client of a request must have seen before an operation. -/
def Allowed (state : AppState) (request : Request) (calls : Calls) : Op → Prop
  | .sql (.insertUser email _ _ _ emailVerified) =>
      Creates calls email emailVerified request ∧ Unasked calls Op.isInsertUser
  | .sql (.upsertOauthIdentity userId provider subject _ _) =>
      Binds calls userId provider subject request ∧ Unasked calls Op.isUpsertIdentity
  | .exchangeCode _ => Unasked calls Op.isExchange
  | .sql (.storeRefreshToken userId _ _ _) => Opens calls userId request
  | .sql (.consumeEmailVerificationToken tokenHash) =>
      ∃ q, request = .verifyEmail q ∧ tokenHash = sha256Hex q.token
  | .sql (.markEmailVerified userId) => ∃ q, request = .verifyEmail q ∧
      Saw calls (.consumeEmailVerificationToken (sha256Hex q.token)) (some userId)
  | .sql (.consumePasswordResetToken tokenHash) =>
      ∃ body, request = .resetPassword body ∧ tokenHash = sha256Hex body.token
  | .sql (.updatePasswordHash _ userId) => ∃ body, request = .resetPassword body ∧
      Saw calls (.consumePasswordResetToken (sha256Hex body.token)) (some userId) ∧
      Unasked calls Op.isUpdatePassword
  | .sql (.revokeAllRefreshTokens userId) => ∃ body phc, request = .resetPassword body ∧
      Saw calls (.consumePasswordResetToken (sha256Hex body.token)) (some userId) ∧
      Saw calls (.updatePasswordHash phc userId) ()
  | .sql (.updateRole _ id) => ∃ authorization body, request = .setRole authorization id body ∧
      Authorised state calls authorization .usersAssignRoles
  | .sql (.updateActive active id) => ∃ authorization,
      request = .setActive authorization id ⟨active⟩ ∧
      Authorised state calls authorization .usersManage
  | .sql (.grantPermission id permission granted) => ∃ authorization,
      request = .grantPermission authorization id ⟨permission, granted⟩ ∧
      Authorised state calls authorization .usersAssignRoles
  | _ => True

theorem Allowed.unasked {state : AppState} {request : Request} {calls : Calls} {op : Op}
    {selected : Op → Bool} (hOnce : selected ∈ onceOnly) (hOp : selected op = true)
    (allowed : Allowed state request calls op) : Unasked calls selected := by
  simp only [onceOnly, List.mem_cons, List.not_mem_nil, or_false] at hOnce
  rcases hOnce with rfl | rfl | rfl | rfl
  · cases op with
    | exchangeCode code => exact allowed
    | _ => cases hOp
  · cases op with
    | sql statement =>
        cases statement with
        | insertUser => exact allowed.2
        | _ => cases hOp
    | _ => cases hOp
  · cases op with
    | sql statement =>
        cases statement with
        | upsertOauthIdentity => exact allowed.2
        | _ => cases hOp
    | _ => cases hOp
  · cases op with
    | sql statement =>
        cases statement with
        | updatePasswordHash =>
            obtain ⟨_, _, _, unasked⟩ := allowed
            exact unasked
        | _ => cases hOp
    | _ => cases hOp

/-- The access token was signed for this user. -/
def SignedFor (state : AppState) (userId : Uuid) (accessToken : String) : Prop :=
  ∃ role now jti,
    External.jwtEncode state.jwt.cfg.secret (state.jwt.claims userId role now jti) = .ok accessToken

/-- The pair belongs to this user: its refresh token is stored for the user, and
its access token is signed for the user. -/
structure PairFor (state : AppState) (db : Db) (pair : TokenPair) (userId : Uuid) : Prop where
  stored : ∃ row ∈ db.refreshTokens.rows,
    row.tokenHash = hashRefreshToken pair.refreshToken ∧ row.userId = userId
  signed : SignedFor state userId pair.accessToken

/-- What the client of a request has done when it answers. -/
def Finished (state : AppState) (request : Request) (calls : Calls) : Outcome → Prop
  | .error _ => True
  | .ok (.tokenPair pair) => ∃ userId expiresAt userAgent id, Opens calls userId request ∧
      Saw calls (.storeRefreshToken userId (hashRefreshToken pair.refreshToken) expiresAt
        userAgent) id ∧ SignedFor state userId pair.accessToken
  | .ok _ =>
      match request with
      | .resetPassword body => ∃ userId phc,
          Saw calls (.consumePasswordResetToken (sha256Hex body.token)) (some userId) ∧
          HashOf calls body.newPassword phc ∧ Saw calls (.updatePasswordHash phc userId) () ∧
          Saw calls (.revokeAllRefreshTokens userId) ()
      | .verifyEmail q => ∃ userId,
          Saw calls (.consumeEmailVerificationToken (sha256Hex q.token)) (some userId) ∧
          Saw calls (.markEmailVerified userId) ()
      | .setRole _ id _ => ∃ roleId, Saw calls (.updateRole roleId id) ()
      | .setActive _ id body => Saw calls (.updateActive body.active id) ()
      | .grantPermission _ id body =>
          Saw calls (.grantPermission id body.permission body.granted) ()
      | _ => True

/-! ### What the past shows, later calls do not undo -/

omit [External] in
theorem Created.mono {past calls : Calls} {userId : Uuid} (h : past ⊆ calls)
    (created : Created past userId) : Created calls userId := by
  obtain ⟨email, passwordHash, displayName, roleId, emailVerified, row, saw, hId⟩ := created
  exact ⟨email, passwordHash, displayName, roleId, emailVerified, row, h saw, hId⟩

theorem Opens.mono {past calls : Calls} {userId : Uuid} {request : Request} (h : past ⊆ calls)
    (opens : Opens past userId request) : Opens calls userId request := by
  cases request <;> simp only [Opens, Created, Exchanged, Saw] at opens ⊢ <;> grind

theorem Bearer.mono {state : AppState} {past calls : Calls} {authorization : Option String}
    {sub : Uuid} (h : past ⊆ calls) (bearer : Bearer state past authorization sub) :
    Bearer state calls authorization sub := by
  obtain ⟨now, hNow, presents⟩ := bearer
  exact ⟨now, h hNow, presents⟩

theorem Authorised.mono {state : AppState} {past calls : Calls} {authorization : Option String}
    {p : Permission} (h : past ⊆ calls) (authorised : Authorised state past authorization p) :
    Authorised state calls authorization p := by
  obtain ⟨sub, found, names, bearer, hFound, hVerified, hNames, hMem⟩ := authorised
  exact ⟨sub, found, names, bearer.mono h, h hFound, hVerified, h hNames, hMem⟩

/-! ### The parts of a request -/

section Parts

variable {state : AppState} {request : Request} {past calls : Calls} {userId : Uuid}

@[simp] theorem finished_error (request : Request) (calls : Calls) (stop : Stop) :
    Finished state request calls (.error stop) := trivial

theorem CreateCourse.allowed {new : NewUser} {result : Except DbError User}
    (course : CreateCourse new calls result) (hPast : Unasked past Op.isInsertUser)
    (creates : ∀ more, Creates (past ++ more) new.email new.emailVerified request) :
    Asks (Allowed state request) past calls := by
  cases course with
  | roleFailed | roleMissing => simp [Allowed]
  | failed | created =>
      refine ⟨trivial, ⟨creates _, ?_⟩, trivial⟩
      intro call hMem
      rcases List.mem_append.mp hMem with hOld | hNew
      · exact hPast call hOld
      · rw [List.mem_singleton.mp hNew]
        rfl

omit [External] in
theorem CreateCourse.saw {new : NewUser} {user : User}
    (course : CreateCourse new calls (.ok user)) : Created calls user.id := by
  cases course with
  | created roleId columns =>
      exact ⟨new.email, new.passwordHash, new.displayName, roleId, new.emailVerified, columns,
        by simp [Saw], rfl⟩

theorem AccountCourse.allowed {errs : ValidationErrors} {password : String}
    {new : String → NewUser} {result : Except Stop User}
    (course : AccountCourse errs password new calls result)
    (creates : ∀ phc more, Creates more (new phc).email (new phc).emailVerified request) :
    Asks (Allowed state request) [] calls := by
  cases course with
  | invalid | unhashed => simp [Allowed]
  | failed valid hashed create | created valid hashed create =>
      exact ⟨trivial, create.allowed (by simp [Unasked, Op.isInsertUser]) fun more => creates _ _⟩

theorem AccountCourse.saw {errs : ValidationErrors} {password : String}
    {new : String → NewUser} {user : User}
    (course : AccountCourse errs password new calls (.ok user)) : Created calls user.id := by
  cases course with
  | created valid hashed create => exact create.saw.mono (List.subset_cons_self _ _)

theorem IssueCourse.allowed {role : Role} {userAgent : Option String}
    {result : Except Stop TokenPair}
    (course : IssueCourse state userId role userAgent calls result)
    (opens : Opens past userId request) : Asks (Allowed state request) past calls := by
  cases course with
  | unsigned | outOfRange => simp [Allowed]
  | notStored | stored =>
      simp [Allowed]
      exact opens.mono (by simp)

theorem IssueCourse.finished {role : Role} {userAgent : Option String}
    {result : Except Stop TokenPair}
    (course : IssueCourse state userId role userAgent calls result)
    (opens : Opens past userId request) :
    Finished state request (past ++ calls) (Payload.tokenPair <$> result) := by
  cases course with
  | unsigned | outOfRange | notStored => trivial
  | stored signed bytes expiresAt inTime id =>
      exact ⟨userId, expiresAt, userAgent, id, opens.mono (by simp), by simp [Saw], role, _, _,
        signed⟩

theorem MailCourse.allowed {email : String} {result : Except Stop (Except Unit Unit)}
    (course : MailCourse state userId email calls result) :
    Asks (Allowed state request) past calls := by
  cases course <;> simp [Allowed]

variable {authorization : Option String}

theorem AuthUserCourse.allowed {result : Except AppError AuthUser}
    (course : AuthUserCourse state authorization calls result) :
    Asks (Allowed state request) [] calls := by
  cases course <;> simp [Allowed]

theorem VerifiedUserCourse.allowed {result : Except AppError VerifiedUser}
    (course : VerifiedUserCourse state authorization calls result) :
    Asks (Allowed state request) [] calls := by
  cases course with
  | refused auth => exact auth.allowed
  | _ => simp [Allowed]

theorem AuthorizeCourse.allowed {p : Permission} {result : Except Stop Unit}
    (course : AuthorizeCourse state authorization p calls result) :
    Asks (Allowed state request) [] calls := by
  cases course with
  | refused user => exact user.allowed
  | _ => simp [Allowed, passing]

theorem Passes.authorised {p : Permission} {now : OffsetDateTime} {found : UserRecord}
    {names : List String} (passes : Passes state authorization p now userId found names) :
    Authorised state (passing now userId found names) authorization p :=
  ⟨userId, found, names, ⟨now, by simp [passing], passes.presents⟩, by simp [Saw, passing],
    passes.verified, by simp [Saw, passing], passes.permitted⟩

theorem ResetLinkCourse.allowed {email : String} {resetTtlHours : Int64}
    {result : Except Stop (Option String)}
    (course : ResetLinkCourse email resetTtlHours calls result) :
    Asks (Allowed state request) [] calls := by
  cases course <;> simp [Allowed]

end Parts

/-! ### The requests -/

section Requests

variable {state : AppState} {calls : Calls} {outcome : Outcome}

/-- The course keeps to the protocol of its request. -/
def Conforms (state : AppState) (request : Request) (calls : Calls) (outcome : Outcome) : Prop :=
  Asks (Allowed state request) [] calls ∧ Finished state request calls outcome

theorem EnrolCourse.allowed {body : RegisterReq} {result : Except Stop TokenPair}
    (course : EnrolCourse state body calls result) :
    Asks (Allowed state (.register body)) [] calls ∧
      Finished state (.register body) calls (Payload.tokenPair <$> result) := by
  have creates (phc : String) (more : Calls) :
      Creates more (body.newUser phc).email (body.newUser phc).emailVerified (.register body) :=
    ⟨rfl, rfl⟩
  cases course with
  | refused account => exact ⟨account.allowed creates, trivial⟩
  | created account issue =>
      exact ⟨(asks_append ..).mpr ⟨account.allowed creates, issue.allowed account.saw⟩,
        issue.finished account.saw⟩

theorem Finished.pair_mono {request : Request} {past : Calls} {pair : TokenPair}
    (finished : Finished state request past (.ok (.tokenPair pair))) (h : past ⊆ calls) :
    Finished state request calls (.ok (.tokenPair pair)) := by
  obtain ⟨userId, expiresAt, userAgent, id, opens, saw, signed⟩ := finished
  exact ⟨userId, expiresAt, userAgent, id, opens.mono h, h saw, signed⟩

theorem RegistrationCourse.conforms {body : RegisterReq}
    (course : RegistrationCourse state body calls outcome) :
    Conforms state (.register body) calls outcome := by
  cases course with
  | refused enrol => exact enrol.allowed
  | notFound enrol | unknown enrol =>
      obtain ⟨asks, finished⟩ := enrol.allowed
      exact ⟨by simp [asks, Allowed], finished.pair_mono (List.subset_append_left _ _)⟩
  | @mailed _ _ _ result enrol found mail =>
      obtain ⟨asks, finished⟩ := enrol.allowed
      refine ⟨by simp [asks, Allowed, mail.allowed], ?_⟩
      cases result with
      | error stop => trivial
      | ok sent => exact finished.pair_mono (List.subset_append_left _ _)

theorem LoginCourse.conforms {body : LoginReq} (course : LoginCourse state body calls outcome) :
    Conforms state (.login body) calls outcome := by
  cases course with
  | @issued found phc hHash hVerify hActive more result issue =>
      have opens : Opens [⟨.sql (.findByEmail body.email), .ok (some found)⟩] found.id
          (.login body) :=
        ⟨found, phc, by simp [Saw], rfl, hHash, hVerify, hActive⟩
      exact ⟨⟨trivial, issue.allowed opens⟩, issue.finished opens⟩
  | _ => simp [Conforms, Allowed]

theorem RefreshCourse.conforms {body : RefreshReq}
    (course : RefreshCourse state body calls outcome) : Conforms state (.refresh body) calls outcome := by
  cases course with
  | @issued owner expiresAt now live found more result issue =>
      have opens : Opens
          [⟨.sql (.lookupRefreshToken (hashRefreshToken body.refreshToken)),
            .ok (some (owner, expiresAt, none))⟩, ⟨.nowUtc, now⟩,
            ⟨.sql (.revokeRefreshToken (hashRefreshToken body.refreshToken)), .ok ()⟩,
            ⟨.sql (.findById owner), .ok (some found)⟩] found.id (.refresh body) :=
        ⟨owner, expiresAt, found, by simp [Saw], by simp [Saw], by simp [Saw], rfl⟩
      exact ⟨(asks_append ..).mpr ⟨by simp [Allowed], issue.allowed opens⟩, issue.finished opens⟩
  | _ => simp [Conforms, Allowed]

theorem ResendCourse.conforms {authorization : Option String}
    (course : ResendCourse state authorization calls outcome) :
    Conforms state (.resendVerification authorization) calls outcome := by
  cases course with
  | refused auth => exact ⟨auth.allowed, trivial⟩
  | @mailed _ _ _ _ _ _ _ _ result mail =>
      refine ⟨⟨trivial, trivial, mail.allowed⟩, ?_⟩
      cases result <;> trivial
  | _ => simp [Conforms, Allowed, Finished]

theorem ForgotPasswordCourse.conforms {body : ForgotPasswordReq}
    (course : ForgotPasswordCourse state body calls outcome) :
    Conforms state (.forgotPassword body) calls outcome := by
  cases course with
  | silent link | panicked link | nothing link => exact ⟨link.allowed, trivial⟩
  | mailed link => exact ⟨by simp [link.allowed, Allowed], trivial⟩

theorem ResetPasswordCourse.conforms {body : ResetPasswordReq}
    (course : ResetPasswordCourse body calls outcome) :
    Conforms state (.resetPassword body) calls outcome := by
  cases course with
  | @reset valid userId salt phc hashed =>
      refine ⟨by simp [Allowed, Saw, Unasked, Op.isUpdatePassword], userId, phc, by simp [Saw],
        ⟨salt, by simp, hashed⟩, by simp [Saw], by simp [Saw]⟩
  | _ => simp [Conforms, Allowed, Saw, Unasked, Op.isUpdatePassword]

theorem UpsertCourse.allowed {q : OAuthCallbackQuery} {profile : GoogleProfile}
    {result : Except Stop User} (course : UpsertCourse profile calls result) :
    Asks (Allowed state (.googleCallback q)) [⟨.exchangeCode q.code, .ok profile⟩] calls := by
  have creates (more : Calls) : Creates (⟨.exchangeCode q.code, .ok profile⟩ ::
      ⟨.sql (.findUserByOauth "google" profile.sub), .ok none⟩ :: more) profile.newUser.email
      profile.newUser.emailVerified (.googleCallback q) :=
    ⟨rfl, profile, by simp [Exchanged], rfl, by simp [Saw]⟩
  cases course with
  | failed => simp [Allowed]
  | notRenewed found | renewed found =>
      refine ⟨trivial, ⟨⟨profile, by simp [Exchanged], rfl, rfl, .inl ⟨found, ?_, rfl⟩⟩, ?_⟩,
        trivial⟩
      · simp [Saw]
      · simp [Unasked, Op.isUpsertIdentity]
  | notCreated create =>
      exact ⟨trivial, create.allowed (by simp [Unasked, Op.isInsertUser]) creates⟩
  | notBound create | bound create =>
      have created := create.saw
      refine ⟨trivial, (asks_append ..).mpr
        ⟨create.allowed (by simp [Unasked, Op.isInsertUser]) creates, ⟨⟨profile, ?_, rfl, rfl,
          .inr (created.mono (List.subset_append_right _ _))⟩, ?_⟩, trivial⟩⟩
      · simp [Exchanged]
      · cases create
        simp [Unasked, Op.isUpsertIdentity]

theorem UpsertCourse.opens {q : OAuthCallbackQuery} {profile : GoogleProfile} {user : User}
    (course : UpsertCourse profile calls (.ok user)) :
    Opens (⟨.exchangeCode q.code, .ok profile⟩ :: calls) user.id (.googleCallback q) := by
  cases course with
  | renewed found => exact ⟨profile, by simp [Exchanged], by simp [Saw, UserRecord.toUser]⟩
  | bound create => exact ⟨profile, by simp [Exchanged], by simp [Saw]⟩

theorem GoogleCallbackCourse.conforms {q : OAuthCallbackQuery}
    (course : GoogleCallbackCourse state q calls outcome) :
    Conforms state (.googleCallback q) calls outcome := by
  have first : Allowed state (.googleCallback q) [] (.exchangeCode q.code) := by
    simp [Allowed, Unasked]
  cases course with
  | badUrl | notExchanged => simp [Conforms, first]
  | refused hUrl upsert => exact ⟨⟨first, upsert.allowed⟩, trivial⟩
  | signedIn hUrl upsert issue =>
      exact ⟨(asks_append ..).mpr ⟨⟨first, upsert.allowed⟩, issue.allowed upsert.opens⟩,
        issue.finished upsert.opens⟩

theorem AdminCourse.conforms {request : Request} {authorization : Option String} {p : Permission}
    (hCall : adminCall request = some (authorization, p))
    (course : AdminCourse state request authorization p calls outcome) :
    Conforms state request calls outcome := by
  cases course with
  | refused caller => exact ⟨caller.allowed, trivial⟩
  | passed passes work =>
      have authorised := passes.authorised
      refine ⟨(asks_append ..).mpr ⟨by simp [Allowed, passing], ?_⟩, ?_⟩
      · cases work with
        | notListed | listed | roleFailed | roleMissing => simp [Allowed]
        | roleNotSet authorization id body | roleSet authorization id body =>
            obtain ⟨rfl, rfl⟩ := Prod.mk.inj (Option.some.inj hCall)
            exact ⟨trivial, ⟨_, _, rfl, authorised.mono (by simp)⟩, trivial⟩
        | activeNotSet authorization id body | activeSet authorization id body
        | notGranted authorization id body | granted authorization id body =>
            obtain ⟨rfl, rfl⟩ := Prod.mk.inj (Option.some.inj hCall)
            exact ⟨⟨_, rfl, authorised⟩, trivial⟩
      · cases work <;> simp [Finished, Saw]

/-- Every course of a request keeps to its protocol. -/
theorem Course.conforms {request : Request} (course : Course state request calls outcome) :
    Conforms state request calls outcome := by
  cases request with
  | register body => exact RegistrationCourse.conforms course
  | login body => exact LoginCourse.conforms course
  | refresh body => exact RefreshCourse.conforms course
  | logout body => cases course <;> simp [Conforms, Allowed, Finished]
  | verifyEmail q => cases course <;> simp [Conforms, Allowed, Finished, Saw]
  | resendVerification authorization => exact ResendCourse.conforms course
  | forgotPassword body => exact ForgotPasswordCourse.conforms course
  | resetPassword body => exact ResetPasswordCourse.conforms course
  | googleStart => cases course <;> simp [Conforms, Allowed, Finished]
  | googleCallback q => exact GoogleCallbackCourse.conforms course
  | me authorization | myPermissions authorization =>
      cases course with
      | refused auth => exact ⟨auth.allowed, trivial⟩
      | _ => simp [Conforms, Allowed, Finished]
  | listUsers | setRole | setActive | grantPermission => exact AdminCourse.conforms rfl course
  | createAdmin args =>
      cases course with
      | refused account | created account =>
          exact ⟨account.allowed fun _ _ => rfl, trivial⟩

end Requests

/-- Every request keeps to the protocol, whatever replies it gets. -/
theorem handle_obeys (state : AppState) (request : Request) :
    (handle state request).Obeys (Allowed state request) (Finished state request) [] :=
  (handle_course state request).obeys fun _ _ course => course.conforms

end GenericAuth
