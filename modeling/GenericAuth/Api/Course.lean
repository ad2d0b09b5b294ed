import GenericAuth.Api.AuthCourse

/-! The courses of the requests that carry an access token, and of all requests. -/
namespace GenericAuth

open Interaction

variable [External] (state : AppState)

/-! ### Access tokens -/

/-- The header carries an access token of the user that is valid at this time. -/
def Presents (state : AppState) (authorization : Option String) (now : OffsetDateTime)
    (sub : Uuid) : Prop :=
  ∃ header token claims, authorization = some header ∧
    (stripPrefix "Bearer " header).map trim = some token ∧
    External.jwtDecode state.jwt.cfg.secret state.jwt.cfg.issuer now.unixTimestamp token =
      .ok claims ∧ claims.sub = sub

/-- Without a bearer token the clock is not read. -/
inductive AuthUserCourse (authorization : Option String) :
    Calls → Except AppError AuthUser → Prop where
  | missing (h : ∀ now sub, ¬Presents state authorization now sub) :
      AuthUserCourse authorization [] (.error .unauthorized)
  | rejected {now : OffsetDateTime} (h : ∀ sub, ¬Presents state authorization now sub) :
      AuthUserCourse authorization [⟨.nowUtc, now⟩] (.error .unauthorized)
  | accepted {now : OffsetDateTime} {auth : AuthUser}
      (presents : Presents state authorization now auth.userId) :
      AuthUserCourse authorization [⟨.nowUtc, now⟩] (.ok auth)

theorem authUser_course (authorization : Option String) :
    (authUser state authorization).run.Takes (AuthUserCourse state authorization) := by
  unfold authUser
  cases authorization with
  | none => exact .missing (by rintro now sub ⟨header, _, _, ⟨⟩, _⟩)
  | some header =>
      cases hToken : (stripPrefix "Bearer " header).map trim with
      | none =>
          have missing : ∀ now sub, ¬Presents state (some header) now sub := by
            rintro now sub ⟨_, token, _, ⟨⟩, h, _⟩
            cases hToken.symm.trans h
          simpa [hToken] using AuthUserCourse.missing missing
      | some token =>
          simp [hToken]
          intro now
          cases hClaims : External.jwtDecode state.jwt.cfg.secret state.jwt.cfg.issuer
              (OffsetDateTime.unixTimestamp now) token with
          | error error =>
              refine .rejected ?_
              rintro sub ⟨_, token', _, ⟨⟩, h, h', _⟩
              cases hToken.symm.trans h
              cases hClaims.symm.trans h'
          | ok claims => exact .accepted ⟨header, token, claims, rfl, hToken, hClaims, rfl⟩

inductive VerifiedUserCourse (authorization : Option String) :
    Calls → Except AppError VerifiedUser → Prop where
  | refused {calls : Calls} {error : AppError}
      (auth : AuthUserCourse state authorization calls (.error error)) :
      VerifiedUserCourse authorization calls (.error error)
  | failed {now : OffsetDateTime} {sub : Uuid} (presents : Presents state authorization now sub)
      (error : SqlxError) :
      VerifiedUserCourse authorization [⟨.nowUtc, now⟩, ⟨.sql (.findById sub), .error error⟩]
        (.error (.ofDbError (.sqlx error)))
  | unknown {now : OffsetDateTime} {sub : Uuid} (presents : Presents state authorization now sub) :
      VerifiedUserCourse authorization [⟨.nowUtc, now⟩, ⟨.sql (.findById sub), .ok none⟩]
        (.error .unauthorized)
  | unconfirmed {now : OffsetDateTime} {sub : Uuid}
      (presents : Presents state authorization now sub) {found : UserRecord}
      (h : found.emailVerified = false) :
      VerifiedUserCourse authorization [⟨.nowUtc, now⟩, ⟨.sql (.findById sub), .ok (some found)⟩]
        (.error .emailNotVerified)
  | verified {now : OffsetDateTime} {sub : Uuid} {role : Role}
      (presents : Presents state authorization now sub) {found : UserRecord}
      (h : found.emailVerified = true) :
      VerifiedUserCourse authorization [⟨.nowUtc, now⟩, ⟨.sql (.findById sub), .ok (some found)⟩]
        (.ok ⟨sub, role⟩)

theorem verifiedUser_course (authorization : Option String) :
    (verifiedUser state authorization).run.Takes (VerifiedUserCourse state authorization) := by
  simp [verifiedUser, ExceptT.run_bind]
  apply (authUser_course state authorization).imp
  intro calls result course
  cases course with
  | missing h => exact .refused (.missing h)
  | rejected h => exact .refused (.rejected h)
  | accepted presents =>
      simp [forall_except, Option.forall]
      exact ⟨.failed presents, .unknown presents, fun found =>
        ⟨fun h => .verified presents h, fun h => .unconfirmed presents h⟩⟩

inductive MeCourse (authorization : Option String) : Calls → Outcome → Prop where
  | refused {calls : Calls} {error : AppError}
      (auth : AuthUserCourse state authorization calls (.error error)) :
      MeCourse authorization calls (.error (.err error))
  | failed {now : OffsetDateTime} {sub : Uuid} (presents : Presents state authorization now sub)
      (error : SqlxError) :
      MeCourse authorization [⟨.nowUtc, now⟩, ⟨.sql (.findById sub), .error error⟩]
        (.error (sqlStop error))
  | unknown {now : OffsetDateTime} {sub : Uuid} (presents : Presents state authorization now sub) :
      MeCourse authorization [⟨.nowUtc, now⟩, ⟨.sql (.findById sub), .ok none⟩]
        (.error (.err .notFound))
  | answered {now : OffsetDateTime} {sub : Uuid} (presents : Presents state authorization now sub)
      (found : UserRecord) :
      MeCourse authorization [⟨.nowUtc, now⟩, ⟨.sql (.findById sub), .ok (some found)⟩]
        (.ok (.user found.toUser))

theorem me_course (authorization : Option String) :
    (handle state (.me authorization)).Takes (MeCourse state authorization) := by
  simp [handle, me, ExceptT.run_bind]
  apply (authUser_course state authorization).imp
  intro calls result course
  cases course with
  | missing h => exact .refused (.missing h)
  | rejected h => exact .refused (.rejected h)
  | accepted presents =>
      simp [forall_except, Option.forall]
      exact ⟨.failed presents, .unknown presents, .answered presents⟩

inductive MyPermissionsCourse (authorization : Option String) : Calls → Outcome → Prop where
  | refused {calls : Calls} {error : AppError}
      (auth : AuthUserCourse state authorization calls (.error error)) :
      MyPermissionsCourse authorization calls (.error (.err error))
  | failed {now : OffsetDateTime} {sub : Uuid} (presents : Presents state authorization now sub)
      (error : SqlxError) :
      MyPermissionsCourse authorization
        [⟨.nowUtc, now⟩, ⟨.sql (.permissionsFor sub), .error error⟩] (.error (sqlStop error))
  | answered {now : OffsetDateTime} {sub : Uuid} (presents : Presents state authorization now sub)
      (names : List String) :
      MyPermissionsCourse authorization [⟨.nowUtc, now⟩, ⟨.sql (.permissionsFor sub), .ok names⟩]
        (.ok (.permissions names))

theorem myPermissions_course (authorization : Option String) :
    (handle state (.myPermissions authorization)).Takes
      (MyPermissionsCourse state authorization) := by
  simp [handle, myPermissions, ExceptT.run_bind]
  apply (authUser_course state authorization).imp
  intro calls result course
  cases course with
  | missing h => exact .refused (.missing h)
  | rejected h => exact .refused (.rejected h)
  | accepted presents =>
      simp [forall_except]
      exact ⟨.failed presents, .answered presents⟩

inductive ResendCourse (authorization : Option String) : Calls → Outcome → Prop where
  | refused {calls : Calls} {error : AppError}
      (auth : AuthUserCourse state authorization calls (.error error)) :
      ResendCourse authorization calls (.error (.err error))
  | failed {now : OffsetDateTime} {sub : Uuid} (presents : Presents state authorization now sub)
      (error : SqlxError) :
      ResendCourse authorization [⟨.nowUtc, now⟩, ⟨.sql (.findById sub), .error error⟩]
        (.error (sqlStop error))
  | unknown {now : OffsetDateTime} {sub : Uuid} (presents : Presents state authorization now sub) :
      ResendCourse authorization [⟨.nowUtc, now⟩, ⟨.sql (.findById sub), .ok none⟩]
        (.error (.err .unauthorized))
  | confirmed {now : OffsetDateTime} {sub : Uuid}
      (presents : Presents state authorization now sub) {found : UserRecord}
      (h : found.emailVerified = true) :
      ResendCourse authorization [⟨.nowUtc, now⟩, ⟨.sql (.findById sub), .ok (some found)⟩]
        (.ok .empty)
  | addressless {now : OffsetDateTime} {sub : Uuid}
      (presents : Presents state authorization now sub) {found : UserRecord}
      (unconfirmed : found.emailVerified = false) (h : found.email = none) :
      ResendCourse authorization [⟨.nowUtc, now⟩, ⟨.sql (.findById sub), .ok (some found)⟩]
        (.ok .empty)
  | mailed {now : OffsetDateTime} {sub : Uuid} (presents : Presents state authorization now sub)
      {found : UserRecord} (unconfirmed : found.emailVerified = false) {email : String}
      (hEmail : found.email = some email) {more : Calls} {result : Except Stop (Except Unit Unit)}
      (mail : MailCourse state sub email more result) :
      ResendCourse authorization
        (⟨.nowUtc, now⟩ :: ⟨.sql (.findById sub), .ok (some found)⟩ :: more)
        ((fun _ => .empty) <$> result)

theorem resendVerification_course (authorization : Option String) :
    (handle state (.resendVerification authorization)).Takes
      (ResendCourse state authorization) := by
  simp [handle, resendVerification, ExceptT.run_bind]
  apply (authUser_course state authorization).imp
  intro calls result course
  cases course with
  | missing h => exact .refused (.missing h)
  | rejected h => exact .refused (.rejected h)
  | accepted presents =>
      simp [forall_except, Option.forall]
      refine ⟨.failed presents, .unknown presents, fun found =>
        ⟨fun h => .confirmed presents h, fun unconfirmed => ?_⟩⟩
      cases hEmail : found.toUser.email with
      | none => exact .addressless presents unconfirmed hEmail
      | some email =>
          simp
          apply (spawnVerificationEmail_course state _ _).imp
          intro more result mail
          have course := ResendCourse.mailed presents unconfirmed hEmail mail
          cases result <;> simpa using course

/-! ### Administration -/

/-- The calls of a caller that passes: the clock, the caller and the permissions. -/
def passing (now : OffsetDateTime) (sub : Uuid) (found : UserRecord) (names : List String) :
    Calls :=
  [⟨.nowUtc, now⟩, ⟨.sql (.findById sub), .ok (some found)⟩,
    ⟨.sql (.permissionsFor sub), .ok names⟩]

/-- The caller is a confirmed user with the permission. -/
structure Passes (state : AppState) (authorization : Option String) (p : Permission)
    (now : OffsetDateTime) (sub : Uuid) (found : UserRecord) (names : List String) : Prop where
  presents : Presents state authorization now sub
  verified : found.emailVerified = true
  permitted : names.contains p.asStr = true

/-- Three calls at most, and each is made only if the one before was satisfactory. -/
inductive AuthorizeCourse (authorization : Option String) (p : Permission) :
    Calls → Except Stop Unit → Prop where
  | refused {calls : Calls} {error : AppError}
      (user : VerifiedUserCourse state authorization calls (.error error)) :
      AuthorizeCourse authorization p calls (.error (.err error))
  | failed {now : OffsetDateTime} {sub : Uuid} (presents : Presents state authorization now sub)
      {found : UserRecord} (verified : found.emailVerified = true) (error : SqlxError) :
      AuthorizeCourse authorization p
        [⟨.nowUtc, now⟩, ⟨.sql (.findById sub), .ok (some found)⟩,
          ⟨.sql (.permissionsFor sub), .error error⟩]
        (.error (sqlStop error))
  | forbidden {now : OffsetDateTime} {sub : Uuid} (presents : Presents state authorization now sub)
      {found : UserRecord} (verified : found.emailVerified = true) {names : List String}
      (h : names.contains p.asStr = false) :
      AuthorizeCourse authorization p (passing now sub found names) (.error (.err .forbidden))
  | passed {now : OffsetDateTime} {sub : Uuid} {found : UserRecord} {names : List String}
      (passes : Passes state authorization p now sub found names) :
      AuthorizeCourse authorization p (passing now sub found names) (.ok ())

theorem authorize_course (authorization : Option String) (p : Permission) :
    (authorize state authorization p).run.Takes (AuthorizeCourse state authorization p) := by
  simp [authorize, ExceptT.run_bind]
  apply (verifiedUser_course state authorization).imp
  intro calls result course
  cases course with
  | refused auth => simpa using AuthorizeCourse.refused (.refused auth)
  | failed presents error => exact .refused (.failed presents error)
  | unknown presents => exact .refused (.unknown presents)
  | unconfirmed presents h => exact .refused (.unconfirmed presents h)
  | verified presents verified =>
      simp [forall_except]
      refine ⟨.failed presents verified, fun names => ?_⟩
      split
      next h => exact .passed ⟨presents, verified, by simpa using h⟩
      next h => exact .forbidden presents verified (by simpa using h)

/-- The `Authorization` header, on the routes that read it. -/
def authorizationOf : Request → Option (Option String)
  | .resendVerification authorization | .me authorization | .myPermissions authorization
  | .listUsers authorization _ | .setRole authorization _ _ | .setActive authorization _ _
  | .grantPermission authorization _ _ => some authorization
  | _ => none

/-- The header of a request to an admin route, and the permission of the route. -/
def adminCall : Request → Option (Option String × Permission)
  | .listUsers authorization _ => some (authorization, .usersRead)
  | .setRole authorization _ _ => some (authorization, .usersAssignRoles)
  | .setActive authorization _ _ => some (authorization, .usersManage)
  | .grantPermission authorization _ _ => some (authorization, .usersAssignRoles)
  | _ => none

omit [External] in
theorem authorizationOf_of_adminCall {request : Request} {authorization : Option String}
    {p : Permission} (hCall : adminCall request = some (authorization, p)) :
    authorizationOf request = some authorization := by
  cases request with
  | listUsers | setRole | setActive | grantPermission =>
      obtain ⟨rfl, _⟩ := Prod.mk.inj (Option.some.inj hCall)
      rfl
  | _ => cases hCall

/-- What an admin request does for a caller who has passed. -/
def adminWork : Request → AppResult Payload
  | .listUsers _ page => do
      let users ← UserDb.listUsers (min page.limit 200) page.offset
      return .users users
  | .setRole _ id body => do
      UserDb.setRole id body.role
      return .empty
  | .setActive _ id body => do
      UserDb.setActive id body.active
      return .empty
  | .grantPermission _ id body => do
      match ← ExceptT.lift (query (.grantPermission id body.permission body.granted)).run with
      | .ok () => return .empty
      | .error (.sqlx e) => throw (.err (.database e.display))
      | .error e => throw (.err (.database e.display))
  | _ => return .empty

/-- The work begins only when the caller has passed. -/
theorem handle_admin {state : AppState} {authorization : Option String} {p : Permission}
    {request : Request} (hCall : adminCall request = some (authorization, p)) :
    handle state request =
      (do authorize state authorization p; adminWork request : AppResult Payload).run := by
  cases request with
  | listUsers header page =>
      obtain ⟨rfl, rfl⟩ := Prod.mk.inj (Option.some.inj hCall)
      simp [handle, listUsers, adminWork]
  | setRole header id body =>
      obtain ⟨rfl, rfl⟩ := Prod.mk.inj (Option.some.inj hCall)
      simp [handle, setRole, adminWork]
  | setActive header id body =>
      obtain ⟨rfl, rfl⟩ := Prod.mk.inj (Option.some.inj hCall)
      simp [handle, setActive, adminWork]
  | grantPermission header id body =>
      obtain ⟨rfl, rfl⟩ := Prod.mk.inj (Option.some.inj hCall)
      simp only [handle, grantPermission, adminWork, map_bind]
      refine congrArg ExceptT.run (bind_congr fun _ => bind_congr fun granted => ?_)
      rcases granted with (e | e) | _ <;> rfl
  | _ => cases hCall

/-- One statement, or two for a role, which is looked up by its name first. -/
inductive AdminWorkCourse : Request → Calls → Outcome → Prop where
  | notListed (authorization : Option String) (page : Page) (error : SqlxError) :
      AdminWorkCourse (.listUsers authorization page)
        [⟨.sql (.listUsers (min page.limit 200) page.offset), .error error⟩]
        (.error (sqlStop error))
  | listed (authorization : Option String) (page : Page) (rows : List UserRecord) :
      AdminWorkCourse (.listUsers authorization page)
        [⟨.sql (.listUsers (min page.limit 200) page.offset), .ok rows⟩]
        (.ok (.users (rows.map UserRecord.toUser)))
  | roleFailed (authorization : Option String) (id : Uuid) (body : SetRoleReq)
      (error : SqlxError) :
      AdminWorkCourse (.setRole authorization id body)
        [⟨.sql (.roleIdFor body.role.asStr), .error error⟩] (.error (sqlStop error))
  | roleMissing (authorization : Option String) (id : Uuid) (body : SetRoleReq) :
      AdminWorkCourse (.setRole authorization id body)
        [⟨.sql (.roleIdFor body.role.asStr), .ok none⟩] (.error (sqlStop .rowNotFound))
  | roleNotSet (authorization : Option String) (id : Uuid) (body : SetRoleReq) (roleId : Nat)
      (error : SqlxError) :
      AdminWorkCourse (.setRole authorization id body)
        [⟨.sql (.roleIdFor body.role.asStr), .ok (some roleId)⟩,
          ⟨.sql (.updateRole roleId id), .error error⟩]
        (.error (sqlStop error))
  | roleSet (authorization : Option String) (id : Uuid) (body : SetRoleReq) (roleId : Nat) :
      AdminWorkCourse (.setRole authorization id body)
        [⟨.sql (.roleIdFor body.role.asStr), .ok (some roleId)⟩,
          ⟨.sql (.updateRole roleId id), .ok ()⟩]
        (.ok .empty)
  | activeNotSet (authorization : Option String) (id : Uuid) (body : SetActiveReq)
      (error : SqlxError) :
      AdminWorkCourse (.setActive authorization id body)
        [⟨.sql (.updateActive body.active id), .error error⟩] (.error (sqlStop error))
  | activeSet (authorization : Option String) (id : Uuid) (body : SetActiveReq) :
      AdminWorkCourse (.setActive authorization id body)
        [⟨.sql (.updateActive body.active id), .ok ()⟩] (.ok .empty)
  | notGranted (authorization : Option String) (id : Uuid) (body : GrantPermReq)
      (error : SqlxError) :
      AdminWorkCourse (.grantPermission authorization id body)
        [⟨.sql (.grantPermission id body.permission body.granted), .error error⟩]
        (.error (.err (.database error.display)))
  | granted (authorization : Option String) (id : Uuid) (body : GrantPermReq) :
      AdminWorkCourse (.grantPermission authorization id body)
        [⟨.sql (.grantPermission id body.permission body.granted), .ok ()⟩] (.ok .empty)

omit [External] in
theorem adminWork_course {authorization : Option String} {p : Permission} {request : Request}
    (hCall : adminCall request = some (authorization, p)) :
    (adminWork request).run.Takes (AdminWorkCourse request) := by
  cases request with
  | listUsers authorization page =>
      simp [adminWork, forall_except]
      exact ⟨.notListed authorization page, .listed authorization page⟩
  | setRole authorization id body =>
      simp [adminWork, forall_except, Option.forall]
      exact ⟨.roleFailed authorization id body, .roleMissing authorization id body, fun roleId =>
        ⟨.roleNotSet authorization id body roleId, fun _ => .roleSet authorization id body roleId⟩⟩
  | setActive authorization id body =>
      simp [adminWork, forall_except]
      exact ⟨.activeNotSet authorization id body, fun _ => .activeSet authorization id body⟩
  | grantPermission authorization id body =>
      simp [adminWork, query, forall_except]
      exact ⟨.notGranted authorization id body, fun _ => .granted authorization id body⟩
  | _ => cases hCall

/-- An admin request is turned away, or it has passed and does its work. -/
inductive AdminCourse (request : Request) (authorization : Option String) (p : Permission) :
    Calls → Outcome → Prop where
  | refused {calls : Calls} {stop : Stop}
      (caller : AuthorizeCourse state authorization p calls (.error stop)) :
      AdminCourse request authorization p calls (.error stop)
  | passed {now : OffsetDateTime} {sub : Uuid} {found : UserRecord} {names : List String}
      (passes : Passes state authorization p now sub found names) {more : Calls}
      {outcome : Outcome} (work : AdminWorkCourse request more outcome) :
      AdminCourse request authorization p (passing now sub found names ++ more) outcome

theorem admin_course {authorization : Option String} {p : Permission} {request : Request}
    (hCall : adminCall request = some (authorization, p)) :
    (handle state request).Takes (AdminCourse state request authorization p) := by
  rw [handle_admin hCall, ExceptT.run_bind, Program.takes_bind]
  apply (authorize_course state authorization p).imp
  intro calls result course
  cases course with
  | refused user => simpa using AdminCourse.refused (.refused user)
  | failed presents verified error =>
      exact .refused (.failed presents verified error)
  | forbidden presents verified h => exact .refused (.forbidden presents verified h)
  | passed passes => exact (adminWork_course hCall).imp fun more outcome work => .passed passes work

/-! ### All requests -/

/-- The courses of a request. -/
def Course : Request → Calls → Outcome → Prop
  | .register body => RegistrationCourse state body
  | .login body => LoginCourse state body
  | .refresh body => RefreshCourse state body
  | .logout body => LogoutCourse body
  | .verifyEmail q => VerifyEmailCourse q
  | .resendVerification authorization => ResendCourse state authorization
  | .forgotPassword body => ForgotPasswordCourse state body
  | .resetPassword body => ResetPasswordCourse body
  | .googleStart => GoogleStartCourse state
  | .googleCallback q => GoogleCallbackCourse state q
  | .me authorization => MeCourse state authorization
  | .myPermissions authorization => MyPermissionsCourse state authorization
  | .listUsers authorization page =>
      AdminCourse state (.listUsers authorization page) authorization .usersRead
  | .setRole authorization id body =>
      AdminCourse state (.setRole authorization id body) authorization .usersAssignRoles
  | .setActive authorization id body =>
      AdminCourse state (.setActive authorization id body) authorization .usersManage
  | .grantPermission authorization id body =>
      AdminCourse state (.grantPermission authorization id body) authorization .usersAssignRoles
  | .createAdmin args => AdminCreationCourse args

/-- Every request takes one of its courses, whatever replies it gets. -/
theorem handle_course (request : Request) :
    (handle state request).Takes (Course state request) := by
  cases request with
  | register body => exact register_course state body
  | login body => exact login_course state body
  | refresh body => exact refresh_course state body
  | logout body => exact logout_course state body
  | verifyEmail q => exact verifyEmail_course state q
  | resendVerification authorization => exact resendVerification_course state authorization
  | forgotPassword body => exact forgotPassword_course state body
  | resetPassword body => exact resetPassword_course state body
  | googleStart => exact googleStart_course state
  | googleCallback q => exact googleCallback_course state q
  | me authorization => exact me_course state authorization
  | myPermissions authorization => exact myPermissions_course state authorization
  | listUsers | setRole | setActive | grantPermission => exact admin_course state rfl
  | createAdmin args => exact createAdmin_course state args

theorem Course.admin {state : AppState} {request : Request} {authorization : Option String}
    {p : Permission} {calls : Calls} {outcome : Outcome}
    (hCall : adminCall request = some (authorization, p))
    (course : Course state request calls outcome) :
    AdminCourse state request authorization p calls outcome := by
  cases request with
  | listUsers | setRole | setActive | grantPermission =>
      obtain ⟨rfl, rfl⟩ := Prod.mk.inj (Option.some.inj hCall)
      exact course
  | _ => cases hCall

/-- No condition on the operations of a request. -/
def Unrestricted (_ : Calls) (_ : Op) : Prop := True

omit [External] in
@[simp] theorem unrestricted (calls : Calls) (op : Op) : Unrestricted calls op := trivial

/-- The course of a request is a condition on its end alone. -/
theorem handle_takes (state : AppState) (request : Request) :
    (handle state request).Obeys Unrestricted (Course state request) [] :=
  (handle_course state request).ends fun _ _ => trivial

end GenericAuth
