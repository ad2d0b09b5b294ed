import GenericAuth.Api.Admin
import GenericAuth.Api.Http
import GenericAuth.Interaction.Agreement

/-! What becomes of the texts of database errors. Whatever they are, a handler goes on in
the same way, and its outcome gives the same response. Two runs of a handler are compared
here step by step, since a course tells of one run only. -/
namespace GenericAuth

open Interaction

/-! ### Errors that look the same -/

/-- Only this one error is told apart from the others. -/
def SqlxError.Alike (error error' : SqlxError) : Prop :=
  error = .rowNotFound ↔ error' = .rowNotFound

def AppError.Alike (error error' : AppError) : Prop := error.intoResponse = error'.intoResponse

def Stop.Alike : Stop → Stop → Prop
  | .err error, .err error' => error.Alike error'
  | .panic message, .panic message' => message = message'
  | _, _ => False

/-- Two results with the same value, or with errors that are alike. -/
def SameUpTo {Error Value : Type} (errors : Error → Error → Prop) :
    Except Error Value → Except Error Value → Prop
  | .ok value, .ok value' => value = value'
  | .error error, .error error' => errors error error'
  | _, _ => False

def Op.Alike : (op : Op) → op.Reply → op.Reply → Prop
  | .sql _, reply, reply' => SameUpTo SqlxError.Alike reply reply'
  | .nowUtc, reply, reply' | .randomBytes, reply, reply' | .newV4, reply, reply'
  | .saltGenerate, reply, reply' | .exchangeCode _, reply, reply' | .sendMail .., reply, reply' =>
      reply = reply'

/-- The draws differ at most in the error that lets a statement fail. -/
structure Draw.Alike (draw draw' : Draw) : Prop where
  others : draw' = { draw with fault := draw'.fault }
  fault : Option.Rel SqlxError.Alike draw.fault draw'.fault

section Errors

variable {Error Error' Value Value' : Type} {errors : Error → Error → Prop}
    {errors' : Error' → Error' → Prop}

@[simp] theorem sameUpTo_ok {value value' : Value} :
    SameUpTo errors (.ok value) (.ok value') ↔ value = value' := Iff.rfl

@[simp] theorem sameUpTo_error {error error' : Error} :
    SameUpTo errors (.error error : Except Error Value) (.error error') ↔ errors error error' :=
  Iff.rfl

@[simp] theorem not_sameUpTo_ok_error {value : Value} {error : Error} :
    ¬SameUpTo errors (.ok value) (.error error) := id

@[simp] theorem not_sameUpTo_error_ok {value : Value} {error : Error} :
    ¬SameUpTo errors (.error error) (.ok value) := id

theorem forall_sameUpTo {p : Except Error Value → Except Error Value → Prop} :
    (∀ result result', SameUpTo errors result result' → p result result') ↔
      (∀ error error', errors error error' → p (.error error) (.error error')) ∧
        ∀ value, p (.ok value) (.ok value) := by
  refine ⟨fun h => ⟨fun error error' hErrors => h _ _ hErrors, fun value => h _ _ rfl⟩,
    fun h result result' hSame => ?_⟩
  cases result with
  | error error =>
      cases result' with
      | error error' => exact h.1 error error' hSame
      | ok value => exact hSame.elim
  | ok value =>
      cases result' with
      | error error => exact hSame.elim
      | ok value' =>
          obtain rfl : value = value' := hSame
          exact h.2 value

theorem SameUpTo.refl (hErrors : ∀ error, errors error error) (result : Except Error Value) :
    SameUpTo errors result result := by
  cases result with
  | error error => exact hErrors error
  | ok value => rfl

theorem SqlxError.alike_refl (error : SqlxError) : error.Alike error := Iff.rfl

@[simp] theorem AppError.alike_refl (error : AppError) : error.Alike error := rfl

@[simp] theorem Stop.alike_refl (stop : Stop) : stop.Alike stop := by
  cases stop <;> simp [Stop.Alike]

@[simp] theorem Stop.alike_err {error error' : AppError} :
    (Stop.err error).Alike (.err error') ↔ error.Alike error' := Iff.rfl

/-- A database error becomes a response without its text. -/
@[simp] theorem ofDbError_alike {error error' : SqlxError} (h : error.Alike error') :
    (AppError.ofDbError (.sqlx error)).Alike (AppError.ofDbError (.sqlx error')) := by
  unfold SqlxError.Alike at h
  cases error <;> cases error' <;> simp_all [AppError.Alike, AppError.ofDbError, AppError.intoResponse]

@[simp] theorem database_alike (message message' : String) :
    (AppError.database message).Alike (.database message') := rfl

end Errors

/-- The answers differ at most in the error of a statement. -/
theorem answer_respects [External] : Respects answer Draw.Alike Op.Alike := by
  rintro draw ⟨now, dbNow, uuid, bytes, salt, fault, profile, tieBreak⟩ db op ⟨hOthers, hFault⟩
  cases hOthers
  cases op with
  | sql statement =>
      obtain ⟨now, dbNow, uuid, bytes, salt, fault', profile, tieBreak⟩ := draw
      cases hFault with
      | none => exact ⟨SameUpTo.refl SqlxError.alike_refl _, rfl⟩
      | some h => exact ⟨h, rfl⟩
  | _ => exact ⟨rfl, rfl⟩

/-! ### Handlers -/

section Handlers

variable [External] (state : AppState)

/-- The program goes on alike whatever its errors say. -/
abbrev Masks {Value Error : Type} (errors : Error → Error → Prop)
    (program : Server (Except Error Value)) : Prop :=
  program.Agree Op.Alike (SameUpTo errors) program

omit [External] in
theorem Masks.bind {Value Error Next : Type} {errors : Error → Error → Prop}
    {program : Server (Except Error Value)} (masks : Masks errors program)
    {rest : Except Error Value → Server Next} {final : Next → Next → Prop}
    (hError : ∀ error error', errors error error' →
      (rest (.error error)).Agree Op.Alike final (rest (.error error')))
    (hOk : ∀ value, (rest (.ok value)).Agree Op.Alike final (rest (.ok value))) :
    (program >>= rest).Agree Op.Alike final (program >>= rest) :=
  Program.Agree.bind masks (forall_sameUpTo.mpr ⟨hError, hOk⟩)

theorem issueTokens_masks (userId : Uuid) (role : Role) (userAgent : Option String) :
    Masks Stop.Alike (issueTokens state userId role userAgent).run := by
  simp [issueTokens, ExceptT.run_bind, Op.Alike]
  intro now jti
  cases External.jwtEncode state.jwt.cfg.secret (state.jwt.claims userId role now jti) with
  | error error => simp
  | ok access =>
      simp [Op.Alike]
      intro bytes instant
      cases deadline instant (TDuration.days state.settings.auth.jwtRefreshTtlDays) with
      | error stop => simp
      | ok expiresAt => simp +contextual [Op.Alike, forall_sameUpTo]

omit [External] in
theorem createUser_masks (new : NewUser) :
    Masks (fun error error' => (AppError.ofDbError error).Alike (.ofDbError error'))
      (UserDb.createUser new).run := by
  simp +contextual [UserDb.run_createUser, Op.Alike, forall_sameUpTo, Option.forall]

theorem authUser_masks (authorization : Option String) :
    Masks AppError.Alike (authUser state authorization).run := by
  unfold authUser
  cases authorization with
  | none => simp
  | some header =>
      cases hToken : (stripPrefix "Bearer " header).map trim with
      | none => simp [hToken]
      | some token =>
          simp [hToken, Op.Alike]
          intro now
          cases External.jwtDecode state.jwt.cfg.secret state.jwt.cfg.issuer
              (OffsetDateTime.unixTimestamp now) token <;> simp

theorem verifiedUser_masks (authorization : Option String) :
    Masks AppError.Alike (verifiedUser state authorization).run := by
  simp [verifiedUser, ExceptT.run_bind]
  refine (authUser_masks state authorization).bind (by simp) fun auth => ?_
  simp +contextual [Op.Alike, forall_sameUpTo, Option.forall]

theorem authorize_masks (authorization : Option String) (p : Permission) :
    Masks Stop.Alike (authorize state authorization p).run := by
  simp [authorize, ExceptT.run_bind]
  refine (verifiedUser_masks state authorization).bind (by simp) fun user => ?_
  simp +contextual [Op.Alike, forall_sameUpTo]
  intro names
  split <;> simp

omit [External] in
theorem adminWork_masks (request : Request) : Masks Stop.Alike (adminWork request).run := by
  cases request with
  | listUsers authorization page => simp +contextual [adminWork, Op.Alike, forall_sameUpTo]
  | setRole authorization id body =>
      simp +contextual [adminWork, Op.Alike, forall_sameUpTo, Option.forall]
  | setActive authorization id body => simp +contextual [adminWork, Op.Alike, forall_sameUpTo]
  | grantPermission authorization id body =>
      simp +contextual [adminWork, query, Op.Alike, forall_sameUpTo]
  | _ => simp [adminWork]

theorem spawnVerificationEmail_masks (userId : Uuid) (email : String) :
    Masks Stop.Alike (spawnVerificationEmail state userId email).run := by
  simp [spawnVerificationEmail, ExceptT.run_bind, Op.Alike]
  intro first second now
  cases deadline now (TDuration.hours 24) with
  | error stop => simp
  | ok expiresAt => simp +contextual [sendVerificationEmail, Op.Alike, forall_sameUpTo]

theorem registerUser_masks (body : RegisterReq) :
    Masks Stop.Alike (registerUser state.registerPort body state.settings.auth.jwtAccessTtlMin
      state.settings.auth.jwtRefreshTtlDays).run := by
  rw [registerUser_eq]
  simp [createAccount, AppState.registerPort, ExceptT.run_bind]
  split
  case h_2 => simp
  simp [Op.Alike]
  intro salt
  cases External.argon2Hash body.password salt with
  | error e => simp
  | ok phc =>
      simp
      exact (createUser_masks _).bind (by simp) fun user => issueTokens_masks state _ _ none

theorem register_masks (body : RegisterReq) : Masks Stop.Alike (handle state (.register body)) := by
  simp [handle, register, ExceptT.run_bind]
  refine (registerUser_masks state body).bind (by simp) fun pair => ?_
  simp +contextual [Op.Alike, forall_sameUpTo, Option.forall]
  intro found
  refine (spawnVerificationEmail_masks state _ _).bind (by simp) fun result => ?_
  simp

theorem login_masks (body : LoginReq) : Masks Stop.Alike (handle state (.login body)) := by
  simp +contextual [handle, login, ExceptT.run_bind, Op.Alike, forall_sameUpTo, Option.forall]
  intro found
  cases hSecret : found.passwordHash with
  | none => simp [UserSecretRecord.toUserWithSecret, hSecret]
  | some phc =>
      simp [UserSecretRecord.toUserWithSecret, hSecret, ExceptT.run_bind]
      cases External.argon2Verify body.password phc with
      | error e => simp
      | ok verified =>
          simp
          split
          next => 
            split
            next => exact (issueTokens_masks state _ _ none).bind (by simp) (by simp)
            next => simp
          next => simp

theorem refresh_masks (body : RefreshReq) : Masks Stop.Alike (handle state (.refresh body)) := by
  simp +contextual [handle, refresh, ExceptT.run_bind, Op.Alike, forall_sameUpTo, Option.forall]
  intro owner expiresAt now
  by_cases hExpired : expiresAt ≤ now
  · simp [hExpired]
  · simp +contextual [hExpired, Op.Alike, forall_sameUpTo, Option.forall]
    exact fun found => (issueTokens_masks state _ _ none).bind (by simp) (by simp)

theorem resendVerification_masks (authorization : Option String) :
    Masks Stop.Alike (handle state (.resendVerification authorization)) := by
  simp [handle, resendVerification, ExceptT.run_bind]
  refine (authUser_masks state authorization).bind (by simp) fun auth => ?_
  simp +contextual [Op.Alike, forall_sameUpTo, Option.forall]
  intro found
  by_cases hVerified : found.toUser.emailVerified = true
  · simp [hVerified]
  · simp only [hVerified]
    cases found.toUser.email with
    | none => simp
    | some email =>
        simp
        exact (spawnVerificationEmail_masks state _ _).bind (by simp) (by simp)

theorem requestPasswordReset_masks (email : String) (resetTtlHours : Int64) :
    Masks Stop.Alike (requestPasswordReset passwordResetPort email resetTtlHours).run := by
  simp +contextual [requestPasswordReset, passwordResetPort, ExceptT.run_bind, Op.Alike,
    forall_sameUpTo, Option.forall]
  intro found _ first second now
  cases deadline now (TDuration.hours resetTtlHours) with
  | error stop => simp
  | ok expiresAt => simp +contextual [Op.Alike, forall_sameUpTo]

/-- A panic stays one, and every other failure is swallowed. -/
theorem forgotPassword_masks (body : ForgotPasswordReq) :
    Masks Stop.Alike (handle state (.forgotPassword body)) := by
  simp [handle, forgotPassword, ExceptT.run_bind]
  refine (requestPasswordReset_masks _ _).bind ?_ fun token => ?_
  · rintro (error | message) (error' | message') alike
    · simp
    · exact alike.elim
    · exact alike.elim
    · simpa using alike
  · cases token <;> simp [sendPasswordResetEmail, Op.Alike]

theorem resetPassword_masks (body : ResetPasswordReq) :
    Masks Stop.Alike (handle state (.resetPassword body)) := by
  simp [handle, resetPassword, performPasswordReset, passwordResetPort, ExceptT.run_bind]
  split
  case h_2 => simp
  simp +contextual [ExceptT.run_bind, Op.Alike, forall_sameUpTo, Option.forall]
  intro userId salt
  cases External.argon2Hash body.newPassword salt with
  | error e => simp
  | ok phc => simp +contextual [Op.Alike, forall_sameUpTo]

theorem googleCallback_masks (q : OAuthCallbackQuery) :
    Masks Stop.Alike (handle state (.googleCallback q)) := by
  simp [handle, googleCallback, upsertOauthUser, ExceptT.run_bind]
  cases External.redirectUrl state.googleConfig.redirectUrl with
  | error e => simp
  | ok _ =>
      simp [Op.Alike, forall_except]
      intro profile
      simp +contextual [ExceptT.run_bind, Op.Alike, forall_sameUpTo, Option.forall]
      refine ⟨?_, fun found => ?_⟩
      · refine (createUser_masks _).bind (by simp) fun user => ?_
        simp +contextual [Op.Alike, forall_sameUpTo]
        exact (issueTokens_masks state _ _ none).bind (by simp) (by simp)
      · exact (issueTokens_masks state _ _ none).bind (by simp) (by simp)

/-- No outcome depends on the text of a database error. -/
theorem handle_masks (request : Request) : Masks Stop.Alike (handle state request) := by
  cases request with
  | register body => exact register_masks state body
  | login body => exact login_masks state body
  | refresh body => exact refresh_masks state body
  | logout body => simp +contextual [handle, logout, Op.Alike, forall_sameUpTo]
  | verifyEmail q =>
      simp +contextual [handle, verifyEmail, ExceptT.run_bind, Op.Alike, forall_sameUpTo,
        Option.forall]
  | resendVerification authorization => exact resendVerification_masks state authorization
  | forgotPassword body => exact forgotPassword_masks state body
  | resetPassword body => exact resetPassword_masks state body
  | googleStart =>
      simp [handle, googleStart, ExceptT.run_bind]
      split
      next => simp
      next =>
        cases External.redirectUrl state.googleConfig.redirectUrl <;> simp [Op.Alike]
  | googleCallback q => exact googleCallback_masks state q
  | me authorization =>
      simp [handle, me, ExceptT.run_bind]
      refine (authUser_masks state authorization).bind (by simp) fun auth => ?_
      simp +contextual [Op.Alike, forall_sameUpTo, Option.forall]
  | myPermissions authorization =>
      simp [handle, myPermissions, ExceptT.run_bind]
      refine (authUser_masks state authorization).bind (by simp) fun auth => ?_
      simp +contextual [Op.Alike, forall_sameUpTo]
  | listUsers authorization | setRole authorization | setActive authorization
  | grantPermission authorization =>
      rw [handle_admin rfl, ExceptT.run_bind]
      exact (authorize_masks state authorization _).bind (by simp) fun _ => adminWork_masks _
  | createAdmin args =>
      simp [handle, createAdminUser, createAdminPort, ExceptT.run_bind]
      split
      case h_2 => simp
      simp [Op.Alike]
      intro salt
      cases External.argon2Hash args.password salt with
      | error e => simp
      | ok phc =>
          simp
          exact (createUser_masks _).bind (by simp) (by simp)

/-! ### The server -/

omit [External] in
theorem respond_alike (status : Nat) : ∀ outcome outcome', SameUpTo Stop.Alike outcome outcome' →
    respond status outcome = respond status outcome' := by
  rw [forall_sameUpTo]
  refine ⟨?_, fun _ => rfl⟩
  rintro (error | message) (error' | message') alike
  · exact congrArg (fun e => some (Response.error e)) alike
  · exact alike.elim
  · exact alike.elim
  · rfl

omit [External] in
/-- The same response, for an outcome that masks its errors. -/
theorem respond_agree {program : Server Outcome} (masks : Masks Stop.Alike program) (status : Nat) :
    (respond status <$> program).Agree Op.Alike Eq (respond status <$> program) :=
  Program.Agree.map masks _ _ (respond_alike status)

variable [Framework] {Value : Type} {parts : Except Rejection Value}

omit [External] [Framework] in
theorem extracted_agree {work : Value → Server (Option Response)}
    (h : ∀ value, (work value).Agree Op.Alike Eq (work value)) :
    (extracted parts work).Agree Op.Alike Eq (extracted parts work) := by
  cases parts with
  | error rejection => exact .done rfl
  | ok value => exact h value

omit [Framework] in
theorem admin_agree {http : HttpRequest} {p : Permission} {status : Nat}
    {request : Value → Request} :
    (admin state http parts p status request).Agree Op.Alike Eq
      (admin state http parts p status request) := by
  refine (verifiedUser_masks state http.authorization).bind (fun error error' alike => ?_)
    fun user => extracted_agree fun value => respond_agree ?_ status
  · exact .done (congrArg (fun e => some (Response.error e)) alike)
  · simp +contextual [ExceptT.run_bind, Op.Alike, forall_sameUpTo]
    intro names
    split
    next => exact adminWork_masks (request value)
    next => simp

/-- No response depends on the text of a database error. -/
theorem serve_agree (http : HttpRequest) :
    (serve state http).Agree Op.Alike Eq (serve state http) := by
  have reached (status : Nat) (request : Request) :=
    respond_agree (handle_masks state request) status
  unfold serve
  cases Framework.route http with
  | error answer => exact .done rfl
  | ok target =>
      obtain ⟨endpoint, segments⟩ := target
      cases endpoint with
      | health => exact .done rfl
      | resendVerification | googleStart | me | myPermissions => exact reached _ _
      | listUsers | setRole | setActive | grantPermission => exact admin_agree state
      | _ => exact extracted_agree fun _ => reached _ _

end Handlers

end GenericAuth
