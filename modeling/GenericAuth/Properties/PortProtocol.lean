import GenericAuth.Api.Ports
import GenericAuth.Auth.Reference

/-! The flows behind a port, whatever the port answers. They call its functions in a
fixed order, go on only as long as the calls succeed, and pass credentials as hashes. -/
namespace GenericAuth

open Interaction

/-! ### Calls -/

/-- The function of the port that a call is for. -/
def portFn (call : FlowCall) : Option PortFn :=
  match call.op with
  | .port op => some op.fn
  | _ => none

/-- The port answered with an error. -/
def CallFailed : FlowCall → Prop
  | ⟨.port _, .error _⟩ => True
  | _ => False

/-- The port knows no such user or token, or no password of the user. -/
def CallDeclined : FlowCall → Prop
  | ⟨.port (.findByEmailForReset _), .ok none⟩ => True
  | ⟨.port (.findByEmailForReset _), .ok (some (_, hasPassword))⟩ => hasPassword = false
  | ⟨.port (.consumeResetToken _), .ok none⟩ => True
  | _ => False

def CallProceeds (call : FlowCall) : Prop := ¬CallFailed call ∧ ¬CallDeclined call

/-- The date of expiry could not be represented. -/
def DateFailed (lifetime : Option TDuration) (calls : List FlowCall) : Prop :=
  ∃ now : OffsetDateTime, ⟨.nowUtc, now⟩ ∈ calls ∧ ∃ stop, deadline now lifetime = .error stop

/-- The password could not be hashed. -/
def HashingFailed [External] (password : String) (calls : List FlowCall) : Prop :=
  ∃ salt : String, ⟨.saltGenerate, salt⟩ ∈ calls ∧
    ∃ error, External.argon2Hash password salt = .error error

/-- The port is called in the order of the steps, not at all for an invalid request,
and not after a call that fails or declines. Unless the flow itself failed, a valid
request goes through all steps and succeeds if and only if every call proceeds. -/
structure FailClosed {Result : Type} (steps : List PortFn) (invalid : String → Prop) (failed : Prop)
    (succeeded : Prop) (calls : List FlowCall) (result : Except Stop Result) : Prop where
  order : calls.filterMap portFn <+: steps
  cut : calls.Pairwise fun call later => ¬CallProceeds call → portFn later = none
  rejected : (∃ field, invalid field) → calls.filterMap portFn = [] ∧
    ∃ fields, result = .error (.err (.validationFields "Validation failed" fields)) ∧
      ∀ field, field ∈ fields.map Prod.fst ↔ invalid field
  complete : (∀ field, ¬invalid field) → ¬failed → (∀ call ∈ calls, CallProceeds call) →
    calls.filterMap portFn = steps
  succeeds : (∀ field, ¬invalid field) → ¬failed →
    (succeeded ↔ ∀ call ∈ calls, CallProceeds call)

section Flows

variable [External]

/-- The fields of an address and a password that break a rule. -/
def InvalidAccount (email password field : String) : Prop :=
  field = "email" ∧ External.validateEmail email = false ∨ field = "password" ∧ password.length < 8

theorem account_keys (email password field : String) :
    field ∈ (validateEmail "email" email ++ validateLength "password" password).map Prod.fst ↔
      InvalidAccount email password field := by
  unfold validateEmail validateLength InvalidAccount
  split <;> split <;> simp_all

section Closed

omit [External]

variable {Result : Type} {steps : List PortFn} {invalid : String → Prop} {failed succeeded : Prop}
    {calls : List FlowCall} {result : Except Stop Result} {errs : ValidationErrors}

theorem FailClosed.of_invalid (hKeys : ∀ field, field ∈ errs.map Prod.fst ↔ invalid field)
    (h : errs ≠ []) : FailClosed steps invalid failed succeeded []
      (.error (.err (.fromValidationErrors errs)) : Except Stop Result) := by
  obtain ⟨entry, hEntry⟩ := List.exists_mem_of_ne_nil errs h
  have hInvalid : invalid entry.1 := (hKeys entry.1).mp (List.mem_map_of_mem hEntry)
  exact
    { order := List.nil_prefix
      cut := .nil
      rejected := fun _ => ⟨rfl, _, rfl, fun field => by rw [← hKeys, List.map_map]; rfl⟩
      complete := fun valid => absurd hInvalid (valid entry.1)
      succeeds := fun valid => absurd hInvalid (valid entry.1) }

theorem FailClosed.of_valid (valid : ∀ field, ¬invalid field)
    (order : calls.filterMap portFn <+: steps)
    (cut : calls.Pairwise fun call later => ¬CallProceeds call → portFn later = none)
    (complete : ¬failed → (∀ call ∈ calls, CallProceeds call) → calls.filterMap portFn = steps)
    (succeeds : ¬failed → (succeeded ↔ ∀ call ∈ calls, CallProceeds call)) :
    FailClosed steps invalid failed succeeded calls result where
  order := order
  cut := cut
  rejected := fun ⟨field, hInvalid⟩ => absurd hInvalid (valid field)
  complete _ := complete
  succeeds _ := succeeds

theorem none_invalid (hKeys : ∀ field, field ∈ errs.map Prod.fst ↔ invalid field) (h : errs = [])
    (field : String) : ¬invalid field := by
  rw [← hKeys, h]
  exact List.not_mem_nil

end Closed

attribute [local simp] portFn CallProceeds CallFailed CallDeclined HashingFailed DateFailed
  List.filterMap_cons

/-! ### Registration -/

/-- The ways that a registration can take: all that it asks for, and its result. -/
inductive RegisterCourse (body : RegisterReq) (accessTtlMin refreshTtlDays : Int64) :
    List FlowCall → Except Stop TokenPair → Prop where
  | invalid (h : body.validate ≠ []) : RegisterCourse body accessTtlMin refreshTtlDays []
      (.error (.err (.fromValidationErrors body.validate)))
  | unhashed (valid : body.validate = []) {salt error : String}
      (h : External.argon2Hash body.password salt = .error error) :
      RegisterCourse body accessTtlMin refreshTtlDays [⟨.saltGenerate, salt⟩]
        (.error (.err (.auth ("hash: " ++ error))))
  | notCreated (valid : body.validate = []) {salt phc : String}
      (hashed : External.argon2Hash body.password salt = .ok phc) (error : AppError) :
      RegisterCourse body accessTtlMin refreshTtlDays
        [⟨.saltGenerate, salt⟩,
          ⟨.port (.createUser body.email phc body.displayName), .error error⟩]
        (.error (.err error))
  | notIssued (valid : body.validate = []) {salt phc : String}
      (hashed : External.argon2Hash body.password salt = .ok phc) (user : User)
      (error : AppError) :
      RegisterCourse body accessTtlMin refreshTtlDays
        [⟨.saltGenerate, salt⟩, ⟨.port (.createUser body.email phc body.displayName), .ok user⟩,
          ⟨.port (.issueAccessToken user.id user.role), .error error⟩]
        (.error (.err error))
  | outOfRange (valid : body.validate = []) {salt phc : String}
      (hashed : External.argon2Hash body.password salt = .ok phc) (user : User) (access : String)
      (bytes : BitVec 256) {now : OffsetDateTime} {stop : Stop}
      (h : deadline now (TDuration.days refreshTtlDays) = .error stop) :
      RegisterCourse body accessTtlMin refreshTtlDays
        [⟨.saltGenerate, salt⟩, ⟨.port (.createUser body.email phc body.displayName), .ok user⟩,
          ⟨.port (.issueAccessToken user.id user.role), .ok access⟩, ⟨.randomBytes, bytes⟩,
          ⟨.nowUtc, now⟩]
        (.error stop)
  | stored (valid : body.validate = []) {salt phc : String}
      (hashed : External.argon2Hash body.password salt = .ok phc) (user : User) (access : String)
      (bytes : BitVec 256) {now expiresAt : OffsetDateTime}
      (inTime : deadline now (TDuration.days refreshTtlDays) = .ok expiresAt)
      (reply : Except AppError Unit) :
      RegisterCourse body accessTtlMin refreshTtlDays
        [⟨.saltGenerate, salt⟩, ⟨.port (.createUser body.email phc body.displayName), .ok user⟩,
          ⟨.port (.issueAccessToken user.id user.role), .ok access⟩, ⟨.randomBytes, bytes⟩,
          ⟨.nowUtc, now⟩,
          ⟨.port (.storeRefreshToken user.id (External.sha256Hex (hexEncode bytes)) expiresAt), reply⟩]
        ((reply.mapError Stop.err).map fun _ =>
          { accessToken := access, refreshToken := hexEncode bytes,
            accessExpiresIn := accessTtlMin * 60 })

theorem registerUser_course (body : RegisterReq) (accessTtlMin refreshTtlDays : Int64) :
    (registerUser .asking body accessTtlMin refreshTtlDays).run.Takes
      (RegisterCourse body accessTtlMin refreshTtlDays) := by
  by_cases valid : body.validate = []
  case neg =>
    simp [registerUser, ExceptT.run_bind, validated_run, valid]
    exact .invalid valid
  simp [registerUser, RegisterPort.asking, ask, ExceptT.run_bind, validated_run, hashPassword_run,
    fromNow_run, generateRefreshToken, valid]
  intro salt
  cases hashed : External.argon2Hash body.password salt with
  | error error => exact .unhashed valid hashed
  | ok phc =>
      simp
      intro created
      cases created with
      | error error => exact .notCreated valid hashed error
      | ok user =>
          simp
          intro issued
          cases issued with
          | error error => exact .notIssued valid hashed user error
          | ok access =>
              simp
              intro bytes now
              cases inTime : deadline now (TDuration.days refreshTtlDays) with
              | error stop => exact .outOfRange valid hashed user access bytes inTime
              | ok expiresAt =>
                  simp
                  exact fun reply => .stored valid hashed user access bytes inTime reply

theorem RegisterCourse.failClosed {body : RegisterReq} {accessTtlMin refreshTtlDays : Int64}
    {calls : List FlowCall} {result : Except Stop TokenPair}
    (course : RegisterCourse body accessTtlMin refreshTtlDays calls result) :
    FailClosed [.createUser, .issueAccessToken, .storeRefreshToken]
      (InvalidAccount body.email body.password)
      (HashingFailed body.password calls ∨ DateFailed (TDuration.days refreshTtlDays) calls)
      (∃ pair, result = .ok pair) calls result := by
  have hKeys := account_keys body.email body.password
  cases course with
  | invalid h => exact .of_invalid hKeys h
  | unhashed valid h => apply FailClosed.of_valid (none_invalid hKeys valid) <;> simp [h]
  | notCreated valid => apply FailClosed.of_valid (none_invalid hKeys valid) <;> simp
  | notIssued valid => apply FailClosed.of_valid (none_invalid hKeys valid) <;> simp
  | outOfRange valid hashed user access bytes h =>
      apply FailClosed.of_valid (none_invalid hKeys valid) <;> simp [h]
  | stored valid hashed user access bytes inTime reply =>
      cases reply <;> apply FailClosed.of_valid (none_invalid hKeys valid) <;> simp

/-! ### Password recovery -/

/-- The ways that the request for a reset can take. -/
inductive RequestCourse (email : String) (resetTtlHours : Int64) :
    List FlowCall → Except Stop (Option String) → Prop where
  | failed (error : AppError) : RequestCourse email resetTtlHours
      [⟨.port (.findByEmailForReset email), .error error⟩] (.error (.err error))
  | unknown : RequestCourse email resetTtlHours
      [⟨.port (.findByEmailForReset email), .ok none⟩] (.ok none)
  | passwordless (userId : Uuid) : RequestCourse email resetTtlHours
      [⟨.port (.findByEmailForReset email), .ok (some (userId, false))⟩] (.ok none)
  | outOfRange (userId first second : Uuid) {now : OffsetDateTime} {stop : Stop}
      (h : deadline now (TDuration.hours resetTtlHours) = .error stop) :
      RequestCourse email resetTtlHours
        [⟨.port (.findByEmailForReset email), .ok (some (userId, true))⟩, ⟨.newV4, first⟩,
          ⟨.newV4, second⟩, ⟨.nowUtc, now⟩]
        (.error stop)
  | stored (userId first second : Uuid) {now expiresAt : OffsetDateTime}
      (inTime : deadline now (TDuration.hours resetTtlHours) = .ok expiresAt)
      (reply : Except AppError Unit) :
      RequestCourse email resetTtlHours
        [⟨.port (.findByEmailForReset email), .ok (some (userId, true))⟩, ⟨.newV4, first⟩,
          ⟨.newV4, second⟩, ⟨.nowUtc, now⟩,
          ⟨.port (.storeResetToken userId (External.sha256Hex (hexEncode first ++ hexEncode second))
            expiresAt), reply⟩]
        ((reply.mapError Stop.err).map fun _ => some (hexEncode first ++ hexEncode second))

theorem requestPasswordReset_course (email : String) (resetTtlHours : Int64) :
    (requestPasswordReset .asking email resetTtlHours).run.Takes
      (RequestCourse email resetTtlHours) := by
  simp [requestPasswordReset, PasswordResetPort.asking, ask, ExceptT.run_bind,
    generateVerificationToken]
  intro found
  rcases found with error | _ | ⟨userId, _ | _⟩
  · exact .failed error
  · exact .unknown
  · exact .passwordless userId
  · simp [ExceptT.run_bind, fromNow_run]
    intro first second now
    cases inTime : deadline now (TDuration.hours resetTtlHours) with
    | error stop => exact .outOfRange userId first second inTime
    | ok expiresAt =>
        simp
        exact fun reply => .stored userId first second inTime reply

theorem RequestCourse.failClosed {email : String} {resetTtlHours : Int64} {calls : List FlowCall}
    {result : Except Stop (Option String)} (course : RequestCourse email resetTtlHours calls result) :
    FailClosed [.findByEmailForReset, .storeResetToken] (fun _ => False)
      (DateFailed (TDuration.hours resetTtlHours) calls) (∃ token, result = .ok (some token)) calls
      result := by
  have valid (field : String) : ¬False := id
  cases course with
  | failed | unknown | passwordless => apply FailClosed.of_valid valid <;> simp
  | outOfRange userId first second h => apply FailClosed.of_valid valid <;> simp [h]
  | stored userId first second inTime reply =>
      cases reply <;> apply FailClosed.of_valid valid <;> simp

theorem RequestCourse.declined {email : String} {resetTtlHours : Int64} {calls : List FlowCall}
    {result : Except Stop (Option String)} (course : RequestCourse email resetTtlHours calls result)
    (h : ∃ call ∈ calls, CallDeclined call) : result = .ok none := by
  cases course with
  | unknown | passwordless => rfl
  | failed | outOfRange | stored => simp at h

/-- The ways that a reset can take. -/
inductive PerformCourse (body : ResetPasswordReq) : List FlowCall → Except Stop Unit → Prop where
  | invalid (h : body.validate ≠ []) :
      PerformCourse body [] (.error (.err (.fromValidationErrors body.validate)))
  | notConsumed (valid : body.validate = []) (error : AppError) :
      PerformCourse body
        [⟨.port (.consumeResetToken (External.sha256Hex body.token)), .error error⟩]
        (.error (.err error))
  | unknown (valid : body.validate = []) :
      PerformCourse body [⟨.port (.consumeResetToken (External.sha256Hex body.token)), .ok none⟩]
        (.error (.err (.badRequest "invalid or expired token")))
  | unhashed (valid : body.validate = []) (userId : Uuid) {salt error : String}
      (h : External.argon2Hash body.newPassword salt = .error error) :
      PerformCourse body
        [⟨.port (.consumeResetToken (External.sha256Hex body.token)), .ok (some userId)⟩,
          ⟨.saltGenerate, salt⟩]
        (.error (.err (.auth ("hash: " ++ error))))
  | notUpdated (valid : body.validate = []) (userId : Uuid) {salt phc : String}
      (hashed : External.argon2Hash body.newPassword salt = .ok phc) (error : AppError) :
      PerformCourse body
        [⟨.port (.consumeResetToken (External.sha256Hex body.token)), .ok (some userId)⟩,
          ⟨.saltGenerate, salt⟩, ⟨.port (.updatePassword userId phc), .error error⟩]
        (.error (.err error))
  | updated (valid : body.validate = []) (userId : Uuid) {salt phc : String}
      (hashed : External.argon2Hash body.newPassword salt = .ok phc) (reply : Except AppError Unit) :
      PerformCourse body
        [⟨.port (.consumeResetToken (External.sha256Hex body.token)), .ok (some userId)⟩,
          ⟨.saltGenerate, salt⟩, ⟨.port (.updatePassword userId phc), .ok ()⟩,
          ⟨.port (.revokeSessions userId), reply⟩]
        (reply.mapError Stop.err)

theorem performPasswordReset_course (body : ResetPasswordReq) :
    (performPasswordReset .asking body).run.Takes (PerformCourse body) := by
  by_cases valid : body.validate = []
  case neg =>
    simp [performPasswordReset, ExceptT.run_bind, validated_run, valid]
    exact .invalid valid
  simp [performPasswordReset, PasswordResetPort.asking, ask, ExceptT.run_bind, validated_run, valid]
  intro consumed
  rcases consumed with error | _ | userId
  · exact .notConsumed valid error
  · exact .unknown valid
  · simp [ExceptT.run_bind, hashPassword_run]
    intro salt
    cases hashed : External.argon2Hash body.newPassword salt with
    | error error => exact .unhashed valid userId hashed
    | ok phc =>
        simp
        intro updated
        cases updated with
        | error error => exact .notUpdated valid userId hashed error
        | ok =>
            simp
            exact fun reply => .updated valid userId hashed reply

omit [External] in
theorem reset_keys (body : ResetPasswordReq) (field : String) :
    field ∈ body.validate.map Prod.fst ↔ field = "new_password" ∧ body.newPassword.length < 8 := by
  unfold ResetPasswordReq.validate validateLength
  split <;> simp_all

theorem PerformCourse.failClosed {body : ResetPasswordReq} {calls : List FlowCall}
    {result : Except Stop Unit} (course : PerformCourse body calls result) :
    FailClosed [.consumeResetToken, .updatePassword, .revokeSessions]
      (fun field => field = "new_password" ∧ body.newPassword.length < 8)
      (HashingFailed body.newPassword calls) (result = .ok ()) calls result := by
  have hKeys := reset_keys body
  cases course with
  | invalid h => exact .of_invalid hKeys h
  | notConsumed valid => apply FailClosed.of_valid (none_invalid hKeys valid) <;> simp
  | unknown valid => apply FailClosed.of_valid (none_invalid hKeys valid) <;> simp
  | unhashed valid userId h => apply FailClosed.of_valid (none_invalid hKeys valid) <;> simp [h]
  | notUpdated valid => apply FailClosed.of_valid (none_invalid hKeys valid) <;> simp
  | updated valid userId hashed reply =>
      cases reply <;> apply FailClosed.of_valid (none_invalid hKeys valid) <;> simp

/-! ### The create-admin command -/

/-- The ways that the creation of an administrator can take. -/
inductive CreateAdminCourse (args : CreateAdminArgs) : List FlowCall → Except Stop User → Prop where
  | invalid (h : args.validate ≠ []) :
      CreateAdminCourse args [] (.error (.err (.fromValidationErrors args.validate)))
  | unhashed (valid : args.validate = []) {salt error : String}
      (h : External.argon2Hash args.password salt = .error error) :
      CreateAdminCourse args [⟨.saltGenerate, salt⟩] (.error (.err (.auth ("hash: " ++ error))))
  | asked (valid : args.validate = []) {salt phc : String}
      (hashed : External.argon2Hash args.password salt = .ok phc) (reply : Except AppError User) :
      CreateAdminCourse args
        [⟨.saltGenerate, salt⟩, ⟨.port (.createAdmin args.email phc), reply⟩]
        (reply.mapError Stop.err)

theorem createAdminUser_course (args : CreateAdminArgs) :
    (createAdminUser .asking args).run.Takes (CreateAdminCourse args) := by
  by_cases valid : args.validate = []
  case neg =>
    simp [createAdminUser, ExceptT.run_bind, validated_run, valid]
    exact .invalid valid
  simp [createAdminUser, CreateAdminPort.asking, ask, ExceptT.run_bind, validated_run,
    hashPassword_run, valid]
  intro salt
  cases hashed : External.argon2Hash args.password salt with
  | error error => exact .unhashed valid hashed
  | ok phc =>
      simp
      exact fun reply => .asked valid hashed reply

theorem CreateAdminCourse.failClosed {args : CreateAdminArgs} {calls : List FlowCall}
    {result : Except Stop User} (course : CreateAdminCourse args calls result) :
    FailClosed [.createAdmin] (InvalidAccount args.email args.password)
      (HashingFailed args.password calls) (∃ user, result = .ok user) calls result := by
  have hKeys := account_keys args.email args.password
  cases course with
  | invalid h => exact .of_invalid hKeys h
  | unhashed valid h => apply FailClosed.of_valid (none_invalid hKeys valid) <;> simp [h]
  | asked valid hashed reply =>
      cases reply <;> apply FailClosed.of_valid (none_invalid hKeys valid) <;> simp

/-! ### Every implementation -/

section Every

variable {Store Draw : Type} (service : Service Store Draw FlowOp FlowOp.Reply)
    (draws : Stream' Draw) (store : Store)

/-- All that a flow asks for, and the answers. -/
def callsMade {Result : Type} (flow : ExceptT Stop Flow Result) : List FlowCall :=
  flow.run.trace service draws store

def resultOf {Result : Type} (flow : ExceptT Stop Flow Result) : Except Stop Result :=
  (flow.run.exec service draws store).1

omit [External] in
theorem course_taken {Result : Type} {course : List FlowCall → Except Stop Result → Prop}
    {flow : ExceptT Stop Flow Result} (takes : flow.run.Takes course) :
    course (callsMade service draws store flow) (resultOf service draws store flow) :=
  takes.exec service draws store

/-- Every implementation of the ports answers the calls of the same four flows. However
they are answered, the flows are fail-closed; the courses say what is passed to a port:
hashes only, and what the call before returned. -/
theorem port_protocols :
    (∀ (m : Type → Type) [Monad m] [LawfulMonad m] [Runtime m] (ports : Ports m), ports.Answers) ∧
    (∀ body accessTtlMin refreshTtlDays,
      let flow := registerUser .asking body accessTtlMin refreshTtlDays
      let calls := callsMade service draws store flow
      let result := resultOf service draws store flow
      RegisterCourse body accessTtlMin refreshTtlDays calls result ∧
      FailClosed [.createUser, .issueAccessToken, .storeRefreshToken]
        (InvalidAccount body.email body.password)
        (HashingFailed body.password calls ∨ DateFailed (TDuration.days refreshTtlDays) calls)
        (∃ pair, result = .ok pair) calls result) ∧
    (∀ email resetTtlHours,
      let flow := requestPasswordReset .asking email resetTtlHours
      let calls := callsMade service draws store flow
      let result := resultOf service draws store flow
      RequestCourse email resetTtlHours calls result ∧
      FailClosed [.findByEmailForReset, .storeResetToken] (fun _ => False)
        (DateFailed (TDuration.hours resetTtlHours) calls) (∃ token, result = .ok (some token)) calls
        result ∧
      ((∃ call ∈ calls, CallDeclined call) → result = .ok none)) ∧
    (∀ body,
      let flow := performPasswordReset .asking body
      let calls := callsMade service draws store flow
      let result := resultOf service draws store flow
      PerformCourse body calls result ∧
      FailClosed [.consumeResetToken, .updatePassword, .revokeSessions]
        (fun field => field = "new_password" ∧ body.newPassword.length < 8)
        (HashingFailed body.newPassword calls) (result = .ok ()) calls result) ∧
    ∀ args,
      let flow := createAdminUser .asking args
      let calls := callsMade service draws store flow
      let result := resultOf service draws store flow
      CreateAdminCourse args calls result ∧
      FailClosed [.createAdmin] (InvalidAccount args.email args.password)
        (HashingFailed args.password calls) (∃ user, result = .ok user) calls result := by
  refine ⟨fun m _ _ _ ports => ports.answers, ?_, ?_, ?_, ?_⟩
  · intro body accessTtlMin refreshTtlDays
    have course := course_taken service draws store
      (registerUser_course body accessTtlMin refreshTtlDays)
    exact ⟨course, course.failClosed⟩
  · intro email resetTtlHours
    have course := course_taken service draws store (requestPasswordReset_course email resetTtlHours)
    exact ⟨course, course.failClosed, course.declined⟩
  · intro body
    have course := course_taken service draws store (performPasswordReset_course body)
    exact ⟨course, course.failClosed⟩
  · intro args
    have course := course_taken service draws store (createAdminUser_course args)
    exact ⟨course, course.failClosed⟩

end Every

end Flows

section Runs

attribute [local instance] reference

/-- The new user whom a port returns. -/
def createdAs (role : Role) (email : String) (displayName : Option String) (draw : Draw) : User :=
  { id := draw.uuid, email := some email, displayName, role, isActive := true,
    emailVerified := false, createdAt := draw.dbNow, updatedAt := draw.dbNow }

/-- Ports that agree to everything. -/
def agreeing : Service Unit Draw FlowOp FlowOp.Reply := fun draw _ op =>
  match op with
  | .port (.createUser email _ displayName) => (.ok (createdAs .user email displayName draw), ())
  | .port (.createAdmin email _) => (.ok (createdAs .admin email none draw), ())
  | .port (.issueAccessToken ..) => (.ok "access", ())
  | .port (.findByEmailForReset _) => (.ok (some (draw.uuid, true)), ())
  | .port (.consumeResetToken _) => (.ok (some draw.uuid), ())
  | .port (.storeRefreshToken ..) | .port (.storeResetToken ..) | .port (.updatePassword ..)
  | .port (.revokeSessions _) => (.ok (), ())
  | .nowUtc => (draw.now, ())
  | .randomBytes => (draw.bytes, ())
  | .newV4 => (draw.uuid, ())
  | .saltGenerate => (draw.salt, ())

theorem agreeing_proceeds {draws : Stream' Draw} {Result : Type} {flow : ExceptT Stop Flow Result}
    {call : FlowCall} (hMem : call ∈ callsMade agreeing draws () flow) : CallProceeds call := by
  obtain ⟨op, reply⟩ := call
  obtain ⟨n, _, rfl⟩ := Program.mem_trace agreeing hMem
  cases op with
  | port op => cases op <;> exact ⟨id, nofun⟩
  | _ => exact ⟨id, id⟩

/-- All calls of a valid registration succeed, but the last one is not made: the session
would expire after the last date that can be represented. -/
theorem registration_cut_by_date :
    let body : RegisterReq := ⟨"user@example.org", "password", none⟩
    let flow := registerUser .asking body 15 9223372036854775807
    let calls := callsMade agreeing (moments 0) () flow
    body.validate = [] ∧ ¬HashingFailed body.password calls ∧
      (∀ call ∈ calls, CallProceeds call) ∧
      calls.filterMap portFn = [.createUser, .issueAccessToken] ∧
      ∃ message, resultOf agreeing (moments 0) () flow = .error (.panic message) := by
  intro body flow calls
  have valid : RegisterReq.validate ⟨"user@example.org", "password", none⟩ = [] := by decide +kernel
  have proceeds : ∀ call ∈ calls, CallProceeds call := fun call => agreeing_proceeds
  have hashed : ¬HashingFailed body.password calls := by
    rintro ⟨salt, _, error, h⟩
    cases h
  refine ⟨valid, hashed, proceeds, ?_⟩
  have course : RegisterCourse body 15 9223372036854775807 calls
      (resultOf agreeing (moments 0) () flow) :=
    course_taken agreeing (moments 0) () (registerUser_course body 15 9223372036854775807)
  clear_value calls
  generalize resultOf agreeing (moments 0) () flow = result at course
  cases course with
  | invalid h => exact absurd valid h
  | unhashed _ h => cases h
  | notCreated | notIssued => simp [CallProceeds, CallFailed] at proceeds
  | outOfRange valid hashed user access bytes h =>
      obtain ⟨message, rfl⟩ := deadline_panics h
      exact ⟨rfl, message, rfl⟩
  | stored valid hashed user access bytes inTime reply => cases inTime

end Runs

end GenericAuth
