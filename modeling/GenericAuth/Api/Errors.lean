import GenericAuth.Api.Writes

/-! The errors of the requests that create accounts or set passwords. An invalid body
is rejected before anything else happens, and no other error lists fields or is a conflict. -/
namespace GenericAuth

open Interaction

variable [External]

/-- What is wrong with the body of a request. -/
def Request.validate : Request → ValidationErrors
  | .register body => body.validate
  | .resetPassword body => body.validate
  | .createAdmin args => args.validate
  | _ => []

/-- An invalid request does nothing but report it. -/
theorem handle_invalid (state : AppState) {request : Request} (h : request.validate ≠ []) :
    handle state request = .done (.error (.err (.fromValidationErrors request.validate))) := by
  cases request with
  | register body =>
      have invalid : body.validate ≠ [] := h
      simp [handle, register, registerUser, ExceptT.run_bind, invalid, Request.validate]
  | resetPassword body =>
      have invalid : body.validate ≠ [] := h
      simp [handle, resetPassword, performPasswordReset, ExceptT.run_bind, invalid, Request.validate]
  | createAdmin args =>
      have invalid : args.validate ≠ [] := h
      simp [handle, createAdminUser, ExceptT.run_bind, invalid, Request.validate]
  | _ => exact absurd rfl h

/-! ### Other errors -/

/-- Neither a conflict nor a list of fields. -/
def AppError.Plain : AppError → Prop
  | .conflict _ | .validationFields .. => False
  | _ => True

def Plain {Value : Type} (outcome : Except Stop Value) : Prop :=
  ∀ error, outcome = .error (.err error) → error.Plain

omit [External] in
@[simp] theorem plain_ok {Value : Type} (value : Value) : Plain (.ok value : Except Stop Value) :=
  nofun

omit [External] in
@[simp] theorem plain_err {Value : Type} (error : AppError) :
    Plain (.error (.err error) : Except Stop Value) ↔ error.Plain := by
  simp [Plain]

omit [External] in
@[simp] theorem plain_panic {Value : Type} (message : String) :
    Plain (.error (.panic message) : Except Stop Value) := nofun

omit [External] in
@[simp] theorem ofDbError_plain (error : DbError) : (AppError.ofDbError error).Plain := by
  unfold AppError.ofDbError
  split <;> trivial

omit [External] in
@[simp] theorem auth_plain (message : String) : (AppError.auth message).Plain := trivial

omit [External] in
@[simp] theorem badRequest_plain (message : String) : (AppError.badRequest message).Plain := trivial

omit [External] in
theorem deadline_plain {Value : Type} {now : OffsetDateTime} {duration : Option TDuration}
    {stop : Stop} (h : deadline now duration = .error stop) :
    Plain (.error stop : Except Stop Value) := by
  obtain ⟨message, rfl⟩ := deadline_panics h
  exact plain_panic message

omit [External] in
/-- The value that there would have been does not matter. -/
theorem Plain.error {First Second : Type} {stop : Stop}
    (plain : Plain (.error stop : Except Stop First)) : Plain (.error stop : Except Stop Second) :=
  fun error hError => plain error (by cases hError; rfl)

omit [External] in
/-- What a conversion keeps of an outcome, the next steps keep as well. -/
theorem plain_map {First Second : Type} {convert : First → Second} {outcome : Except Stop First}
    (h : Plain outcome) : Plain (convert <$> outcome) := by
  cases outcome with
  | error stop => exact fun error hError => h error (by cases hError; rfl)
  | ok value => exact plain_ok (convert value)

section Courses

variable {state : AppState} {calls : Calls} {userId : Uuid} {outcome : Outcome}

theorem AccountCourse.plain {errs : ValidationErrors} {password : String}
    {new : String → NewUser} {result : Except Stop User}
    (course : AccountCourse errs password new calls result) (valid : errs = []) :
    Plain result := by
  cases course with
  | invalid h => exact absurd valid h
  | unhashed | failed | created => simp

theorem IssueCourse.plain {role : Role} {userAgent : Option String}
    {result : Except Stop TokenPair}
    (course : IssueCourse state userId role userAgent calls result) : Plain result := by
  cases course with
  | outOfRange _ _ _ hDeadline => exact deadline_plain hDeadline
  | unsigned | notStored | stored => simp

theorem EnrolCourse.plain {body : RegisterReq} {result : Except Stop TokenPair}
    (course : EnrolCourse state body calls result) (valid : body.validate = []) :
    Plain result := by
  cases course with
  | refused account => exact (account.plain valid).error
  | created account issue => exact issue.plain

theorem MailCourse.plain {email : String} {result : Except Stop (Except Unit Unit)}
    (course : MailCourse state userId email calls result) : Plain result := by
  cases course with
  | outOfRange _ _ hDeadline => exact deadline_plain hDeadline
  | notStored | sent => simp

omit [External] in
theorem UpsertCourse.plain {profile : GoogleProfile} {result : Except Stop User}
    (course : UpsertCourse profile calls result) : Plain result := by
  cases course <;> simp

/-- Requests that create an account or set a password. -/
def Request.setsAccount : Request → Bool
  | .register _ | .resetPassword _ | .googleCallback _ | .createAdmin _ => true
  | _ => false

theorem Course.plain {request : Request} (course : Course state request calls outcome)
    (sets : request.setsAccount = true) (valid : request.validate = []) : Plain outcome := by
  cases request with
  | register body =>
      cases course with
      | refused enrol => exact (enrol.plain valid).error
      | notFound | unknown => simp
      | mailed enrol found mail => exact plain_map mail.plain
  | resetPassword body =>
      cases course with
      | invalid h => exact absurd valid h
      | _ => simp
  | googleCallback q =>
      cases course with
      | badUrl | notExchanged => simp
      | refused hUrl upsert => exact upsert.plain.error
      | signedIn hUrl upsert issue => exact plain_map issue.plain
  | createAdmin args =>
      cases course with
      | refused account => exact (account.plain valid).error
      | created account => simp
  | _ => cases sets

end Courses

theorem handle_plain (state : AppState) {request : Request} (sets : request.setsAccount = true)
    (valid : request.validate = []) :
    (handle state request).Obeys Unrestricted (fun _ outcome => Plain outcome) [] :=
  (handle_takes state request).imp fun _ _ course => course.plain sets valid

end GenericAuth
