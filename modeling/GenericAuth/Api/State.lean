import GenericAuth.Auth.Credentials

/-! Settings, application state, error responses and outgoing mail. Settings
that no handler reads (pool sizes, CORS, SMTP transport) are left out. -/
namespace GenericAuth

open Interaction

/-! ### Settings -/

structure Http where
  publicUrl : String
  deriving DecidableEq, Repr

structure GoogleAuth where
  clientId : String
  clientSecret : String
  redirectUrl : String
  deriving DecidableEq, Repr

structure Auth where
  jwtSecret : String
  jwtAccessTtlMin : Int64
  jwtRefreshTtlDays : Int64
  passwordMinLength : Nat
  google : GoogleAuth
  deriving DecidableEq, Repr

structure Settings where
  http : Http
  auth : Auth
  deriving DecidableEq, Repr

structure AppState where
  settings : Settings
  jwt : JwtCodec
  deriving DecidableEq, Repr

def AppState.build (settings : Settings) : AppState where
  settings := settings
  jwt := ⟨{ secret := settings.auth.jwtSecret, accessTtlMin := settings.auth.jwtAccessTtlMin,
            refreshTtlDays := settings.auth.jwtRefreshTtlDays, issuer := "generic-auth" }⟩

def AppState.googleConfig (state : AppState) : GoogleConfig :=
  { clientId := state.settings.auth.google.clientId,
    clientSecret := state.settings.auth.google.clientSecret,
    redirectUrl := state.settings.auth.google.redirectUrl }

/-! ### Error responses -/

/-- Status and JSON body of an error: code, message and the failed fields. -/
structure ErrorResponse where
  status : Nat
  code : String
  message : String
  fields : Option (List (String × List String))
  deriving DecidableEq, Repr

def AppError.intoResponse (e : AppError) : ErrorResponse :=
  match e with
  | .validationFields message fields => ⟨422, "validation", message, some fields⟩
  | .notFound => ⟨404, "not_found", e.display, none⟩
  | .forbidden => ⟨403, "forbidden", e.display, none⟩
  | .unauthorized => ⟨401, "unauthorized", e.display, none⟩
  | .validation _ => ⟨422, "validation", e.display, none⟩
  | .conflict _ => ⟨409, "conflict", e.display, none⟩
  | .badRequest _ => ⟨400, "bad_request", e.display, none⟩
  | .auth _ => ⟨401, "auth", e.display, none⟩
  | .emailNotVerified => ⟨403, "email_not_verified", e.display, none⟩
  | .storage _ | .database _ | .internal _ | .fileProcessing _ =>
      ⟨500, "internal", "internal error", none⟩

/-! ### Handlers -/

/-- A handler returns, answers with an error, or panics. -/
abbrev AppResult := ExceptT Stop Server

variable {m : Type → Type} [Monad m]

/-- `body.validate().map_err(AppError::from_validation_errors)?`. -/
def validated (errs : ValidationErrors) : ExceptT Stop m Unit :=
  if errs.isEmpty then return () else throw (.err (.fromValidationErrors errs))

theorem validated_run [LawfulMonad m] (errs : ValidationErrors) :
    (validated (m := m) errs).run =
      pure (if errs.isEmpty then .ok () else .error (.err (.fromValidationErrors errs))) := by
  unfold validated
  split
  · exact ExceptT.run_pure ()
  · exact ExceptT.run_throw

/-- The sum of an instant and a duration, where either can be out of range. -/
def deadline (now : OffsetDateTime) : Option TDuration → Except Stop OffsetDateTime
  | none => .error (.panic "overflow constructing `time::Duration`")
  | some duration =>
      match now.checkedAdd duration with
      | none => .error (.panic "resulting value is out of range")
      | some instant => .ok instant

theorem deadline_panics {now : OffsetDateTime} {duration : Option TDuration} {stop : Stop}
    (h : deadline now duration = .error stop) : ∃ message, stop = .panic message := by
  unfold deadline at h
  split at h
  · exact ⟨_, (Except.error.inj h).symm⟩
  · split at h
    · exact ⟨_, (Except.error.inj h).symm⟩
    · cases h

/-- A sum with a number of days that is returned is exact and in range. -/
theorem eq_of_deadline {now expiresAt : Int} {days : Int64}
    (h : deadline now (TDuration.days days) = .ok expiresAt) :
    expiresAt = now + days.toInt * 86400 * 1000000 ∧ expiresAt ≤ OffsetDateTime.greatest := by
  simp only [TDuration.days, TDuration.ofSeconds] at h
  split at h
  · simp only [deadline, OffsetDateTime.checkedAdd] at h
    split at h
    · cases h
    · next hAdd =>
        split at hAdd
        · next range =>
            obtain rfl := Option.some.inj hAdd
            obtain rfl := Except.ok.inj h
            exact ⟨rfl, range.2⟩
        · cases hAdd
  · cases h

theorem deadline_of_le {now : Int} {days : Int64} (hNow : 0 ≤ now) (hDays : 0 < days.toInt)
    (h : now + days.toInt * 86400 * 1000000 ≤ OffsetDateTime.greatest) :
    deadline now (TDuration.days days) = .ok (now + days.toInt * 86400 * 1000000) := by
  have hEnd : now + days.toInt * 86400 * 1000000 ≤ 253402300800 * 1000000 - 1 := h
  have hLength : TDuration.days days = some (days.toInt * 86400 * 1000000) :=
    if_pos ⟨by omega, by omega⟩
  have hLeast : -377705116800 * 1000000 ≤ now + days.toInt * 86400 * 1000000 := by omega
  have hSum : OffsetDateTime.checkedAdd now (days.toInt * 86400 * 1000000) =
      some (now + days.toInt * 86400 * 1000000) := if_pos ⟨hLeast, h⟩
  simp only [hLength, deadline, hSum]

/-- `OffsetDateTime::now_utc() + duration`. -/
def fromNow [Runtime m] (duration : Option TDuration) : ExceptT Stop m OffsetDateTime := do
  let now ← (Runtime.nowUtc : m OffsetDateTime)
  match deadline now duration with
  | .ok instant => return instant
  | .error stop => throw stop

theorem fromNow_run [Runtime m] [LawfulMonad m] (duration : Option TDuration) :
    (fromNow (m := m) duration).run = Runtime.nowUtc >>= fun now =>
      pure (deadline now duration) := by
  apply (ExceptT.run_bind_lift _ _).trans
  apply bind_congr
  intro now
  cases deadline now duration <;> rfl

/-! ### Outgoing mail -/

/-- Mails are sent by a background task. -/
def sendEmail (toEmail subject body : String) : AppResult Unit :=
  ExceptT.mk (.call (.sendMail toEmail subject body) fun _ => .done (.ok ()))

def verificationText (verificationUrl : String) : String :=
  "Click the link below to confirm your email address:\n\n" ++ verificationUrl ++
    "\n\nThis link expires in 24 hours."

def sendVerificationEmail (toEmail verificationUrl : String) : AppResult Unit :=
  sendEmail toEmail "Confirm your email address" (verificationText verificationUrl)

def resetText (resetUrl : String) : String :=
  "Click the link below to reset your password:\n\n" ++ resetUrl ++
    "\n\nThis link expires in 1 hour. If you did not request a reset, ignore this email."

def sendPasswordResetEmail (toEmail resetUrl : String) : AppResult Unit :=
  sendEmail toEmail "Reset your password" (resetText resetUrl)

/-- The links in the mails lead to the pages of the public site. -/
def verificationLink (state : AppState) (token : String) : String :=
  state.settings.http.publicUrl ++ "/verify-email?token=" ++ token

def resetLink (state : AppState) (token : String) : String :=
  state.settings.http.publicUrl ++ "/reset-password?token=" ++ token

/-! ### As programs of the server -/

@[simp] theorem run_validated (errs : ValidationErrors) :
    (validated (m := Server) errs).run =
      .done (if errs.isEmpty then .ok () else .error (.err (.fromValidationErrors errs))) :=
  validated_run errs

@[simp] theorem run_fromNow (duration : Option TDuration) :
    (fromNow (m := Server) duration).run = .call .nowUtc fun (now : OffsetDateTime) =>
      .done (deadline now duration) := by
  rw [fromNow_run]
  rfl

@[simp] theorem run_sendEmail (toEmail subject body : String) :
    (sendEmail toEmail subject body).run =
      .call (.sendMail toEmail subject body) fun _ => .done (.ok ()) := rfl

end GenericAuth
