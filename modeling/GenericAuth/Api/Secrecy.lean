import GenericAuth.Api.Protocol

/-! Where the secrets of a request come from, and where they go. Tokens are drawn at
random and stored as hashes only. A mail carries the link of a token that its
request has stored, and goes to the address of the token's user. -/
namespace GenericAuth

open Interaction

variable [External]

/-- The token consists of two random UUIDs that were drawn. -/
def DrawnToken (calls : Calls) (token : String) : Prop :=
  ∃ first second : Uuid, (⟨.newV4, first⟩ : Call Op Op.Reply) ∈ calls ∧
    (⟨.newV4, second⟩ : Call Op Op.Reply) ∈ calls ∧ token = hexEncode first ++ hexEncode second

/-- The user was found by this address, or with it. -/
def AddressOf (calls : Calls) (userId : Uuid) (toEmail : String) : Prop :=
  (∃ found : UserSecretRecord, Saw calls (.findByEmail toEmail) (some found) ∧ found.id = userId) ∨
  ∃ found : UserRecord, Saw calls (.findById userId) (some found) ∧ found.email = some toEmail

/-- What has happened before a mail with this addressee, subject and text. -/
inductive Mailed (state : AppState) (calls : Calls) : String → String → String → Prop where
  | verification {token toEmail : String} {userId : Uuid} (expiresAt : OffsetDateTime)
      (drawn : DrawnToken calls token)
      (stored : Saw calls (.storeEmailVerificationToken userId (sha256Hex token) expiresAt) ())
      (address : AddressOf calls userId toEmail) :
      Mailed state calls toEmail "Confirm your email address"
        (verificationText (verificationLink state token))
  | reset {token toEmail : String} {userId : Uuid} (expiresAt : OffsetDateTime)
      (drawn : DrawnToken calls token)
      (stored : Saw calls (.storePasswordResetToken userId (sha256Hex token) expiresAt) ())
      (address : AddressOf calls userId toEmail) :
      Mailed state calls toEmail "Reset your password" (resetText (resetLink state token))

/-- What precedes the operations that handle a secret. -/
def Discreet (state : AppState) (calls : Calls) : Op → Prop
  | .sql (.storeRefreshToken _ tokenHash _ _) => ∃ bytes : BitVec 256,
      (⟨.randomBytes, bytes⟩ : Call Op Op.Reply) ∈ calls ∧
      tokenHash = hashRefreshToken (hexEncode bytes)
  | .sql (.storeEmailVerificationToken _ tokenHash _)
  | .sql (.storePasswordResetToken _ tokenHash _) =>
      ∃ token, DrawnToken calls token ∧ tokenHash = sha256Hex token
  | .sendMail toEmail subject text => Mailed state calls toEmail subject text
  | _ => True

/-! ### The parts of a request -/

section Parts

variable {state : AppState} {past calls : Calls} {userId : Uuid}

omit [External] in
theorem AddressOf.mono {toEmail : String} (h : past ⊆ calls)
    (address : AddressOf past userId toEmail) : AddressOf calls userId toEmail := by
  rcases address with ⟨found, saw, hUser⟩ | ⟨found, saw, hEmail⟩
  · exact .inl ⟨found, h saw, hUser⟩
  · exact .inr ⟨found, h saw, hEmail⟩

theorem CreateCourse.discreet {new : NewUser} {result : Except DbError User}
    (course : CreateCourse new calls result) : Asks (Discreet state) past calls := by
  cases course <;> simp [Discreet]

theorem AccountCourse.discreet {errs : ValidationErrors} {password : String}
    {new : String → NewUser} {result : Except Stop User}
    (course : AccountCourse errs password new calls result) : Asks (Discreet state) [] calls := by
  cases course with
  | invalid | unhashed => simp [Discreet]
  | failed valid hashed create | created valid hashed create => exact ⟨trivial, create.discreet⟩

theorem IssueCourse.discreet {role : Role} {userAgent : Option String}
    {result : Except Stop TokenPair}
    (course : IssueCourse state userId role userAgent calls result) :
    Asks (Discreet state) past calls := by
  cases course <;> simp [Discreet]

theorem EnrolCourse.discreet {body : RegisterReq} {result : Except Stop TokenPair}
    (course : EnrolCourse state body calls result) : Asks (Discreet state) [] calls := by
  cases course with
  | refused account => exact account.discreet
  | created account issue => exact (asks_append ..).mpr ⟨account.discreet, issue.discreet⟩

/-- The mail follows the statement that stores its token. -/
theorem MailCourse.discreet {email : String} {result : Except Stop (Except Unit Unit)}
    (course : MailCourse state userId email calls result) (address : AddressOf past userId email) :
    Asks (Discreet state) past calls := by
  have drawn {first second : Uuid} {calls : Calls}
      (h : [⟨.newV4, first⟩, ⟨.newV4, second⟩] ⊆ calls) :
      DrawnToken calls (hexEncode first ++ hexEncode second) :=
    ⟨first, second, h (by simp), h (by simp), rfl⟩
  cases course with
  | outOfRange => simp [Discreet]
  | notStored => exact ⟨trivial, trivial, trivial, ⟨_, drawn (by simp), rfl⟩, trivial⟩
  | sent first second now expiresAt =>
      refine ⟨trivial, trivial, trivial, ⟨_, drawn (by simp), rfl⟩,
        .verification expiresAt (drawn ?_) ?_ (address.mono ?_), trivial⟩ <;> simp [Saw]

theorem AuthUserCourse.discreet {authorization : Option String}
    {result : Except AppError AuthUser}
    (course : AuthUserCourse state authorization calls result) :
    Asks (Discreet state) [] calls := by
  cases course <;> simp [Discreet]

theorem ResetLinkCourse.discreet {email : String} {resetTtlHours : Int64}
    {result : Except Stop (Option String)}
    (course : ResetLinkCourse email resetTtlHours calls result) :
    Asks (Discreet state) [] calls := by
  cases course with
  | failed | unknown | passwordless | outOfRange => simp [Discreet]
  | notStored hHash first second | stored hHash first second =>
      exact ⟨trivial, trivial, trivial, trivial, ⟨_, ⟨first, second, by simp, by simp, rfl⟩, rfl⟩,
        trivial⟩

theorem UpsertCourse.discreet {profile : GoogleProfile} {result : Except Stop User}
    (course : UpsertCourse profile calls result) : Asks (Discreet state) past calls := by
  cases course with
  | failed | notRenewed | renewed => simp [Discreet]
  | notCreated create => exact ⟨trivial, create.discreet⟩
  | notBound create | bound create =>
      exact ⟨trivial, (asks_append ..).mpr ⟨create.discreet, trivial, trivial⟩⟩

end Parts

/-! ### The requests -/

section Requests

variable {state : AppState} {calls : Calls} {outcome : Outcome}

theorem RegistrationCourse.discreet {body : RegisterReq}
    (course : RegistrationCourse state body calls outcome) : Asks (Discreet state) [] calls := by
  cases course with
  | refused enrol => exact enrol.discreet
  | notFound enrol | unknown enrol => simp [enrol.discreet, Discreet]
  | mailed enrol found mail =>
      exact (asks_append ..).mpr
        ⟨enrol.discreet, trivial, mail.discreet (.inl ⟨found, by simp [Saw], rfl⟩)⟩

theorem ResendCourse.discreet {authorization : Option String}
    (course : ResendCourse state authorization calls outcome) :
    Asks (Discreet state) [] calls := by
  cases course with
  | refused auth => exact auth.discreet
  | @mailed now sub presents found unconfirmed email hEmail more result mail =>
      exact ⟨trivial, trivial, mail.discreet (.inr ⟨found, by simp [Saw], hEmail⟩)⟩
  | _ => simp [Discreet]

/-- The token of the mail was stored for the user with that address. -/
theorem ForgotPasswordCourse.discreet {body : ForgotPasswordReq}
    (course : ForgotPasswordCourse state body calls outcome) :
    Asks (Discreet state) [] calls := by
  cases course with
  | silent link | panicked link | nothing link => exact link.discreet
  | mailed link =>
      refine (asks_append ..).mpr ⟨link.discreet, ?_, trivial⟩
      cases link with
      | @stored found phc hHash first second now expiresAt inTime =>
          refine .reset expiresAt ⟨first, second, ?_, ?_, rfl⟩ ?_ (.inl ⟨found, ?_, rfl⟩) <;>
            simp [Saw]

theorem AdminCourse.discreet {request : Request} {authorization : Option String} {p : Permission}
    (course : AdminCourse state request authorization p calls outcome) :
    Asks (Discreet state) [] calls := by
  cases course with
  | refused caller =>
      cases caller with
      | refused user =>
          cases user with
          | refused auth => exact auth.discreet
          | _ => simp [Discreet]
      | failed => simp [Discreet]
      | forbidden => simp [passing, Discreet]
  | passed passes work =>
      refine (asks_append ..).mpr ⟨by simp [passing, Discreet], ?_⟩
      cases work <;> simp [Discreet]

/-- Every course of a request handles its secrets so. -/
theorem Course.discreet {request : Request} (course : Course state request calls outcome) :
    Asks (Discreet state) [] calls := by
  cases request with
  | register body => exact RegistrationCourse.discreet course
  | login body =>
      cases course with
      | issued _ _ _ issue => exact ⟨trivial, issue.discreet⟩
      | _ => simp [Discreet]
  | refresh body =>
      cases course with
      | issued _ _ _ issue => exact (asks_append ..).mpr ⟨by simp [Discreet], issue.discreet⟩
      | _ => simp [Discreet]
  | logout | verifyEmail | resetPassword | googleStart => cases course <;> simp [Discreet]
  | resendVerification authorization => exact ResendCourse.discreet course
  | forgotPassword body => exact ForgotPasswordCourse.discreet course
  | googleCallback q =>
      cases course with
      | badUrl | notExchanged => simp [Discreet]
      | refused hUrl upsert => exact ⟨trivial, upsert.discreet⟩
      | signedIn hUrl upsert issue =>
          exact (asks_append ..).mpr ⟨⟨trivial, upsert.discreet⟩, issue.discreet⟩
  | me authorization | myPermissions authorization =>
      cases course with
      | refused auth => exact auth.discreet
      | _ => simp [Discreet]
  | listUsers | setRole | setActive | grantPermission => exact AdminCourse.discreet course
  | createAdmin args =>
      cases course with
      | refused account | created account => exact account.discreet

end Requests

/-- Every request handles its secrets so, whatever replies it gets. -/
theorem handle_discreet (state : AppState) (request : Request) :
    (handle state request).Obeys (Discreet state) (fun _ _ => True) [] :=
  (handle_course state request).obeys fun _ _ course => ⟨course.discreet, trivial⟩

end GenericAuth
