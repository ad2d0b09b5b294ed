import GenericAuth.Api.Protocol

/-! Where a request takes the values of its writes from: the role and the
password of an account, the owner of a token. Like the protocol, this mentions
only what the client of the request has seen. -/
namespace GenericAuth

open Interaction

variable [External]

/-- What chose the values that an operation writes. -/
def Chosen (state : AppState) (request : Request) (calls : Calls) : Op → Prop
  | .sql (.insertUser _ passwordHash _ roleId _) =>
      match request with
      | .register body => Saw calls (.roleIdFor Role.user.asStr) (some roleId) ∧ ∃ salt phc,
          External.argon2Hash body.password salt = .ok phc ∧ passwordHash = some phc
      | .createAdmin args => Saw calls (.roleIdFor Role.admin.asStr) (some roleId) ∧ ∃ salt phc,
          External.argon2Hash args.password salt = .ok phc ∧ passwordHash = some phc
      | .googleCallback _ => Saw calls (.roleIdFor Role.user.asStr) (some roleId) ∧
          passwordHash = none
      | _ => False
  | .sql (.updateRole roleId _) =>
      match request with
      | .setRole _ _ body => Saw calls (.roleIdFor body.role.asStr) (some roleId)
      | _ => False
  | .sql (.updatePasswordHash phc _) =>
      match request with
      | .resetPassword body => ∃ salt, External.argon2Hash body.newPassword salt = .ok phc
      | _ => False
  | .sql (.revokeRefreshToken tokenHash) =>
      match request with
      | .refresh body => tokenHash = hashRefreshToken body.refreshToken
      | .logout body => tokenHash = hashRefreshToken body.refreshToken
      | _ => False
  | .sql (.storeEmailVerificationToken userId _ _) =>
      match request with
      | .register body => ∃ (found : UserSecretRecord), found.id = userId ∧
          Saw calls (.findByEmail body.email) (some found) ∧
          ∃ passwordHash displayName roleId emailVerified columns,
            Saw calls (.insertUser (some body.email) passwordHash displayName roleId emailVerified)
              columns
      | .resendVerification authorization => Bearer state calls authorization userId
      | _ => False
  | .sql (.storePasswordResetToken userId _ _) =>
      match request with
      | .forgotPassword body => ∃ (found : UserSecretRecord), found.id = userId ∧
          Saw calls (.findByEmail body.email) (some found) ∧ found.passwordHash.isSome
      | _ => False
  | _ => True

/-! ### The parts of a request -/

variable {state : AppState} {request : Request} {past calls : Calls} {userId : Uuid}
    {outcome : Outcome}

/-- Opening a session writes nothing that needs a choice. -/
theorem IssueCourse.chosen {role : Role} {userAgent : Option String}
    {result : Except Stop TokenPair}
    (course : IssueCourse state userId role userAgent calls result) :
    Asks (Chosen state request) past calls := by
  cases course <;> simp [Chosen]

theorem CreateCourse.chosen {new : NewUser} {result : Except DbError User}
    (course : CreateCourse new calls result)
    (chosen : ∀ roleId, Chosen state request
      (past ++ [⟨.sql (.roleIdFor new.role.asStr), .ok (some roleId)⟩])
      (.sql (.insertUser new.email new.passwordHash new.displayName roleId new.emailVerified))) :
    Asks (Chosen state request) past calls := by
  cases course with
  | roleFailed | roleMissing => simp [Chosen]
  | failed roleId | created roleId => exact ⟨trivial, chosen roleId, trivial⟩

theorem AccountCourse.chosen {errs : ValidationErrors} {password : String}
    {new : String → NewUser} {result : Except Stop User}
    (course : AccountCourse errs password new calls result)
    (chosen : ∀ salt phc roleId, External.argon2Hash password salt = .ok phc →
      Chosen state request
        [⟨.saltGenerate, salt⟩, ⟨.sql (.roleIdFor (new phc).role.asStr), .ok (some roleId)⟩]
        (.sql (.insertUser (new phc).email (new phc).passwordHash (new phc).displayName roleId
          (new phc).emailVerified))) :
    Asks (Chosen state request) [] calls := by
  cases course with
  | invalid | unhashed => simp [Chosen]
  | failed valid hashed create | created valid hashed create =>
      exact ⟨trivial, create.chosen fun roleId => chosen _ _ roleId hashed⟩

theorem EnrolCourse.chosen {body : RegisterReq} {result : Except Stop TokenPair}
    (course : EnrolCourse state body calls result) :
    Asks (Chosen state (.register body)) [] calls := by
  have chosen (salt phc : String) (roleId : Nat)
      (hashed : External.argon2Hash body.password salt = .ok phc) :
      Chosen state (.register body)
        [⟨.saltGenerate, salt⟩, ⟨.sql (.roleIdFor Role.user.asStr), .ok (some roleId)⟩]
        (.sql (.insertUser (some body.email) (some phc) body.displayName roleId false)) :=
    ⟨by simp [Saw], salt, phc, hashed, rfl⟩
  cases course with
  | refused account => exact account.chosen chosen
  | created account issue =>
      exact (asks_append ..).mpr ⟨account.chosen chosen, issue.chosen⟩

/-- A pair is returned after the account was created with the address of the request. -/
theorem EnrolCourse.saw {body : RegisterReq} {pair : TokenPair}
    (course : EnrolCourse state body calls (.ok pair)) :
    ∃ phc roleId columns,
      Saw calls (.insertUser (some body.email) (some phc) body.displayName roleId false)
        columns := by
  cases course with
  | created account issue =>
      cases account with
      | @created valid salt phc hashed more user create =>
          cases create with
          | created roleId columns => exact ⟨phc, roleId, columns, by simp [Saw]⟩

/-- The mail goes to the user of the past whom the request designates. -/
theorem MailCourse.chosen {email : String} {result : Except Stop (Except Unit Unit)}
    (course : MailCourse state userId email calls result)
    (chosen : ∀ more tokenHash expiresAt, Chosen state request (past ++ more)
      (.sql (.storeEmailVerificationToken userId tokenHash expiresAt))) :
    Asks (Chosen state request) past calls := by
  cases course with
  | outOfRange => simp [Chosen]
  | notStored =>
      refine ⟨trivial, trivial, trivial, ?_, trivial⟩
      simpa using chosen [_, _, _] _ _
  | sent =>
      refine ⟨trivial, trivial, trivial, ?_, trivial, trivial⟩
      simpa using chosen [_, _, _] _ _

theorem ResetLinkCourse.chosen {body : ForgotPasswordReq} {resetTtlHours : Int64}
    {result : Except Stop (Option String)}
    (course : ResetLinkCourse body.email resetTtlHours calls result) :
    Asks (Chosen state (.forgotPassword body)) [] calls := by
  cases course with
  | failed | unknown | passwordless | outOfRange => simp [Chosen]
  | @notStored found phc hHash | @stored found phc hHash =>
      simp [Chosen]
      exact ⟨found, rfl, by simp [Saw], by simp [hHash]⟩

/-! ### The requests -/

theorem RegistrationCourse.chosen {body : RegisterReq}
    (course : RegistrationCourse state body calls outcome) :
    Asks (Chosen state (.register body)) [] calls := by
  cases course with
  | refused enrol => exact enrol.chosen
  | notFound enrol | unknown enrol => simp [enrol.chosen, Chosen]
  | mailed enrol found mail =>
      obtain ⟨phc, roleId, columns, saw⟩ := enrol.saw
      refine (asks_append ..).mpr ⟨enrol.chosen, by simp [Chosen], mail.chosen ?_⟩
      intro more tokenHash expiresAt
      refine ⟨found, rfl, by simp [Saw], some phc, body.displayName, roleId, false, columns, ?_⟩
      rw [Saw] at saw ⊢
      simp [saw]

theorem ResendCourse.chosen {authorization : Option String}
    (course : ResendCourse state authorization calls outcome) :
    Asks (Chosen state (.resendVerification authorization)) [] calls := by
  cases course with
  | refused auth => cases auth <;> simp [Chosen]
  | @mailed now _ presents _ _ _ _ _ _ mail =>
      exact ⟨trivial, trivial, mail.chosen fun more _ _ => ⟨now, by simp, presents⟩⟩
  | _ => simp [Chosen]

theorem ResetPasswordCourse.chosen {body : ResetPasswordReq}
    (course : ResetPasswordCourse body calls outcome) :
    Asks (Chosen state (.resetPassword body)) [] calls := by
  cases course with
  | invalid | failed | unknown | unhashed => simp [Chosen]
  | notUpdated valid userId hashed | notRevoked valid userId hashed
  | reset valid userId hashed =>
      simp [Chosen]
      exact ⟨_, hashed⟩

theorem GoogleCallbackCourse.chosen {q : OAuthCallbackQuery}
    (course : GoogleCallbackCourse state q calls outcome) :
    Asks (Chosen state (.googleCallback q)) [] calls := by
  have upserts {profile : GoogleProfile} {more : Calls} {result : Except Stop User}
      (upsert : UpsertCourse profile more result) :
      Asks (Chosen state (.googleCallback q)) [⟨.exchangeCode q.code, .ok profile⟩] more := by
    have chosen (past : Calls) (roleId : Nat) : Chosen state (.googleCallback q)
        (past ++ [⟨.sql (.roleIdFor Role.user.asStr), .ok (some roleId)⟩])
        (.sql (.insertUser profile.email none profile.name roleId profile.email.isSome)) :=
      ⟨by simp [Saw], rfl⟩
    cases upsert with
    | failed | notRenewed | renewed => simp [Chosen]
    | notCreated create => exact ⟨trivial, create.chosen (chosen _)⟩
    | notBound create | bound create =>
        exact ⟨trivial, (asks_append ..).mpr ⟨create.chosen (chosen _), trivial, trivial⟩⟩
  cases course with
  | badUrl | notExchanged => simp [Chosen]
  | refused hUrl upsert => exact ⟨trivial, upserts upsert⟩
  | signedIn hUrl upsert issue =>
      exact (asks_append ..).mpr ⟨⟨trivial, upserts upsert⟩, issue.chosen⟩

theorem AdminCourse.chosen {authorization : Option String} {p : Permission}
    (course : AdminCourse state request authorization p calls outcome) :
    Asks (Chosen state request) [] calls := by
  cases course with
  | refused caller =>
      cases caller with
      | refused user =>
          cases user with
          | refused auth => cases auth <;> simp [Chosen]
          | _ => simp [Chosen]
      | failed | forbidden => simp [passing, Chosen]
  | passed passes work =>
      refine (asks_append ..).mpr ⟨by simp [passing, Chosen], ?_⟩
      cases work <;> simp [Chosen, Saw]

/-! ### All requests -/

theorem Course.chosen (course : Course state request calls outcome) :
    Asks (Chosen state request) [] calls := by
  cases request with
  | register body => exact RegistrationCourse.chosen course
  | login body =>
      cases course with
      | issued hHash hVerify hActive issue => exact ⟨trivial, issue.chosen⟩
      | _ => simp [Chosen]
  | refresh body =>
      cases course with
      | issued owner live found issue =>
          exact (asks_append ..).mpr ⟨by simp [Chosen], issue.chosen⟩
      | _ => simp [Chosen]
  | logout body | verifyEmail q | googleStart => cases course <;> simp [Chosen]
  | resendVerification authorization => exact ResendCourse.chosen course
  | forgotPassword body =>
      cases course with
      | silent link | panicked link | nothing link => exact link.chosen
      | mailed link => simp [link.chosen, Chosen]
  | resetPassword body => exact ResetPasswordCourse.chosen course
  | googleCallback q => exact GoogleCallbackCourse.chosen course
  | me authorization | myPermissions authorization =>
      cases course with
      | refused auth => cases auth <;> simp [Chosen]
      | _ => simp [Chosen]
  | listUsers | setRole | setActive | grantPermission => exact AdminCourse.chosen course
  | createAdmin args =>
      have chosen (salt phc : String) (roleId : Nat)
          (hashed : External.argon2Hash args.password salt = .ok phc) :
          Chosen state (.createAdmin args)
            [⟨.saltGenerate, salt⟩, ⟨.sql (.roleIdFor Role.admin.asStr), .ok (some roleId)⟩]
            (.sql (.insertUser (some args.email) (some phc) none roleId true)) :=
        ⟨by simp [Saw], salt, phc, hashed, rfl⟩
      cases course with
      | refused account | created account => exact account.chosen chosen

/-- Every request takes its values from there, whatever replies it gets. -/
theorem handle_chosen (state : AppState) (request : Request) :
    (handle state request).Obeys (Chosen state request) (fun _ _ => True) [] :=
  (handle_course state request).obeys fun _ _ course => ⟨course.chosen, trivial⟩

end GenericAuth
