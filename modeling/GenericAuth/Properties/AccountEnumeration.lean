import GenericAuth.Api.Recovery
import GenericAuth.Auth.Reference

/-! Whether a client can tell that an account exists. Two stores that differ in
one user give the same answers to a recovery request. A login with a password of
somebody else tells them apart when the user has no password, or a hash that does
not parse. -/
namespace GenericAuth

open Interaction Relational

section Enumeration

variable [External] {state : AppState} {draws : Stream' Draw} {db db' : Db} {row : UserRow}
    {email p : String}

/-- Status and body of the answer. After a panic there is none. -/
def responseTo : Outcome → Option (Except ErrorResponse Payload)
  | .ok payload => some (.ok payload)
  | .error (.err e) => some (.error e.intoResponse)
  | .error (.panic _) => none

/-- The second store has one more user, who has a role as every user has. -/
structure OneMore (db db' : Db) (row : UserRow) : Prop where
  rows : db'.users.rows.Perm (row :: db.users.rows)
  same : db' = { db with users := db'.users }
  role : (db.roles.any fun role => role.id == row.roleId) = true

/-- Nobody else can have the address of the additional user. -/
theorem OneMore.free (more : OneMore db db' row) (hEmail : sameEmail row.email (some email) = true) :
    db.findByEmail email = none := by
  have distinct : (row :: db.users.rows).Pairwise fun first second => first.clash second = false := by
    refine (List.Perm.pairwise_iff ?_ more.rows).mp db'.users.distinct
    intro first second h
    rwa [UserRow.clash_comm]
  have hFind : (db.users.find fun other => sameEmail other.email (some email)) = none := by
    apply List.find?_eq_none.mpr
    intro other hMem hOther
    have hClash := (List.pairwise_cons.mp distinct).1 other hMem
    cases h : row.email <;> cases h' : other.email <;> simp_all [UserRow.clash, sameEmail]
  rw [Db.findByEmail, hFind]
  rfl

theorem OneMore.found (more : OneMore db db' row) (hEmail : sameEmail row.email (some email) = true) :
    ∃ found, db'.findByEmail email = some found ∧ found.passwordHash = row.passwordHash := by
  have hRole : (db'.roles.any fun role => role.id == row.roleId) = true := by
    rw [more.same]
    exact more.role
  have hMem : row ∈ db'.users.rows := more.rows.mem_iff.mpr List.mem_cons_self
  obtain ⟨found, hFound, _, hHash, _⟩ := findByEmail_some hRole hMem hEmail
  exact ⟨found, hFound, hHash⟩

/-! ### Logins -/

def loginResponse (state : AppState) (db : Db) (body : LoginReq) (draws : Stream' Draw) :
    Option (Except ErrorResponse Payload) :=
  responseTo (outcomeOf (handle state (.login body)) draws db)

theorem login_fault {e : SqlxError} (h : draws.head.fault = some e) (body : LoginReq) :
    loginResponse state db body draws =
      some (.error (AppError.ofDbError (.sqlx e)).intoResponse) := by
  simp [loginResponse, outcomeOf, handle, login, ExceptT.run_bind, answer_of_fault h, responseTo]

theorem login_free (h : draws.head.fault = none) (hFree : db.findByEmail email = none) :
    loginResponse state db ⟨email, p⟩ draws =
      some (.error (AppError.auth "Invalid email or password").intoResponse) := by
  simp [loginResponse, outcomeOf, handle, login, ExceptT.run_bind, answer_sql h, Db.exec, hFree,
    responseTo]

/-- The answer to a password that is not the user's. -/
def rejection (p : String) (passwordHash : Option String) : AppError :=
  match passwordHash with
  | none => .auth "password login disabled"
  | some phc =>
      match External.argon2Verify p phc with
      | .ok _ => .auth "Invalid email or password"
      | .error e => .auth ("parse hash: " ++ e)

theorem login_found {found : UserSecretRecord} (h : draws.head.fault = none)
    (hFound : db.findByEmail email = some found)
    (wrong : ∀ phc, found.passwordHash = some phc → External.argon2Verify p phc ≠ .ok true) :
    loginResponse state db ⟨email, p⟩ draws =
      some (.error (rejection p found.passwordHash).intoResponse) := by
  simp [loginResponse, outcomeOf, handle, login, ExceptT.run_bind, answer_sql h, Db.exec, hFound]
  cases hHash : found.passwordHash with
  | none => simp [UserSecretRecord.toUserWithSecret, hHash, rejection, responseTo]
  | some phc =>
      simp [UserSecretRecord.toUserWithSecret, hHash, rejection, ExceptT.run_bind]
      cases hVerify : External.argon2Verify p phc with
      | error e => simp [responseTo]
      | ok verified =>
          cases verified with
          | true => exact absurd hVerify (wrong phc hHash)
          | false => simp [responseTo]

/-- The user has a password hash, and it parses. -/
def Checkable (p : String) (row : UserRow) : Prop :=
  ∃ phc verified, row.passwordHash = some phc ∧ External.argon2Verify p phc = .ok verified

theorem rejection_iff :
    (AppError.auth "Invalid email or password").intoResponse =
      (rejection p row.passwordHash).intoResponse ↔ Checkable p row := by
  cases hHash : row.passwordHash with
  | none => simp [Checkable, hHash, rejection, AppError.intoResponse]
  | some phc =>
      cases hVerify : External.argon2Verify p phc with
      | ok verified => simp [Checkable, hHash, rejection, hVerify]
      | error e =>
          simp [Checkable, hHash, rejection, hVerify, AppError.intoResponse]
          intro hText
          have hLetter := congrArg (fun text => text.toList[6]?) hText
          simp at hLetter

/-! ### Recovery requests -/

def forgotResponse (state : AppState) (db : Db) (body : ForgotPasswordReq) (draws : Stream' Draw) :
    Option (Except ErrorResponse Payload) :=
  responseTo (outcomeOf (handle state (.forgotPassword body)) draws db)

theorem forgot_fault {e : SqlxError} (h : draws.head.fault = some e) (body : ForgotPasswordReq) :
    forgotResponse state db body draws = some (.ok .empty) := by
  simp [forgotResponse, outcomeOf, handle, forgotPassword, requestPasswordReset, passwordResetPort,
    ExceptT.run_bind, answer_of_fault h, responseTo]

theorem forgot_free (h : draws.head.fault = none) (hFree : db.findByEmail email = none) :
    forgotResponse state db ⟨email⟩ draws = some (.ok .empty) := by
  simp [forgotResponse, outcomeOf, handle, forgotPassword, requestPasswordReset, passwordResetPort,
    ExceptT.run_bind, answer_sql h, Db.exec, hFree, responseTo]

theorem forgot_found {found : UserSecretRecord} (h : draws.head.fault = none)
    (hFound : db.findByEmail email = some found) :
    forgotResponse state db ⟨email⟩ draws =
      if found.passwordHash.isSome ∧ LinkOverflows (draws.get 3) then none else some (.ok .empty) := by
  simp [forgotResponse, outcomeOf, handle, forgotPassword, requestPasswordReset, passwordResetPort,
    ExceptT.run_bind, answer_sql h, Db.exec, hFound, UserSecretRecord.toUserWithSecret]
  cases hHash : found.passwordHash with
  | none => simp [responseTo]
  | some phc =>
      cases hDeadline : deadline (draws.get 3).now (TDuration.hours 1) with
      | error stop =>
          obtain ⟨message, rfl⟩ := deadline_panics hDeadline
          simp [LinkOverflows, hDeadline, Except.toOption, responseTo]
      | ok instant =>
          simp [LinkOverflows, hDeadline, Except.toOption]
          rcases answer (draws.get 4) db (.sql (.storePasswordResetToken found.toUser.id
              (sha256Hex (hexEncode (draws.get 1).uuid ++ hexEncode (draws.get 2).uuid)) instant)) with
            ⟨error | rows, db'⟩ <;> simp [responseTo, sendPasswordResetEmail]

/-- For two stores that differ in one user, and a password that is not the user's:
the answers to a login agree exactly if the lookup fails or the user has a hash
that parses. The answers to a recovery request agree as long as there is one. -/
theorem account_hidden_iff (more : OneMore db db' row)
    (hEmail : sameEmail row.email (some email) = true)
    (wrong : ∀ phc, row.passwordHash = some phc → External.argon2Verify p phc ≠ .ok true) :
    (loginResponse state db ⟨email, p⟩ draws = loginResponse state db' ⟨email, p⟩ draws ↔
      (draws.get 0).fault.isSome ∨ Checkable p row) ∧
    (forgotResponse state db ⟨email⟩ draws = forgotResponse state db' ⟨email⟩ draws ↔
      ¬((draws.get 0).fault = none ∧ row.passwordHash.isSome ∧ LinkOverflows (draws.get 3))) := by
  have hFree := more.free hEmail
  obtain ⟨found, hFound, hHash⟩ := more.found hEmail
  cases hFault : draws.head.fault with
  | some e =>
      rw [login_fault hFault, login_fault hFault, forgot_fault hFault, forgot_fault hFault]
      simp
  | none =>
      rw [login_free hFault hFree, login_found hFault hFound (by rwa [hHash]), hHash,
        forgot_free hFault hFree, forgot_found hFault hFound, hHash]
      refine ⟨?_, ?_⟩
      · simp [← rejection_iff]
      · split
        next overflows => simp [overflows]
        next fits => simpa using fits

end Enumeration

/-! ### Stores of the reference instance -/

section Runs

attribute [local instance] reference

/-- A user, as registration or the identity provider create it. -/
def userOf (passwordHash : Option String) : UserRow :=
  { id := 7, email := some "user@example.org", displayName := none, isActive := true,
    emailVerified := true, createdAt := (moment 0).now, updatedAt := (moment 0).now,
    passwordHash, roleId := 3 }

def onlyUser (row : UserRow) : Db :=
  { (migrated : Db) with users := ⟨[row], List.pairwise_singleton _ _⟩ }

theorem onlyUser_more (passwordHash : Option String) :
    OneMore migrated (onlyUser (userOf passwordHash)) (userOf passwordHash) :=
  ⟨.refl _, rfl, rfl⟩

/-- Without a password the account is told apart from no account. -/
theorem account_revealed : ∃ (db db' : Db) (row : UserRow) (email p : String) (draws : Stream' Draw),
    OneMore db db' row ∧ row.email = some email ∧
    (∀ phc, row.passwordHash = some phc → External.argon2Verify p phc ≠ .ok true) ∧
    (∀ n, (draws.get n).fault = none) ∧
    loginResponse exampleState db ⟨email, p⟩ draws ≠
      loginResponse exampleState db' ⟨email, p⟩ draws :=
  ⟨migrated, onlyUser (userOf none), userOf none, "user@example.org", "password", moments 20,
    onlyUser_more none, rfl, fun phc => nofun, fun _ => rfl, by decide +kernel⟩

/-- With a password it is not. -/
theorem account_hidden_with_password :
    loginResponse exampleState migrated ⟨"user@example.org", "guess"⟩ (moments 20) =
      loginResponse exampleState (onlyUser (userOf (some "salt$password")))
        ⟨"user@example.org", "guess"⟩ (moments 20) := by
  have wrong : ∀ phc, (userOf (some "salt$password")).passwordHash = some phc →
      External.argon2Verify "guess" phc ≠ .ok true := by
    rintro phc ⟨⟩
    decide +kernel
  refine (account_hidden_iff (onlyUser_more (some "salt$password")) rfl wrong).1.mpr (.inr ?_)
  exact ⟨"salt$password", false, rfl, by decide +kernel⟩

end Runs

end GenericAuth
