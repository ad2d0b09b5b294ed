import GenericAuth.Api.Errors
import GenericAuth.Properties.AccountFailure

/-! Accounts for an address that is taken. The unique constraint refuses the row,
and the refusal reaches the caller as an ordinary database error: nothing turns a
violated constraint into a conflict. -/
namespace GenericAuth

open Interaction Relational

section Conflicts

variable [External] {state : AppState} {request : Request} {pool : ServerPool} {db : Db}
    {draws : Stream' Draw} {email : Option String}

/-- A valid request to create an account with this address. -/
def CreatesWith (state : AppState) (db : Db) (draws : Stream' Draw) (email : Option String) :
    Request → Prop
  | .register body => body.validate = [] ∧ email = some body.email
  | .createAdmin args => args.validate = [] ∧ email = some args.email
  | .googleCallback _ => ∃ profile, (draws.get 0).profile = .ok profile ∧
      External.redirectUrl state.googleConfig.redirectUrl = .ok () ∧
      (∀ userId, ¬db.BoundTo "google" profile.sub userId) ∧ email = profile.email
  | _ => False

/-- The error is a conflict. -/
def Conflicting {Value : Type} (outcome : Except Stop Value) : Prop :=
  ∃ message, outcome = .error (.err (.conflict message))

/-- A taken address is reported as a conflict with the store unchanged, and no
other address is. -/
def ReportsConflict (state : AppState) (request : Request) (draws : Stream' Draw) (db : Db)
    (email : Option String) : Prop :=
  (db.Taken email → Conflicting (outcomeOf (handle state request) draws db) ∧
    storeAfter (handle state request) draws db = db) ∧
  (¬db.Taken email → ¬Conflicting (outcomeOf (handle state request) draws db))

/-! ### No error is a conflict -/

omit [External] in
theorem Plain.not_conflicting {Value : Type} {outcome : Except Stop Value} (plain : Plain outcome) :
    ¬Conflicting outcome :=
  fun ⟨_, h⟩ => plain _ h

/-- No request to create an account is answered with a conflict. -/
theorem creates_noConflict (creates : CreatesWith state db draws email request) :
    (handle state request).Obeys Unrestricted (fun _ outcome => ¬Conflicting outcome) [] := by
  have valid : request.setsAccount = true ∧ request.validate = [] := by
    cases request with
    | register body => exact ⟨rfl, creates.1⟩
    | createAdmin args => exact ⟨rfl, creates.1⟩
    | googleCallback q => exact ⟨rfl, rfl⟩
    | _ => exact creates.elim
  exact (handle_plain state valid.1 valid.2).imp fun _ _ plain => plain.not_conflicting

/-! ### What happens instead -/

/-- The unique constraint refuses a user whose address is taken. -/
theorem answer_insertUser_taken {draw : Draw} (h : draw.fault = none) (taken : db.Taken email)
    (passwordHash displayName : Option String) (roleId : Nat) (emailVerified : Bool) :
    ∃ constraint, answer draw db
        (.sql (.insertUser email passwordHash displayName roleId emailVerified)) =
      (.error (duplicateKey constraint), db) := by
  rw [answer_sql h]
  simp only [Db.exec, Db.insertUser]
  split
  · exact ⟨_, rfl⟩
  · next users inserted =>
      obtain ⟨row, hMem, hSame⟩ := taken
      have free := Table.free_of_insert inserted row hMem
      simp [UserRow.clash, hSame] at free

/-- Hashing a password does not fail. -/
def HashesAny (draws : Stream' Draw) : Prop :=
  ∀ n plain, ∃ phc, External.argon2Hash plain (draws.get n).salt = .ok phc

/-- A taken address is reported as a failure of the database. -/
theorem taken_database (creates : CreatesWith state db draws email request)
    (hRoles : ∀ role : Role, ∃ roleId, db.roleIdFor role.asStr = some roleId)
    (hFault : ∀ n, (draws.get n).fault = none) (hashes : HashesAny draws) (taken : db.Taken email) :
    (∃ message, outcomeOf (handle state request) draws db = .error (.err (.database message))) ∧
      storeAfter (handle state request) draws db = db := by
  cases request with
  | register body =>
      obtain ⟨valid, rfl⟩ := creates
      obtain ⟨phc, hHash⟩ := hashes 0 body.password
      obtain ⟨roleId, hRole⟩ := hRoles .user
      obtain ⟨constraint, hInsert⟩ := answer_insertUser_taken (hFault 2) taken (some phc)
        body.displayName roleId false
      simp [outcomeOf, storeAfter, handle, register, registerUser, AppState.registerPort,
        ExceptT.run_bind, valid, hHash, UserDb.run_createUser, answer_roleIdFor (hFault 1) hRole,
        hInsert]
      exact ⟨_, rfl⟩
  | createAdmin args =>
      obtain ⟨valid, rfl⟩ := creates
      obtain ⟨phc, hHash⟩ := hashes 0 args.password
      obtain ⟨roleId, hRole⟩ := hRoles .admin
      obtain ⟨constraint, hInsert⟩ := answer_insertUser_taken (hFault 2) taken (some phc)
        none roleId true
      simp [outcomeOf, storeAfter, handle, createAdminUser, createAdminPort,
        ExceptT.run_bind, valid, hHash, UserDb.run_createUser, answer_roleIdFor (hFault 1) hRole,
        hInsert]
      exact ⟨_, rfl⟩
  | googleCallback q =>
      obtain ⟨profile, hProfile, hUrl, unbound, rfl⟩ := creates
      have hFind := answer_findUserByOauth_none (hFault 1) unbound
      obtain ⟨roleId, hRole⟩ := hRoles .user
      obtain ⟨constraint, hInsert⟩ := answer_insertUser_taken (hFault 3) taken none profile.name
        roleId profile.email.isSome
      simp [outcomeOf, storeAfter, handle, googleCallback, upsertOauthUser, ExceptT.run_bind, hUrl,
        hProfile, hFind, UserDb.run_createUser, answer_roleIdFor (hFault 2) hRole, hInsert]
      exact ⟨_, rfl⟩
  | _ => exact creates.elim

/-- In every reachable store an account-creating call reports conflicts as it should
exactly if its address is free. Where the address is taken and nothing fails, it is
answered with a database error, which the client sees as an internal one. -/
theorem conflict_reported_iff (run : ServerRun state migrated pool)
    (creates : CreatesWith state pool.store draws email request) :
    (ReportsConflict state request draws pool.store email ↔ ¬pool.store.Taken email) ∧
    (pool.store.Taken email → (∀ n, (draws.get n).fault = none) → HashesAny draws →
      ∃ message, outcomeOf (handle state request) draws pool.store = .error (.err (.database message)) ∧
        (AppError.database message).intoResponse.status = 500 ∧
        storeAfter (handle state request) draws pool.store = pool.store) := by
  have never := obeys_alone (creates_noConflict creates) draws pool.store
  refine ⟨⟨fun reports taken => never (reports.1 taken).1,
    fun free => ⟨fun taken => absurd taken free, fun _ => never⟩⟩, fun taken hFault hashes => ?_⟩
  obtain ⟨⟨message, hOutcome⟩, same⟩ :=
    taken_database creates run.roleIdFor_some hFault hashes taken
  exact ⟨message, hOutcome, rfl, same⟩

end Conflicts

/-! ### Runs of the reference instance -/

section Runs

attribute [local instance] reference

/-- The first user's address, registered a second time. -/
def registerAgain : Request := .register ⟨"user@example.org", "password", none⟩

theorem registerAgain_creates (draws : Stream' Draw) :
    CreatesWith exampleState registered.store draws (some "user@example.org") registerAgain :=
  ⟨by decide +kernel, rfl⟩

theorem registered_taken : registered.store.Taken (some "user@example.org") := by
  have stored : (registered.store.users.rows.any fun row =>
      sameEmail row.email (some "user@example.org")) = true := by decide +kernel
  obtain ⟨row, hMem, hSame⟩ := List.any_eq_true.mp stored
  exact ⟨row, hMem, hSame⟩

/-- Registering a taken address is not answered with a conflict. -/
theorem conflict_not_reported : ∃ (pool : ServerPool) (request : Request) (draws : Stream' Draw)
      (email : Option String), ServerRun exampleState migrated pool ∧
    CreatesWith exampleState pool.store draws email request ∧ Smooth exampleState draws ∧
    pool.store.Taken email ∧
    outcomeOf (handle exampleState request) draws pool.store = .error (.err (.database
      ("sqlx: error returned from database: " ++
        "duplicate key value violates unique constraint \"users_email_key\""))) :=
  ⟨registered, registerAgain, moments 20, some "user@example.org", registered_run,
    registerAgain_creates _, moments_smooth 20 (by decide +kernel), registered_taken,
    by decide +kernel⟩

/-- The registration of a free address does what it should, and the second
registration of an address does not. -/
theorem conflict_reported_registering :
    ReportsConflict exampleState (.register newcomer) (moments 20) migrated (some newcomer.email) ∧
    ¬ReportsConflict exampleState registerAgain (moments 20) registered.store
      (some "user@example.org") := by
  have creates : CreatesWith exampleState migrated (moments 20) (some newcomer.email)
      (.register newcomer) := ⟨by decide +kernel, rfl⟩
  constructor
  · exact (conflict_reported_iff initial_run creates).1.mpr initial_free
  · rw [(conflict_reported_iff registered_run (registerAgain_creates _)).1]
    exact not_not_intro registered_taken

end Runs

end GenericAuth
