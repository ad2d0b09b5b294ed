import GenericAuth.Api.Errors
import GenericAuth.Api.Recovery
import GenericAuth.Api.Run
import GenericAuth.Auth.Reference

/-! The minimum length of passwords. Three validators ask for eight characters, and
none of them looks at the setting, so it is enforced where the two agree. -/
namespace GenericAuth

open Interaction Relational

/-- Where a password is set. -/
inductive EntryPoint where
  | register
  | resetPassword
  | createAdmin
  deriving DecidableEq, Repr

/-- An account is addressed by its e-mail, and a reset by its token. -/
def EntryPoint.request (addressee : String) (displayName : Option String) (password : String) :
    EntryPoint → Request
  | .register => .register ⟨addressee, password, displayName⟩
  | .resetPassword => .resetPassword ⟨addressee, password⟩
  | .createAdmin => .createAdmin ⟨addressee, password⟩

/-- The field of the body that holds the password. Its only rule is the length. -/
def EntryPoint.field : EntryPoint → String
  | .register | .createAdmin => "password"
  | .resetPassword => "new_password"

/-- The call has stored this hash for a user. -/
def StoresHash (phc : String) : Call Op Op.Reply → Prop
  | ⟨.sql (.insertUser _ passwordHash _ _ _), .ok _⟩ => passwordHash = some phc
  | ⟨.sql (.updatePasswordHash passwordHash _), .ok _⟩ => passwordHash = phc
  | _ => False

section Policy

variable [External] {state : AppState} {pool : ServerPool} {i : Nat} {entry : EntryPoint}
    {addressee password : String} {displayName : Option String}

def LengthRejected (field : String) (outcome : Outcome) : Prop :=
  ∃ message fields, outcome = .error (.err (.validationFields message fields)) ∧
    field ∈ fields.map Prod.fst

/-- The call has stored a hash of the password. -/
def StoresPassword (password : String) (call : Call Op Op.Reply) : Prop :=
  ∃ salt phc, External.argon2Hash password salt = .ok phc ∧ StoresHash phc call

/-- Client `i` of a run has stored a hash of the password only if that has `n`
characters, was not rejected if it has, and has made no step at all if it was. -/
structure PolicyKept (n : Nat) (entry : EntryPoint) (password : String) (pool : ServerPool) (i : Nat)
    (request : Request) : Prop where
  stored : ∀ call ∈ past answer pool.log i, StoresPassword password call → n ≤ password.length
  accepted : n ≤ password.length → ∀ outcome, pool.Returned i request outcome →
    ¬LengthRejected entry.field outcome
  rejected : ∀ outcome, pool.Returned i request outcome → LengthRejected entry.field outcome →
    ∀ event ∈ pool.log, event.client ≠ i

/-- An entry point keeps to the configured policy in every run. -/
def Enforced (state : AppState) (entry : EntryPoint) (password : String) : Prop :=
  ∀ pool, ServerRun state migrated pool → ∀ i addressee displayName program,
    pool.clients[i]? = some ⟨entry.request addressee displayName password, program⟩ →
    PolicyKept state.settings.auth.passwordMinLength entry password pool i
      (entry.request addressee displayName password)

/-! ### The validators -/

theorem field_invalid_iff (entry : EntryPoint) (addressee : String) (displayName : Option String)
    (password : String) : entry.field ∈ (entry.request addressee displayName
      password).validate.map Prod.fst ↔ password.length < 8 := by
  have hNames : "password" ≠ "email" := by decide
  cases entry <;> simp only [EntryPoint.request, EntryPoint.field, Request.validate,
    RegisterReq.validate, ResetPasswordReq.validate, CreateAdminArgs.validate, validateEmail,
    validateLength, List.map_append] <;> split_ifs <;> simp_all

theorem request_invalid (h : password.length < 8) :
    (entry.request addressee displayName password).validate ≠ [] := by
  intro hNil
  have hField := (field_invalid_iff entry addressee displayName password).mpr h
  rw [hNil] at hField
  cases hField

/-- A client with an invalid request has its answer at once, and never makes a step. -/
theorem ServerRun.invalid {start : Db} {request : Request} {program : Server Outcome}
    (run : ServerRun state start pool) (present : pool.clients[i]? = some ⟨request, program⟩)
    (h : request.validate ≠ []) :
    program = .done (.error (.err (.fromValidationErrors request.validate))) ∧
      ∀ event ∈ pool.log, event.client ≠ i := by
  have follows := run.follows present
  rw [handle_invalid state h] at follows
  generalize hEvents : (pool.log.filter fun event => event.client == i) = events at follows
  cases follows with
  | nil =>
      refine ⟨rfl, fun event hMem hClient => ?_⟩
      exact List.filter_eq_nil_iff.mp hEvents event hMem (beq_iff_eq.mpr hClient)

/-- The length is rejected when it is below eight, whatever the setting is. -/
theorem lengthRejected_iff {start : Db} (run : ServerRun state start pool) {outcome : Outcome}
    (returned : pool.Returned i (entry.request addressee displayName password) outcome) :
    LengthRejected entry.field outcome ↔ password.length < 8 := by
  have hField := field_invalid_iff entry addressee displayName password
  by_cases valid : (entry.request addressee displayName password).validate = []
  · have sets : (entry.request addressee displayName password).setsAccount = true := by
      cases entry <;> rfl
    have plain : Plain outcome :=
      (run.follows returned).obeys (handle_plain state sets valid)
    rw [valid] at hField
    constructor
    · rintro ⟨message, fields, hOutcome, _⟩
      exact (plain _ hOutcome).elim
    · intro h
      cases hField.mpr h
  · obtain ⟨hProgram, _⟩ := run.invalid returned valid
    obtain rfl := Program.done.inj hProgram
    rw [← hField]
    constructor
    · rintro ⟨message, fields, hOutcome, hMem⟩
      cases hOutcome
      simpa using hMem
    · intro hMem
      exact ⟨_, _, rfl, by simpa using hMem⟩

/-! ### What is enforced -/

/-- Eight characters are asked for. -/
theorem policyKept_of_iff {n : Nat} {start : Db} (run : ServerRun state start pool)
    {program : Server Outcome}
    (present : pool.clients[i]? = some ⟨entry.request addressee displayName password, program⟩)
    (h : n ≤ password.length ↔ 8 ≤ password.length) :
    PolicyKept n entry password pool i (entry.request addressee displayName password) where
  stored call hMem _ := by
    apply h.mpr
    by_contra hShort
    obtain ⟨event, hEvent, hClient, _⟩ := mem_past.mp hMem
    exact (run.invalid present (request_invalid (by omega))).2 event hEvent hClient
  accepted hLong outcome returned rejected := by
    have hShort := (lengthRejected_iff run returned).mp rejected
    omega
  rejected outcome returned rejected :=
    (run.invalid returned (request_invalid ((lengthRejected_iff run returned).mp rejected))).2

/-! ### Requests that go through -/

/-- The clock stands still, nothing fails, and one salt is drawn over and over. -/
def calmDraw (salt : String) : Draw :=
  { now := 0, dbNow := 0, uuid := 0#128, bytes := 0#256, salt, fault := none, profile := .error "",
    tieBreak := fun _ => 0 }

def calm (salt : String) : Stream' Draw := fun _ => calmDraw salt

omit [External] in
@[simp] theorem calm_head (salt : String) : (calm salt).head = calmDraw salt := rfl

omit [External] in
@[simp] theorem calm_tail (salt : String) : (calm salt).tail = calm salt := rfl

variable {email salt phc : String}

/-- The row of an account that is created then. -/
def calmRow (email : String) (passwordHash displayName : Option String) (roleId : Nat)
    (emailVerified : Bool) : UserRow :=
  { id := 0#128, email := some email, displayName, isActive := true, emailVerified, createdAt := 0,
    updatedAt := 0, passwordHash, roleId }

/-- The first account is stored. -/
theorem insertUser_calm (salt email : String) (passwordHash displayName : Option String) (role : Role)
    (emailVerified : Bool) : ∃ roleId users,
      answer (calmDraw salt) migrated (.sql (.roleIdFor role.asStr)) = (.ok (some roleId), migrated) ∧
      answer (calmDraw salt) migrated
        (.sql (.insertUser (some email) passwordHash displayName roleId emailVerified)) =
          (.ok (calmRow email passwordHash displayName roleId emailVerified).toUserColumns,
            { migrated with users }) ∧
      users.rows = [calmRow email passwordHash displayName roleId emailVerified] ∧
      ∃ roleName, ({ migrated with users } : Db).record
        (calmRow email passwordHash displayName roleId emailVerified) = some
          ⟨(calmRow email passwordHash displayName roleId emailVerified).toUserColumns, roleName⟩ := by
  obtain ⟨roleId, hRole, hAny, hFind⟩ : ∃ roleId, migrated.roleIdFor role.asStr = some roleId ∧
      (migrated.roles.any fun role => role.id == roleId) = true ∧
      ∃ roleName, (migrated.roles.find? fun role => role.id == roleId) = some roleName := by
    cases role <;> exact ⟨_, rfl, rfl, _, rfl⟩
  obtain ⟨roleRow, hFind⟩ := hFind
  have free : ∀ stored ∈ migrated.users.rows,
      stored.clash (calmRow email passwordHash displayName roleId emailVerified) = false := nofun
  obtain ⟨users, inserted⟩ := Table.insert_of_free free
  refine ⟨roleId, users, ?_, ?_, Table.insert_rows inserted, roleRow.name, ?_⟩
  · rw [answer_sql rfl, Db.exec, hRole]
  · rw [calmRow] at inserted
    rw [answer_sql rfl]
    simp [Db.exec, Db.insertUser, calmDraw, inserted, hAny, calmRow]
  · simp [Db.record, calmRow, hFind]

theorem register_stores (state : AppState) (hEmail : External.validateEmail email = true)
    (hLong : 8 ≤ password.length) (hHash : External.argon2Hash password salt = .ok phc) :
    ∃ call ∈ callsOf (handle state (.register ⟨email, password, none⟩)) (calm salt) migrated,
      StoresHash phc call := by
  have valid : RegisterReq.validate ⟨email, password, none⟩ = [] := by
    simp [RegisterReq.validate, validateEmail, validateLength, hEmail, hLong]
  obtain ⟨roleId, users, hRole, hInsert, _⟩ := insertUser_calm salt email (some phc) none .user false
  have hSalt : (calmDraw salt).salt = salt := rfl
  simp [callsOf, handle, register, registerUser, AppState.registerPort, ExceptT.run_bind, valid,
    hSalt, hHash, UserDb.run_createUser, Program.trace, hRole, hInsert]
  exact .inr (.inr (.inl rfl))

theorem createAdmin_stores (state : AppState) (hEmail : External.validateEmail email = true)
    (hLong : 8 ≤ password.length) (hHash : External.argon2Hash password salt = .ok phc) :
    (∃ call ∈ callsOf (handle state (.createAdmin ⟨email, password⟩)) (calm salt) migrated,
      StoresHash phc call) ∧
    ∃ (users : Table UserRow.clash) (row : UserRow) (roleName : String),
      storeAfter (handle state (.createAdmin ⟨email, password⟩)) (calm salt) migrated =
        { migrated with users } ∧
      users.rows = [row] ∧ row.email = some email ∧ row.passwordHash = some phc ∧
      ({ migrated with users } : Db).record row = some ⟨row.toUserColumns, roleName⟩ := by
  have valid : CreateAdminArgs.validate ⟨email, password⟩ = [] := by
    simp [CreateAdminArgs.validate, validateEmail, validateLength, hEmail, hLong]
  obtain ⟨roleId, users, hRole, hInsert, hRows, roleName, hRecord⟩ :=
    insertUser_calm salt email (some phc) none .admin true
  have hSalt : (calmDraw salt).salt = salt := rfl
  constructor
  · simp [callsOf, handle, createAdminUser, createAdminPort, ExceptT.run_bind, valid,
      hSalt, hHash, UserDb.run_createUser, Program.trace, hRole, hInsert]
    exact .inr (.inr rfl)
  · refine ⟨users, _, roleName, ?_, hRows, rfl, rfl, hRecord⟩
    simp [storeAfter, handle, createAdminUser, createAdminPort, ExceptT.run_bind, valid,
      hSalt, hHash, UserDb.run_createUser, hRole, hInsert]

/-- The first user gets a link. -/
theorem forgot_calm (state : AppState) (salt : String) {db : Db} {row : UserRow}
    {roleName : String} (hRows : db.users.rows = [row])
    (hEmail : row.email = some email) (hHash : row.passwordHash = some phc)
    (hRecord : db.record row = some ⟨row.toUserColumns, roleName⟩)
    (hTokens : db.passwordResetTokens.rows = []) :
    ∃ token, (storeAfter (handle state (.forgotPassword ⟨email⟩)) (calm salt) db).Consumable
      (calmDraw salt) (sha256Hex token) := by
  have hFind : db.findByEmail email = some ⟨⟨row.toUserColumns, roleName⟩, some phc⟩ := by
    simp [Db.findByEmail, Table.find, hRows, hEmail, sameEmail, hRecord, hHash]
  have hUser : db.hasUser row.id = true := by simp [Db.hasUser, hRows]
  let token := hexEncode (calmDraw salt).uuid ++ hexEncode (calmDraw salt).uuid
  let link : OneTimeTokenRow :=
    { id := (calmDraw salt).uuid, userId := row.id, tokenHash := sha256Hex token,
      expiresAt := 3600000000, usedAt := none, createdAt := (calmDraw salt).dbNow }
  have free : ∀ stored ∈ db.passwordResetTokens.rows, stored.clash link = false := by
    simp [hTokens]
  obtain ⟨table, inserted⟩ := Table.insert_of_free free
  have hStored : db.storePasswordResetToken (calmDraw salt) row.id (sha256Hex token) 3600000000 =
      (.ok (), { db with passwordResetTokens := table }) := by
    simp [Db.storePasswordResetToken, Db.storeOneTimeToken, hTokens, link, inserted, hUser]
  have hAfter : storeAfter (handle state (.forgotPassword ⟨email⟩)) (calm salt) db =
      { db with passwordResetTokens := table } :=
    (forgot_store state (fun _ => rfl) hFind rfl rfl).trans (congrArg Prod.snd hStored)
  have inTime : (0 : OffsetDateTime) < 3600000000 := by decide
  refine ⟨token, ?_⟩
  rw [hAfter]
  exact ⟨link, (Table.mem_insert inserted).mpr (.inr rfl), rfl, rfl, inTime⟩

theorem resetPassword_stores (state : AppState) {token : String} {db : Db}
    (hLong : 8 ≤ password.length) (hHash : External.argon2Hash password salt = .ok phc)
    (h : db.Consumable (calmDraw salt) (sha256Hex token)) :
    ∃ call ∈ callsOf (handle state (.resetPassword ⟨token, password⟩)) (calm salt) db,
      StoresPassword password call := by
  have valid : ResetPasswordReq.validate ⟨token, password⟩ = [] := by
    simp [ResetPasswordReq.validate, validateLength, hLong]
  have hOk : outcomeOf (handle state (.resetPassword ⟨token, password⟩)) (calm salt) db = .ok .empty :=
    reset_accepted valid (fun _ => rfl) ⟨phc, hHash⟩ h
  have done := resetPassword_done state ⟨token, password⟩ (calm salt) db
  rw [hOk] at done
  obtain ⟨_, userId, salt', phc', hHash', hWrites⟩ := done
  have hMem : (⟨.sql (.updatePasswordHash phc' userId), .ok ()⟩ : Call Op Op.Reply) ∈
      callsOf (handle state (.resetPassword ⟨token, password⟩)) (calm salt) db :=
    writes_subset _ (by simp [hWrites])
  exact ⟨_, hMem, salt', phc', hHash', rfl⟩

/-- Every entry point stores a password of eight characters in some run. -/
theorem exists_stores (state : AppState) (entry : EntryPoint)
    (hEmail : External.validateEmail email = true)
    (hLong : 8 ≤ password.length) (hHash : External.argon2Hash password salt = .ok phc) :
    ∃ pool i addressee displayName program, ServerRun state migrated pool ∧
      pool.clients[i]? = some ⟨entry.request addressee displayName password, program⟩ ∧
      ∃ call ∈ past answer pool.log i, StoresPassword password call := by
  have start : ServerRun state migrated (Pool.initial migrated) := .initial
  cases entry with
  | register =>
      obtain ⟨pool, i, run, returned, _, hPast⟩ :=
        start.alone (.register ⟨email, password, none⟩) (calm salt)
      obtain ⟨call, hMem, hStores⟩ := register_stores state hEmail hLong hHash
      exact ⟨pool, i, email, none, _, run, returned, call, hPast ▸ hMem, salt, phc, hHash, hStores⟩
  | createAdmin =>
      obtain ⟨pool, i, run, returned, _, hPast⟩ :=
        start.alone (.createAdmin ⟨email, password⟩) (calm salt)
      obtain ⟨⟨call, hMem, hStores⟩, _⟩ := createAdmin_stores state hEmail hLong hHash
      exact ⟨pool, i, email, none, _, run, returned, call, hPast ▸ hMem, salt, phc, hHash, hStores⟩
  | resetPassword =>
      -- An administrator is created, asks for a link and follows it.
      obtain ⟨pool, _, run, _, hStore, _⟩ := start.alone (.createAdmin ⟨email, password⟩) (calm salt)
      obtain ⟨_, users, row, roleName, hCreated, hRows, hRowEmail, hRowHash, hRecord⟩ :=
        createAdmin_stores state hEmail hLong hHash
      obtain ⟨pool', _, run', _, hStore', _⟩ := run.alone (.forgotPassword ⟨email⟩) (calm salt)
      obtain ⟨token, consumable⟩ := forgot_calm state salt hRows hRowEmail hRowHash hRecord rfl
      have hLink : pool'.store.Consumable (calmDraw salt) (sha256Hex token) := by
        rw [hStore', hStore.trans hCreated]
        exact consumable
      obtain ⟨pool'', i, run'', returned, _, hPast⟩ :=
        run'.alone (.resetPassword ⟨token, password⟩) (calm salt)
      obtain ⟨call, hMem, hStores⟩ := resetPassword_stores state hLong hHash hLink
      exact ⟨pool'', i, token, none, _, run'', returned, call, hPast ▸ hMem, hStores⟩

/-- Every entry point rejects a shorter one. -/
theorem exists_rejected (state : AppState) (entry : EntryPoint) (hShort : password.length < 8) :
    ∃ pool i addressee displayName outcome, ServerRun state migrated pool ∧
      pool.Returned i (entry.request addressee displayName password) outcome ∧
      LengthRejected entry.field outcome := by
  have start : ServerRun state migrated (Pool.initial migrated) := .initial
  obtain ⟨pool, i, run, returned, _⟩ := start.alone (entry.request "" none password) (calm "")
  exact ⟨pool, i, "", none, _, run, returned, (lengthRejected_iff run returned).mpr hShort⟩

theorem Enforced.eight_le (enforced : Enforced state entry password)
    (h : state.settings.auth.passwordMinLength ≤ password.length) : 8 ≤ password.length := by
  by_contra hShort
  obtain ⟨pool, i, addressee, displayName, outcome, run, returned, rejected⟩ :=
    exists_rejected state entry (Nat.lt_of_not_le hShort)
  exact (enforced pool run i addressee displayName _ returned).accepted h outcome returned rejected

theorem Enforced.minLength_le (enforced : Enforced state entry password)
    (hEmail : External.validateEmail email = true)
    (hHash : External.argon2Hash password salt = .ok phc) (h : 8 ≤ password.length) :
    state.settings.auth.passwordMinLength ≤ password.length := by
  obtain ⟨pool, i, addressee, displayName, program, run, present, call, hMem, stores⟩ :=
    exists_stores state entry hEmail h hHash
  exact (enforced pool run i addressee displayName program present).stored call hMem stores

/-- An entry point keeps to the configured policy for a password exactly when the
setting and the eight characters of the validators agree about it. -/
theorem password_policy_iff (state : AppState) (entry : EntryPoint) (password : String)
    {email salt phc : String} (hEmail : External.validateEmail email = true)
    (hHash : External.argon2Hash password salt = .ok phc) :
    Enforced state entry password ↔
      (state.settings.auth.passwordMinLength ≤ password.length ↔ 8 ≤ password.length) := by
  constructor
  · intro enforced
    exact ⟨enforced.eight_le, enforced.minLength_le hEmail hHash⟩
  · intro h pool run i addressee displayName program present
    exact policyKept_of_iff run present h

end Policy

section Runs

attribute [local instance] reference

/-- The example state, with another minimum length. -/
def demanding (n : Nat) : AppState :=
  { exampleState with settings := { exampleState.settings with
      auth := { exampleState.settings.auth with passwordMinLength := n } } }

/-- Eight characters are stored where twelve are asked for, and five are rejected
where four are enough. -/
theorem password_policy_ignored :
    ¬Enforced (demanding 12) .register "password" ∧ ¬Enforced (demanding 4) .register "short" := by
  have hEmail : External.validateEmail "user@example.org" = true := by decide +kernel
  have hHash : External.argon2Hash "password" "" = .ok ("" ++ "$" ++ "password") := rfl
  constructor
  · intro enforced
    have h := enforced.minLength_le hEmail hHash (by decide)
    revert h
    decide
  · intro enforced
    have h := enforced.eight_le (by decide)
    revert h
    decide

/-- The default setting is kept to, and a longer minimum is not. -/
theorem password_policy_default :
    Enforced (demanding 8) .register "password" ∧
      ¬Enforced (demanding 12) .resetPassword "password" := by
  have hEmail : External.validateEmail "user@example.org" = true := by decide +kernel
  have hHash : External.argon2Hash "password" "" = .ok ("" ++ "$" ++ "password") := rfl
  constructor
  · exact (password_policy_iff (demanding 8) .register "password" hEmail hHash).mpr Iff.rfl
  · rw [password_policy_iff (demanding 12) .resetPassword "password" hEmail hHash]
    decide

end Runs

end GenericAuth
