import GenericAuth.Api.Written
import GenericAuth.Properties.GoogleIdentity

/-! An account creation that fails. Until the users row is inserted a failure
leaves everything as it was; afterwards the row stays, and whether a repetition
succeeds depends on the address and on the identity row. -/
namespace GenericAuth

open Interaction Relational

section Accounts

variable [External] {state : AppState} {pool : ServerPool} {db : Db} {draws : Stream' Draw}

/-- Somebody has this address. -/
def Db.Taken (db : Db) (email : Option String) : Prop :=
  ∃ row ∈ db.users.rows, sameEmail row.email email = true

theorem Db.Taken.later {db' : Db} {email : Option String} (later : db.Later db')
    (taken : db.Taken email) : db'.Taken email := by
  obtain ⟨row, hMem, hSame⟩ := taken
  obtain ⟨row', hMem', change⟩ := later.users row hMem
  exact ⟨row', hMem', change.email ▸ hSame⟩

theorem not_taken_iff {email : Option String} : ¬db.Taken email ↔
    ∀ row ∈ db.users.rows, sameEmail row.email email = false := by
  simp [Db.Taken]

/-- Exactly one user was added, under this address. -/
def Db.AddsUser (before after : Db) (email : Option String) (columns : UserColumns) : Prop :=
  ∃ (users : Table UserRow.clash) (row : UserRow), after = { before with users } ∧
    users.rows = before.users.rows ++ [row] ∧ row.toUserColumns = columns ∧ row.email = email

/-- Exactly one identity was added, which binds the subject of the profile to the user. -/
def Db.AddsIdentity (before after : Db) (userId : Uuid) (profile : GoogleProfile) : Prop :=
  ∃ (oauthIdentities : Table OAuthIdentityRow.clash) (row : OAuthIdentityRow),
    after = { before with oauthIdentities } ∧
    oauthIdentities.rows = before.oauthIdentities.rows ++ [row] ∧ row.userId = userId ∧
    row.provider = "google" ∧ row.subject = profile.sub ∧ row.email = profile.email ∧
    row.rawProfile = profile

theorem Db.AddsIdentity.bound {after : Db} {userId : Uuid} {profile : GoogleProfile}
    (adds : db.AddsIdentity after userId profile) : after.BoundTo "google" profile.sub userId := by
  obtain ⟨oauthIdentities, row, rfl, hRows, hUser, hProvider, hSubject, _⟩ := adds
  exact ⟨row, by simp [hRows], hProvider, hSubject, hUser⟩

theorem Db.AddsUser.taken {after : Db} {email : String} {columns : UserColumns}
    (adds : db.AddsUser after (some email) columns) : after.Taken (some email) := by
  obtain ⟨users, row, rfl, hRows, _, hEmail⟩ := adds
  exact ⟨row, by simp [hRows], by simp [hEmail, sameEmail]⟩

/-- The random bits were not drawn for a stored account before. -/
def Db.NewAccounts (db : Db) (draws : Stream' Draw) : Prop :=
  ∀ n, (∀ row ∈ db.users.rows, row.id ≠ (draws.get n).uuid) ∧
    ∀ row ∈ db.oauthIdentities.rows, row.id ≠ (draws.get n).uuid

/-! ### Registration -/

/-- `register_user` with the ports and settings of its handler. -/
def registering (state : AppState) (body : RegisterReq) : Server (Except Stop TokenPair) :=
  (registerUser state.registerPort body state.settings.auth.jwtAccessTtlMin
    state.settings.auth.jwtRefreshTtlDays).run

/-- A registration that is executed alone takes one of its courses. -/
theorem registering_alone (state : AppState) (body : RegisterReq) (draws : Stream' Draw) (db : Db) :
    EnrolCourse state body (callsOf (registering state body) draws db)
      (outcomeOf (registering state body) draws db) :=
  takes_alone (enrol_course state body) draws db

theorem any_roleIdFor {name : String} {id : Nat} (hRole : db.roleIdFor name = some id) :
    (db.roles.any fun role => role.id == id) = true := by
  obtain ⟨role, hFind, hId⟩ := Option.map_eq_some_iff.mp hRole
  exact List.any_eq_true.mpr ⟨role, List.mem_of_find?_eq_some hFind, by simp [hId]⟩

theorem answer_roleIdFor {draw : Draw} (h : draw.fault = none) {name : String} {id : Nat}
    (hRole : db.roleIdFor name = some id) :
    answer draw db (.sql (.roleIdFor name)) = (.ok (some id), db) := by
  simp [answer_sql h, Db.exec, hRole]

/-- Without a failure a new address is registered. -/
theorem registering_returns {body : RegisterReq} (issuing : Issuing state draws)
    (hashes : ∃ phc, External.argon2Hash body.password (draws.get 0).salt = .ok phc)
    (sessions : db.NewSessions draws) (accounts : db.NewAccounts draws)
    (hRoles : db.roleIdFor Role.user.asStr = some 3)
    (valid : body.validate = []) (free : ¬db.Taken (some body.email)) :
    ∃ pair, outcomeOf (registering state body) draws db = .ok pair := by
  obtain ⟨phc, hHash⟩ := hashes
  obtain ⟨columns, users, hId, hUser, hInsert⟩ := answer_insertUser (issuing.fault 2)
    (any_roleIdFor hRoles)
    (accounts 2).1 (not_taken_iff.mp free) (some phc) body.displayName false
  obtain ⟨access, hAccess⟩ := issuing.encodes 3 4 columns.id .user
  obtain ⟨expiresAt, hExpiry⟩ := issuing.session 6
  rw [← hId] at hUser
  obtain ⟨db', hStored⟩ := answer_storeRefreshToken (issuing.fault 7) hUser (sessions 7 5) expiresAt
    none
  refine ⟨⟨access, hexEncode (draws.get 5).bytes, state.settings.auth.jwtAccessTtlMin * 60⟩, ?_⟩
  simp [outcomeOf, registering, registerUser, AppState.registerPort, ExceptT.run_bind, valid, hHash,
    UserDb.run_createUser, answer_roleIdFor (issuing.fault 1) hRoles, hInsert, UserColumns.toUser,
    hAccess, hExpiry, hStored]

/-- An address that is taken cannot be registered. -/
theorem registering_blocked (state : AppState) (body : RegisterReq) (draws : Stream' Draw)
    (taken : db.Taken (some body.email)) :
    ∃ stop, outcomeOf (registering state body) draws db = .error stop := by
  have course := registering_alone state body draws db
  cases hOutcome : outcomeOf (registering state body) draws db with
  | error stop => exact ⟨stop, rfl⟩
  | ok pair =>
      rw [hOutcome] at course
      obtain ⟨phc, roleId, columns, store, -, hWrites⟩ := course.session
      have saw : ⟨.sql (.insertUser (some body.email) (some phc) body.displayName roleId false),
          .ok columns⟩ ∈ callsOf (registering state body) draws db :=
        writes_subset _ (by simp [hWrites])
      obtain ⟨draw, found, later, hReply, _⟩ := reply_alone saw
      have free row hMem := (insertUser_new (Prod.ext hReply rfl) row hMem).2
      exact absurd (taken.later later) (not_taken_iff.mpr free)

/-- What a registration that fails leaves behind, and what becomes of a repetition. -/
inductive RegistrationLeft (state : AppState) (body : RegisterReq) (before after : Db) : Prop where
  /-- Nothing, and a repetition without a failure succeeds. -/
  | nothing (same : after = before)
      (again : ∀ draws, Issuing state draws →
        (∃ phc, External.argon2Hash body.password (draws.get 0).salt = .ok phc) →
        before.NewSessions draws → before.NewAccounts draws →
        ∃ pair, outcomeOf (registering state body) draws before = .ok pair)
  /-- The user, who blocks every repetition. -/
  | user (columns : UserColumns) (adds : before.AddsUser after (some body.email) columns)
      (blocked : ∀ later, after.Later later → ∀ draws,
        ∃ stop, outcomeOf (registering state body) draws later = .error stop)

theorem registering_failure {body : RegisterReq} {stop : Stop}
    (hRoles : db.roleIdFor Role.user.asStr = some 3) (valid : body.validate = [])
    (free : ¬db.Taken (some body.email))
    (failed : outcomeOf (registering state body) draws db = .error stop) :
    RegistrationLeft state body db (storeAfter (registering state body) draws db) := by
  have course := registering_alone state body draws db
  have traced := traced_writes (registering state body) draws db
  rw [failed] at course
  rcases course.lost with quiet | ⟨_, _, columns, hWrites⟩
  · exact .nothing (storeAfter_of_quiet quiet) fun again issuing hashes sessions accounts =>
      registering_returns issuing hashes sessions accounts hRoles valid free
  · rw [hWrites] at traced
    obtain ⟨draw, after, hInsert, rest⟩ := traced.of_cons
    obtain rfl := rest.eq_of_nil
    have adds : db.AddsUser _ _ _ := insertUser_after hInsert
    exact .user columns adds fun later hLater again =>
      registering_blocked state body again (adds.taken.later hLater)

/-! ### Sign-in with Google -/

/-- A repetition without a failure, in which the provider answers alike. -/
structure Repeats (state : AppState) (db : Db) (profile : GoogleProfile) (draws : Stream' Draw) :
    Prop where
  issuing : Issuing state draws
  sessions : db.NewSessions draws
  accounts : db.NewAccounts draws
  answers : ∀ n, (draws.get n).profile = .ok profile
  url : External.redirectUrl state.googleConfig.redirectUrl = .ok ()

section Callback

variable {q : OAuthCallbackQuery} {profile : GoogleProfile}

theorem exchanged_unique (hProfile : ∀ n, (draws.get n).profile = .ok profile)
    {profile' : GoogleProfile} {rest : Calls}
    (reads : ⟨.exchangeCode q.code, .ok profile'⟩ :: rest <+:
      callsOf (handle state (.googleCallback q)) draws db) : profile' = profile := by
  obtain ⟨n, _, hReply⟩ := Program.mem_trace answer (reads.subset List.mem_cons_self)
  exact Except.ok.inj (hReply.symm.trans (hProfile n))

/-- A subject whose account was found is bound. -/
theorem bound_of_found {found : UserRecord} (reads : ([⟨.exchangeCode q.code, .ok profile⟩,
      ⟨.sql (.findUserByOauth "google" profile.sub), .ok (some found)⟩] : Calls) <+:
      callsOf (handle state (.googleCallback q)) draws db) :
    ∃ userId, db.BoundTo "google" profile.sub userId := by
  obtain ⟨rest, hCalls⟩ := reads
  have traced := traced_callsOf (handle state (.googleCallback q)) draws db
  rw [← hCalls] at traced
  obtain ⟨draw, middle, hExchange, traced⟩ := traced.of_cons
  obtain ⟨-, rfl⟩ := Prod.mk.inj hExchange
  obtain ⟨draw', _, hFind, _⟩ := traced.of_cons
  exact ⟨found.id, findUserByOauth_reply hFind⟩

/-- A subject that is not bound is not found. -/
theorem answer_findUserByOauth_none {draw : Draw} (h : draw.fault = none) {sub : String}
    (unbound : ∀ userId, ¬db.BoundTo "google" sub userId) :
    answer draw db (.sql (.findUserByOauth "google" sub)) = (.ok none, db) := by
  have none : db.oauthIdentities.find (fun row =>
      row.provider == "google" && row.subject == sub) = none := by
    refine List.find?_eq_none.mpr fun row hMem hRow => ?_
    simp only [Bool.and_eq_true, beq_iff_eq] at hRow
    exact unbound row.userId ⟨row, hMem, hRow.1, hRow.2, rfl⟩
  simp [answer_sql h, Db.exec, Db.findUserByOauth, none]

/-- Without a failure a new subject with a free address gets an account. -/
theorem googleCallback_new (again : Repeats state db profile draws)
    (hRoles : db.roleIdFor Role.user.asStr = some 3)
    (unbound : ∀ userId, ¬db.BoundTo "google" profile.sub userId) (free : ¬db.Taken profile.email) :
    ∃ pair, outcomeOf (handle state (.googleCallback q)) draws db = .ok (.tokenPair pair) := by
  have issuing := again.issuing
  have hFind := answer_findUserByOauth_none (issuing.fault 1) unbound
  obtain ⟨columns, users, hId, hUser, hInsert⟩ := answer_insertUser (issuing.fault 3)
    (any_roleIdFor hRoles) (again.accounts 3).1 (not_taken_iff.mp free) none profile.name
    profile.email.isSome
  rw [← hId] at hUser
  obtain ⟨identities, hUpsert⟩ := answer_upsertOauthIdentity (issuing.fault 4) hUser
    (again.accounts 4).2 "google" profile.sub profile.email profile
  have sessions : ({ db with users, oauthIdentities := identities } : Db).NewSessions
      (draws.drop 5) := again.sessions.drop 5
  obtain ⟨pair, hPair, _⟩ := issueTokens_returns (issuing.drop 5) sessions hUser .user none
  refine ⟨pair, ?_⟩
  simp [outcomeOf, handle, googleCallback, upsertOauthUser, ExceptT.run_bind, again.url,
    again.answers 0, hFind, UserDb.run_createUser, answer_roleIdFor (issuing.fault 2) hRoles, hInsert,
    UserColumns.toUser, hUpsert]
  rw [Program.exec_map]
  exact congrArg (Except.map Payload.tokenPair) hPair

/-- Without a failure a bound subject signs in to its account. -/
theorem googleCallback_bound (again : Repeats state db profile draws) (refs : db.References)
    {userId : Uuid}
    (bound : db.BoundTo "google" profile.sub userId) :
    ∃ pair, outcomeOf (handle state (.googleCallback q)) draws db = .ok (.tokenPair pair) ∧
      PairFor state (storeAfter (handle state (.googleCallback q)) draws db) pair userId := by
  have issuing := again.issuing
  obtain ⟨row, hMem, hProvider, hSubject, rfl⟩ := bound
  have hUser := refs.identities row hMem
  obtain ⟨found, hFound, hId⟩ := refs.findById hUser
  have hRow : db.oauthIdentities.find (fun row =>
      row.provider == "google" && row.subject == profile.sub) = some row :=
    Table.find_eq_some OAuthIdentityRow.clash_comm
      (fun first second h h' => by simp_all [OAuthIdentityRow.clash]) hMem
      (by simp [hProvider, hSubject])
  have hFind : answer (draws.get 1) db (.sql (.findUserByOauth "google" profile.sub)) =
      (.ok (some found), db) := by
    simp [answer_sql (issuing.fault 1), Db.exec, Db.findUserByOauth, hRow, hFound]
  obtain ⟨identities, hUpsert⟩ := answer_upsertOauthIdentity (issuing.fault 2) hUser
    (again.accounts 2).2 "google" profile.sub profile.email profile
  have sessions : ({ db with oauthIdentities := identities } : Db).NewSessions (draws.drop 3) :=
    again.sessions.drop 3
  obtain ⟨pair, hPair, pairFor⟩ := issueTokens_returns (issuing.drop 3) sessions hUser
    found.toUser.role none
  have hUserId : found.toUser.id = row.userId := hId
  have rest : (handle state (.googleCallback q)).exec answer draws db =
      (Except.map Payload.tokenPair <$>
        (issueTokens state row.userId found.toUser.role none).run).exec answer (draws.drop 3)
          { db with oauthIdentities := identities } := by
    simp [handle, googleCallback, upsertOauthUser, ExceptT.run_bind, again.url, again.answers 0,
      hFind, hUserId, hUpsert]
    rfl
  rw [outcomeOf, storeAfter, rest, Program.exec_map]
  exact ⟨pair, congrArg (Except.map Payload.tokenPair) hPair, pairFor⟩

/-- A new subject whose address is taken gets no account. -/
theorem googleCallback_blocked {email : String} (hEmail : profile.email = some email)
    (hProfile : ∀ n, (draws.get n).profile = .ok profile)
    (unbound : ∀ userId, ¬db.BoundTo "google" profile.sub userId) (taken : db.Taken (some email)) :
    ∃ stop, outcomeOf (handle state (.googleCallback q)) draws db = .error stop := by
  have written := (course_alone state (.googleCallback q) draws db).written
  cases hOutcome : outcomeOf (handle state (.googleCallback q)) draws db with
  | error stop => exact ⟨stop, rfl⟩
  | ok payload =>
      rw [hOutcome] at written
      cases written with
      | answered hRead => cases hRead
      | admin hCall => cases hCall
      | bind reads =>
          obtain rfl := exchanged_unique hProfile reads
          obtain ⟨userId, bound⟩ := bound_of_found reads
          exact absurd bound (unbound userId)
      | @signUp _ profile' roleId columns pair store reads session hWrites =>
          obtain rfl := exchanged_unique hProfile reads
          have saw : ⟨.sql (.insertUser profile'.email none profile'.name roleId
              profile'.email.isSome), .ok columns⟩ ∈
              callsOf (handle state (.googleCallback q)) draws db :=
            writes_subset _ (by simp [hWrites])
          obtain ⟨draw, found, later, hReply, _⟩ := reply_alone saw
          have free row hMem := (insertUser_new (Prod.ext hReply rfl) row hMem).2
          rw [hEmail] at free
          exact absurd (taken.later later) (not_taken_iff.mpr free)

/-- What a sign-in that fails leaves behind, and what becomes of a repetition. -/
inductive SignInLeft (state : AppState) (q : OAuthCallbackQuery) (profile : GoogleProfile)
    (before after : Db) : Prop where
  /-- Nothing, and a repetition succeeds unless the address is taken. -/
  | nothing (same : after = before)
      (again : ¬before.Taken profile.email → ∀ draws, Repeats state before profile draws →
        ∃ pair, outcomeOf (handle state (.googleCallback q)) draws before = .ok (.tokenPair pair))
  /-- A user that nobody can sign in to. With an address it blocks every
  repetition, and without one a repetition goes through. -/
  | user (columns : UserColumns) (adds : before.AddsUser after profile.email columns)
      (blocked : profile.email.isSome → ∀ later, after.Later later →
        (∀ userId, ¬later.BoundTo "google" profile.sub userId) → ∀ draws,
        (∀ n, (draws.get n).profile = .ok profile) →
        ∃ stop, outcomeOf (handle state (.googleCallback q)) draws later = .error stop)
      (again : profile.email = none → ∀ draws, Repeats state after profile draws →
        ∃ pair, outcomeOf (handle state (.googleCallback q)) draws after = .ok (.tokenPair pair))
  /-- The complete account, to which a repetition signs in. -/
  | account (columns : UserColumns) (middle : Db)
      (adds : before.AddsUser middle profile.email columns)
      (binds : middle.AddsIdentity after columns.id profile)
      (again : ∀ draws, Repeats state after profile draws →
        ∃ pair, outcomeOf (handle state (.googleCallback q)) draws after = .ok (.tokenPair pair) ∧
          PairFor state (storeAfter (handle state (.googleCallback q)) draws after) pair columns.id)

theorem googleCallback_failure (refs : db.References)
    (hRoles : db.roleIdFor Role.user.asStr = some 3)
    (hProfile : ∀ n, (draws.get n).profile = .ok profile)
    (unbound : ∀ userId, ¬db.BoundTo "google" profile.sub userId) {stop : Stop}
    (failed : outcomeOf (handle state (.googleCallback q)) draws db = .error stop) :
    SignInLeft state q profile db (storeAfter (handle state (.googleCallback q)) draws db) := by
  have written := (course_alone state (.googleCallback q) draws db).written
  have traced := traced_writes (handle state (.googleCallback q)) draws db
  have nothing (quiet : writes (callsOf (handle state (.googleCallback q)) draws db) = []) :
      SignInLeft state q profile db (storeAfter (handle state (.googleCallback q)) draws db) :=
    .nothing (storeAfter_of_quiet quiet) fun free draws' repeats =>
      googleCallback_new repeats hRoles unbound free
  rw [failed] at written
  cases written with
  | refused stop quiet => exact nothing quiet
  | bindLost stop reads =>
      obtain rfl := exchanged_unique hProfile reads
      obtain ⟨userId, bound⟩ := bound_of_found reads
      exact absurd bound (unbound userId)
  | signUpLost roleId columns stop reads hPrefix =>
      obtain rfl := exchanged_unique hProfile reads
      rcases List.prefix_cons_iff.mp hPrefix with quiet | ⟨more, hWrites, hMore⟩
      · exact nothing quiet
      rw [hWrites] at traced
      obtain ⟨draw, middle, hInsert, rest⟩ := traced.of_cons
      rcases List.prefix_cons_iff.mp hMore with rfl | ⟨last, rfl, hLast⟩
      · obtain rfl := rest.eq_of_nil
        have adds : db.AddsUser _ _ _ := insertUser_after hInsert
        refine .user columns adds (fun hSome later hLater hUnbound draws' hProfile' => ?_)
          fun hNone draws' repeats => ?_
        · obtain ⟨email, hEmail⟩ := Option.isSome_iff_exists.mp hSome
          rw [hEmail] at adds
          exact googleCallback_blocked hEmail hProfile' hUnbound (adds.taken.later hLater)
        · obtain ⟨users, row, hAfter, _⟩ := adds
          rw [hAfter] at repeats ⊢
          apply googleCallback_new repeats hRoles unbound
          rintro ⟨stored, _, hSame⟩
          simp [hNone, sameEmail] at hSame
      · obtain rfl := List.prefix_nil.mp hLast
        obtain ⟨draw', after, hUpsert, rest⟩ := rest.of_cons
        obtain rfl := rest.eq_of_nil
        have refs' := (refs.of_answer hInsert).of_answer hUpsert
        obtain ⟨users, row, rfl, adds⟩ := insertUser_after hInsert
        have binds : Db.AddsIdentity _ _ _ _ := upsertOauthIdentity_new hUpsert unbound
        exact .account columns _ ⟨users, row, rfl, adds⟩ binds
          fun draws' repeats => googleCallback_bound repeats refs' binds.bound

end Callback

/-- Every reachable store: what a failed account creation leaves behind. -/
theorem accountCreation_failure (run : ServerRun state migrated pool) :
    (∀ (body : RegisterReq) draws stop, body.validate = [] → ¬pool.store.Taken (some body.email) →
      outcomeOf (registering state body) draws pool.store = .error stop →
      RegistrationLeft state body pool.store
        (storeAfter (registering state body) draws pool.store)) ∧
    ∀ (q : OAuthCallbackQuery) profile (draws : Stream' Draw) stop,
      (∀ n, (draws.get n).profile = .ok profile) →
      (∀ userId, ¬pool.store.BoundTo "google" profile.sub userId) →
      outcomeOf (handle state (.googleCallback q)) draws pool.store = .error stop →
      SignInLeft state q profile pool.store
        (storeAfter (handle state (.googleCallback q)) draws pool.store) :=
  ⟨fun _ _ _ valid free failed => registering_failure run.roleIdFor_user valid free failed,
    fun _ _ _ _ hProfile unbound failed =>
      googleCallback_failure run.references run.roleIdFor_user hProfile unbound failed⟩

end Accounts

/-! ### Runs of the reference instance -/

section Runs

attribute [local instance] reference

def newcomer : RegisterReq := ⟨"new@example.org", "password", none⟩

theorem initial_run : ServerRun exampleState migrated (Pool.initial migrated) := .initial

theorem initial_free : ¬(Pool.initial migrated : ServerPool).store.Taken (some newcomer.email) := by
  rintro ⟨row, hMem, _⟩
  cases hMem

/-- The eighth operation of a registration stores the session. When it fails the
user remains, and the same registration fails from then on. -/
theorem register_failure_leaves_user : ∃ (pool : ServerPool) (body : RegisterReq)
    (draws again : Stream' Draw) (stop stop' : Stop), ServerRun exampleState migrated pool ∧
      body.validate = [] ∧ ¬pool.store.Taken (some body.email) ∧
      outcomeOf (registering exampleState body) draws pool.store = .error stop ∧
      (storeAfter (registering exampleState body) draws pool.store).Taken (some body.email) ∧
      Smooth exampleState again ∧
      outcomeOf (registering exampleState body) again
        (storeAfter (registering exampleState body) draws pool.store) = .error stop' := by
  have failed : stopped (outcomeOf (registering exampleState newcomer) (momentsFailing 20 7)
      migrated) = true := by decide +kernel
  have added : ((storeAfter (registering exampleState newcomer) (momentsFailing 20 7)
      migrated).users.rows.any fun row => sameEmail row.email (some newcomer.email)) = true := by
    decide +kernel
  obtain ⟨stop, hStop⟩ := error_of_stopped failed
  obtain ⟨row, hMem, hSame⟩ := List.any_eq_true.mp added
  obtain ⟨stop', hStop'⟩ := registering_blocked exampleState newcomer (moments 40) ⟨row, hMem, hSame⟩
  exact ⟨Pool.initial migrated, newcomer, momentsFailing 20 7, moments 40, stop, stop', initial_run,
    by decide, initial_free, hStop, ⟨row, hMem, hSame⟩, moments_smooth 40 (by decide +kernel), hStop'⟩

/-- The provider answers each time, and the `k`-th operation fails. -/
def profileFailing (k : Nat) : Stream' Draw := fun n =>
  { momentsFailing 20 k n with profile := .ok bareProfile }

/-- The provider answers each time, and nothing fails. -/
def profileMoments : Stream' Draw := fun n => { moments 40 n with profile := .ok bareProfile }

theorem profileMoments_repeats {db : Db} (sessions : db.NewSessions (moments 40))
    (accounts : db.NewAccounts (moments 40)) :
    Repeats exampleState db bareProfile profileMoments where
  issuing := by
    obtain ⟨fault, encodes, session⟩ := (moments_smooth 40 (by decide +kernel)).issuing
    exact ⟨fault, encodes, session⟩
  sessions n k := sessions n k
  accounts n := accounts n
  answers _ := rfl
  url := rfl

/-- The store that a sign-in leaves whose tenth operation, the insertion of the session, fails. -/
def signInCut : Db :=
  storeAfter (handle exampleState (.googleCallback ⟨"code", none⟩)) (profileFailing 9) migrated

theorem signInCut_new : signInCut.NewSessions (moments 40) ∧ signInCut.NewAccounts (moments 40) := by
  have sessions : signInCut.refreshTokens.rows = [] := by decide +kernel
  have users : (signInCut.users.rows.all fun row => row.id == (moment 23).uuid) = true := by
    decide +kernel
  have identities : (signInCut.oauthIdentities.rows.all fun row =>
      row.id == (moment 24).uuid) = true := by
    decide +kernel
  have later : ((List.range 20).all fun n => (moment (40 + n)).uuid != (moment 23).uuid &&
      (moment (40 + n)).uuid != (moment 24).uuid) = true := by
    decide
  refine ⟨by rw [Db.NewSessions, sessions]; rintro _ _ row ⟨⟩, fun n => ?_⟩
  have unused := List.all_eq_true.mp later (n % 20) (List.mem_range.mpr (Nat.mod_lt n (by decide)))
  simp only [Bool.and_eq_true, bne_iff_ne] at unused
  refine ⟨fun row hMem => ?_, fun row hMem => ?_⟩
  · rw [beq_iff_eq.mp (List.all_eq_true.mp users row hMem)]
    exact unused.1.symm
  · rw [beq_iff_eq.mp (List.all_eq_true.mp identities row hMem)]
    exact unused.2.symm

/-- The hypotheses hold of a registration whose insertion of the user fails, and which
succeeds when it is repeated, and of a sign-in that fails after the binding, whose
repetition signs in to the account that it left. -/
theorem accountCreation_failure_repeated : ∃ (stop stop' : Stop) (pair pair' : TokenPair)
    (columns : UserColumns),
    (outcomeOf (registering exampleState newcomer) (momentsFailing 20 2) migrated = .error stop ∧
      storeAfter (registering exampleState newcomer) (momentsFailing 20 2) migrated = migrated ∧
      outcomeOf (registering exampleState newcomer) (moments 40) migrated = .ok pair) ∧
    outcomeOf (handle exampleState (.googleCallback ⟨"code", none⟩)) (profileFailing 9) migrated =
        .error stop' ∧
      signInCut.BoundTo "google" bareProfile.sub columns.id ∧
      outcomeOf (handle exampleState (.googleCallback ⟨"code", none⟩)) profileMoments signInCut =
        .ok (.tokenPair pair') ∧
      PairFor exampleState (storeAfter (handle exampleState (.googleCallback ⟨"code", none⟩))
        profileMoments signInCut) pair' columns.id := by
  have failed : stopped (outcomeOf (registering exampleState newcomer) (momentsFailing 20 2)
      migrated) = true := by decide +kernel
  have failed' : stopped (outcomeOf (handle exampleState (.googleCallback ⟨"code", none⟩))
      (profileFailing 9) migrated) = true := by decide +kernel
  have noUser : (storeAfter (registering exampleState newcomer) (momentsFailing 20 2)
      migrated).users.rows = [] := by decide +kernel
  have identity : signInCut.oauthIdentities.rows ≠ [] := by decide +kernel
  obtain ⟨stop, hStop⟩ := error_of_stopped failed
  obtain ⟨stop', hStop'⟩ := error_of_stopped failed'
  have smooth := moments_smooth 40 (by decide +kernel)
  have unbound (userId : Uuid) :
      ¬(Pool.initial migrated : ServerPool).store.BoundTo "google" bareProfile.sub userId := by
    rintro ⟨row, hMem, _⟩
    cases hMem
  have registration := (accountCreation_failure initial_run).1 newcomer _ stop (by decide)
    initial_free hStop
  have signIn := (accountCreation_failure initial_run).2 _ bareProfile _ stop' (fun _ => rfl)
    unbound hStop'
  cases registration with
  | user columns adds blocked =>
      obtain ⟨row, hMem, _⟩ := adds.taken
      exact absurd hMem (by simp [Pool.initial, noUser])
  | nothing same again =>
      obtain ⟨pair, hPair⟩ := again (moments 40) smooth.issuing ⟨_, rfl⟩ (by rintro _ _ row ⟨⟩)
        (fun _ => ⟨by rintro row ⟨⟩, by rintro row ⟨⟩⟩)
      cases signIn with
      | nothing same' _ => exact absurd (congrArg (·.oauthIdentities.rows) same') identity
      | user columns adds _ _ =>
          obtain ⟨users, row, hAfter, _⟩ := adds
          exact absurd (congrArg (·.oauthIdentities.rows) hAfter) identity
      | account columns middle adds binds again' =>
          obtain ⟨pair', hPair', pairFor⟩ := again' profileMoments
            (profileMoments_repeats signInCut_new.1 signInCut_new.2)
          exact ⟨stop, stop', pair, pair', columns, ⟨hStop, same, hPair⟩, hStop', binds.bound,
            hPair', pairFor⟩

end Runs

end GenericAuth
