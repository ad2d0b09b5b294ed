import GenericAuth.Api.Recovery
import GenericAuth.Properties.AccountIsolation
import GenericAuth.Properties.EffectivePermissions

/-! The password that logs in, as a fold over the history: the last one that was
given to the user, by the request that created the account or by a reset. -/
namespace GenericAuth

open Interaction Relational

section Passwords

variable [External] {state : AppState} {request : Request} {draws : Stream' Draw} {db after : Db}
    {u : Uuid}

omit [External] in
instance (table : Table OneTimeTokenRow.clash) (tokenHash : String) (u : Uuid) :
    Decidable (Owns table tokenHash u) :=
  inferInstanceAs (Decidable (∃ row ∈ table.rows, row.tokenHash = tokenHash ∧ row.userId = u))

/-- The password that a request gives this user, as its creator or by a reset with
a token that was stored for the user. -/
def passwordGiven (state : AppState) (u : Uuid) (db : Db) (request : Request)
    (draws : Stream' Draw) : Option String :=
  match request with
  | .resetPassword body =>
      if Owns db.passwordResetTokens (sha256Hex body.token) u ∧ succeeds state db request draws then
        some body.newPassword
      else none
  | request =>
      if !db.hasUser u && (storeAfter (handle state request) draws db).hasUser u then
        (creation request).bind Prod.snd
      else none

/-- The stored hash is one of the password that was given last. -/
structure PasswordAgrees (u : Uuid) (db : Db) (given : Option String) : Prop where
  refs : db.References
  absent : db.hasUser u = false → given = none
  stored : ∀ row, db.user u = some row → Hashes given row.passwordHash

/-! ### Resets -/

/-- Without faults a reset that fails leaves the users as they were. -/
theorem reset_error_users {body : ResetPasswordReq} (hFault : ∀ n, (draws.get n).fault = none)
    {stop : Stop} (failed : outcomeOf (handle state (.resetPassword body)) draws db = .error stop) :
    (storeAfter (handle state (.resetPassword body)) draws db).users = db.users := by
  have written := (course_alone state (.resetPassword body) draws db).written
  have traced := traced_writes (handle state (.resetPassword body)) draws db
  rw [failed] at written
  cases written with
  | refused stop quiet => rw [storeAfter_of_quiet quiet]
  | resetLost userId stop hWrites =>
      rw [hWrites] at traced
      obtain ⟨_, middle, hConsume, rest⟩ := traced.of_cons
      obtain ⟨-, rfl⟩ := Prod.mk.inj (exec_of_answer hConsume)
      rw [rest.eq_of_nil]
      rfl
  | resetHalf userId phc stop lost hWrites =>
      obtain ⟨error, hMem⟩ := lost
      obtain ⟨n, found, hReply⟩ := Program.mem_trace answer hMem
      rw [answer_sql (hFault n)] at hReply
      cases hReply

theorem reset_users {draw draw' draw'' : Draw} {tokenHash phc : String} {userId : Uuid}
    {row : UserRow} (hMem : row ∈ (db.reset draw draw' draw'' tokenHash phc userId).users.rows) :
    row.id = userId ∧ row.passwordHash = some phc ∨ row.id ≠ userId ∧ row ∈ db.users.rows := by
  obtain ⟨old, hOld, rfl⟩ := List.mem_map.mp hMem
  by_cases hId : old.id = userId
  · simp [hId]
  · simp [hId, show old ∈ db.users.rows from hOld]

theorem reset_owner {draw : Draw} {tokenHash : String} {userId : Uuid}
    (h : (db.consumePasswordResetToken draw tokenHash).1 = some userId) :
    Owns db.passwordResetTokens tokenHash userId := by
  obtain ⟨row, hMem, hHash, hUser, _⟩ := consumeOneTimeToken_eq h
  exact ⟨row, hMem, hHash, hUser⟩

theorem PasswordAgrees.reset {body : ResetPasswordReq} {given : Option String}
    (hFault : ∀ n, (draws.get n).fault = none) (agrees : PasswordAgrees u db given) :
    PasswordAgrees u (storeAfter (handle state (.resetPassword body)) draws db)
      ((passwordGiven state u db (.resetPassword body) draws).or given) := by
  have later := later_alone state (.resetPassword body) draws db
  refine ⟨references_alone state _ draws agrees.refs, fun hAbsent => ?_, fun row hRow => ?_⟩
  · have absent : db.hasUser u = false :=
      Bool.eq_false_iff.mpr fun hUser => Bool.eq_false_iff.mp hAbsent (later.hasUser hUser)
    have unowned : ¬Owns db.passwordResetTokens (sha256Hex body.token) u := by
      rintro ⟨token, hMem, _, rfl⟩
      rw [agrees.refs.resets token hMem] at absent
      cases absent
    simp [passwordGiven, unowned, agrees.absent absent]
  obtain ⟨hMem, rfl⟩ := user_eq_some.mp hRow
  cases hOutcome : outcomeOf (handle state (.resetPassword body)) draws db with
  | error stop =>
      rw [reset_error_users hFault hOutcome] at hMem
      simpa [passwordGiven, not_succeeds_of_error hOutcome] using
        agrees.stored row (user_eq_some.mpr ⟨hMem, rfl⟩)
  | ok payload =>
      obtain ⟨_, draw, draw', draw'', userId, salt, phc, hHash, hConsume, hAfter⟩ := reset_ok hOutcome
      have owns := reset_owner hConsume
      rw [hAfter] at hMem
      rcases reset_users hMem with ⟨rfl, hNew⟩ | ⟨hOther, hOld⟩
      · simp only [passwordGiven, owns, succeeds_of_ok hOutcome, and_self, if_true, Option.some_or]
        exact ⟨salt, phc, hHash, hNew⟩
      · have unowned : ¬Owns db.passwordResetTokens (sha256Hex body.token) row.id :=
          fun other => hOther (owns.unique other)
        simpa [passwordGiven, unowned] using agrees.stored row (user_eq_some.mpr ⟨hOld, rfl⟩)

/-! ### Other requests -/

theorem passwordGiven_other (h : ∀ body, request ≠ .resetPassword body) :
    passwordGiven state u db request draws =
      if !db.hasUser u && (storeAfter (handle state request) draws db).hasUser u then
        (creation request).bind Prod.snd
      else none := by
  cases request with
  | resetPassword body => exact absurd rfl (h body)
  | _ => rfl

theorem password_step (given : Option String) (hFault : ∀ n, (draws.get n).fault = none)
    (agrees : PasswordAgrees u db given) :
    PasswordAgrees u (storeAfter (handle state request) draws db)
      ((passwordGiven state u db request draws).or given) := by
  by_cases hReset : ∃ body, request = .resetPassword body
  · obtain ⟨body, rfl⟩ := hReset
    exact agrees.reset hFault
  have hOther (body : ResetPasswordReq) : request ≠ .resetPassword body := fun h => hReset ⟨body, h⟩
  rw [passwordGiven_other hOther]
  refine ⟨references_alone state _ draws agrees.refs, fun hAbsent => ?_, fun row hRow => ?_⟩
  · have absent : db.hasUser u = false := Bool.eq_false_iff.mpr fun hUser =>
      Bool.eq_false_iff.mp hAbsent ((later_alone state request draws db).hasUser hUser)
    simp [hAbsent, agrees.absent absent]
  obtain ⟨hMem, rfl⟩ := user_eq_some.mp hRow
  cases hOld : db.user row.id with
  | some old =>
      obtain ⟨hOldMem, hId⟩ := user_eq_some.mp hOld
      rw [passwordHash_alone hOldMem hMem hId.symm hOther]
      simpa [hasUser_eq, hOld] using agrees.stored old hOld
  | none =>
      have new : db.hasUser row.id = false := by rw [hasUser_eq, hOld]; rfl
      obtain ⟨role, plain, hCreation, _, hashes⟩ := created_alone row hMem new
      simpa [new, hasUser_iff.mpr ⟨row, hMem, rfl⟩, hCreation, agrees.absent new] using hashes

/-! ### Logins -/

/-- The join with `roles` finds the role that was assigned. -/
theorem record_role {row : UserRow} {found : UserRecord} {role : Role}
    (h : db.record row = some found) (hRoles : db.roles = (migrated : Db).roles)
    (hRole : db.roleIdFor role.asStr = some row.roleId) : found.toUser.role = role := by
  simp only [Db.record, hRoles] at h
  simp only [Db.roleIdFor, hRoles] at hRole
  cases role <;> obtain hId := Option.some.inj hRole <;>
    · simp only [← hId] at h
      obtain rfl := Option.some.inj h
      rfl

/-- Without a failure the stored password opens a session. -/
theorem login_returns {body : LoginReq} (issuing : Issuing state draws) (new : db.NewSessions draws)
    (refs : db.References) {row : UserRow} (hMem : row ∈ db.users.rows)
    (hEmail : sameEmail row.email (some body.email) = true) (hActive : row.isActive = true)
    {phc : String} (hHash : row.passwordHash = some phc)
    (hVerify : External.argon2Verify body.password phc = .ok true) :
    ∃ pair, outcomeOf (handle state (.login body)) draws db = .ok (.tokenPair pair) := by
  obtain ⟨found, hFind, hColumns, hSecret, _⟩ := refs.findByEmail hMem hEmail
  have hFound : found.toUser.isActive = true :=
    (congrArg UserColumns.isActive hColumns).trans hActive
  rw [hHash] at hSecret
  have hUser : db.hasUser found.toUser.id = true :=
    hasUser_iff.mpr ⟨row, hMem, (congrArg UserColumns.id hColumns).symm⟩
  obtain ⟨pair, hPair, _⟩ :=
    issueTokens_returns (issuing.drop 1) (new.drop 1) hUser found.toUser.role none
  refine ⟨pair, ?_⟩
  simp [outcomeOf, handle, login, ExceptT.run_bind, answer_sql, issuing.fault, Db.exec, hFind,
    UserSecretRecord.toUserWithSecret, hSecret, hVerify, hFound]
  rw [Program.exec_map]
  exact congrArg (Except.map Payload.tokenPair) hPair

/-- What a login that was answered with a pair has found. -/
theorem login_pair {body : LoginReq} {pair : TokenPair}
    (h : outcomeOf (handle state (.login body)) draws db = .ok (.tokenPair pair)) :
    ∃ found, answer (draws.get 0) db (.sql (.findByEmail body.email)) = (.ok (some found), db) ∧
      found.isActive = true ∧
      (∃ phc, found.passwordHash = some phc ∧ External.argon2Verify body.password phc = .ok true) ∧
      ∃ now jti, External.jwtEncode state.jwt.cfg.secret
        (state.jwt.claims found.id found.toUser.role now jti) = .ok pair.accessToken := by
  have written := (course_alone state (.login body) draws db).written
  rw [h] at written
  cases written with
  | answered hRead => cases hRead
  | login reads hHash hVerify hActive session =>
      obtain ⟨now, jti, _, hSigned⟩ := session.signed
      exact ⟨_, Prod.ext (head_alone reads) (wrote_quiet _ _ _ rfl), hActive, ⟨_, hHash, hVerify⟩,
        now, jti, hSigned⟩
  | admin hCall => cases hCall

/-- The user exists and is active. -/
def Db.Active (db : Db) (u : Uuid) : Prop :=
  ∃ row ∈ db.users.rows, row.id = u ∧ row.isActive = true

/-- A hash is verified by the password that it was made from, and by no other. -/
def VerifiesHashes : Prop :=
  ∀ plain salt phc, External.argon2Hash plain salt = .ok phc →
    ∀ p, External.argon2Verify p phc = .ok true ↔ p = plain

/-! ### Histories -/

/-- The stored hash is one of the password that was given last. -/
theorem password_follows_history {history : List (Request × Stream' Draw)}
    (hFaults : ∀ step ∈ history, ∀ n, (step.2.get n).fault = none) (u : Uuid) :
    PasswordAgrees u (serially answer (handle state) history migrated)
      (latest answer (handle state) (passwordGiven state u) history migrated) := by
  have along : Along answer (handle state) (fun _ _ draws => ∀ n, (draws.get n).fault = none)
      history migrated := by
    apply along_of_forall
    intro step hMem _
    exact hFaults step hMem
  apply along.agrees_latest (PasswordAgrees u)
  · refine ⟨migrated_references, fun _ => rfl, ?_⟩
    intro row hRow
    rw [migrated_user] at hRow
    cases hRow
  · intro db request draws given hFault agrees
    exact password_step given hFault agrees

/-- A login that succeeds has presented the password that was given last. -/
theorem given_of_login {given : Uuid → Option String} {e p : String} {pair : TokenPair}
    (hVerifies : VerifiesHashes) (agrees : ∀ u, PasswordAgrees u db (given u))
    (hPair : outcomeOf (handle state (.login ⟨e, p⟩)) draws db = .ok (.tokenPair pair)) :
    ∃ u, db.HasEmail e u ∧ db.Active u ∧ given u = some p := by
  obtain ⟨found, hFound, hActive, ⟨phc, hHash, hVerify⟩, _⟩ := login_pair hPair
  obtain ⟨row, hMem, hEmail, hColumns, hSecret⟩ := findByEmail_reply hFound
  have hRowActive : row.isActive = true :=
    (congrArg UserColumns.isActive hColumns).symm.trans hActive
  refine ⟨row.id, ⟨row, hMem, hEmail, rfl⟩, ⟨row, hMem, rfl, hRowActive⟩, ?_⟩
  have hashes := (agrees row.id).stored row (user_eq_some.mpr ⟨hMem, rfl⟩)
  rw [← hSecret, hHash] at hashes
  cases hGiven : given row.id with
  | none =>
      rw [hGiven] at hashes
      cases hashes
  | some plain =>
      rw [hGiven] at hashes
      obtain ⟨salt, _, hMade, hSame⟩ := hashes
      obtain rfl := Option.some.inj hSame
      rw [(hVerifies _ _ _ hMade p).mp hVerify]

/-- The password that was given last logs in, when the session can be issued. -/
theorem login_of_given {given : Uuid → Option String} {e p : String}
    (hVerifies : VerifiesHashes) (agrees : ∀ u, PasswordAgrees u db (given u))
    (issuing : Issuing state draws) (new : db.NewSessions draws)
    (hUser : ∃ u, db.HasEmail e u ∧ db.Active u ∧ given u = some p) :
    ∃ pair, outcomeOf (handle state (.login ⟨e, p⟩)) draws db = .ok (.tokenPair pair) := by
  obtain ⟨u, ⟨row, hMem, hEmail, rfl⟩, ⟨row', hMem', hId, hActive⟩, hGiven⟩ := hUser
  obtain rfl := userRow_unique hMem' hMem hId
  have hashes := (agrees row'.id).stored row' (user_eq_some.mpr ⟨hMem, rfl⟩)
  rw [hGiven] at hashes
  obtain ⟨salt, phc, hMade, hHash⟩ := hashes
  have hVerify : External.argon2Verify p phc = .ok true := (hVerifies _ _ _ hMade p).mpr rfl
  exact login_returns issuing new (agrees 0).refs hMem hEmail hActive hHash hVerify

/-- The access token of a login names the owner of the address and the assigned role. -/
theorem login_names {given : Option Role} {e p : String} {pair : TokenPair}
    (refs : db.References) (hRoles : db.roles = (migrated : Db).roles)
    (agrees : RoleAgrees u db given) (hOwner : db.HasEmail e u)
    (hPair : outcomeOf (handle state (.login ⟨e, p⟩)) draws db = .ok (.tokenPair pair)) :
    ∃ role now jti, given = some role ∧
      External.jwtEncode state.jwt.cfg.secret (state.jwt.claims u role now jti) =
        .ok pair.accessToken := by
  obtain ⟨row, hMem, hEmail, rfl⟩ := hOwner
  obtain ⟨found, hFound, _, _, now, jti, hSigned⟩ := login_pair hPair
  obtain ⟨stored, hFind, hColumns, _, hRecord⟩ := refs.findByEmail hMem hEmail
  have hSame : db.findByEmail e = some found :=
    Except.ok.inj (congrArg Prod.fst (exec_of_answer hFound))
  obtain rfl := Option.some.inj (hFind.symm.trans hSame)
  obtain ⟨role, hRole, hRoleId⟩ := agrees row (user_eq_some.mpr ⟨hMem, rfl⟩)
  have hId : stored.id = row.id := congrArg UserColumns.id hColumns
  rw [hId, record_role hRecord hRoles hRoleId] at hSigned
  exact ⟨role, now, jti, hRole, hSigned⟩

/-- After any history without faults a login succeeds exactly with the password that
was given last to the active user with this address, and its access token names this
user and the role that was assigned last. -/
theorem login_follows_history (hVerifies : VerifiesHashes)
    {history : List (Request × Stream' Draw)}
    (hFaults : ∀ step ∈ history, ∀ n, (step.2.get n).fault = none)
    (hDb : db = serially answer (handle state) history migrated) (issuing : Issuing state draws)
    (new : db.NewSessions draws) (e p : String) :
    ((∃ pair, outcomeOf (handle state (.login ⟨e, p⟩)) draws db = .ok (.tokenPair pair)) ↔
      ∃ u, db.HasEmail e u ∧ db.Active u ∧
        latest answer (handle state) (passwordGiven state u) history migrated = some p) ∧
    ∀ pair u, outcomeOf (handle state (.login ⟨e, p⟩)) draws db = .ok (.tokenPair pair) →
      db.HasEmail e u → ∃ role now jti,
        latest answer (handle state) (roleGiven state u) history migrated = some role ∧
        External.jwtEncode state.jwt.cfg.secret (state.jwt.claims u role now jti) =
          .ok pair.accessToken := by
  subst hDb
  have agrees (u : Uuid) : PasswordAgrees u (serially answer (handle state) history migrated)
      (latest answer (handle state) (passwordGiven state u) history migrated) :=
    password_follows_history hFaults u
  have later := later_serially state history migrated
  constructor
  · constructor
    · rintro ⟨pair, hPair⟩
      exact given_of_login hVerifies agrees hPair
    · intro hUser
      exact login_of_given hVerifies agrees issuing new hUser
  · intro pair u hPair hOwner
    exact login_names (agrees u).refs later.roles (role_follows_history state history u) hOwner hPair

end Passwords

/-! ### Histories of the reference instance -/

section Runs

/-- The reference instance, whose hashes are unambiguous when salts are in their alphabet. -/
@[reducible] def salted : External :=
  { reference with
    argon2Hash := fun plain salt =>
      if salt.toList.contains '$' then .error "salt invalid" else .ok (salt ++ "$" ++ plain) }

attribute [local instance] salted

theorem salted_verifies : VerifiesHashes := by
  intro plain salt phc hHash p
  change (if salt.toList.contains '$' then _ else _) = _ at hHash
  split at hHash
  · cases hHash
  · next hSalt =>
      obtain rfl := Except.ok.inj hHash
      change Except.ok ((salt ++ "$" ++ plain).toList.dropWhile (· ≠ '$') == '$' :: p.toList) = _ ↔ _
      have hText : (salt ++ "$" ++ plain).toList = salt.toList ++ '$' :: plain.toList := by simp
      have hDrop : (salt.toList ++ '$' :: plain.toList).dropWhile (· ≠ '$') = '$' :: plain.toList := by
        rw [List.dropWhile_append_of_pos]
        · simp
        · intro c hMem
          have hne : c ≠ '$' := by
            rintro rfl
            exact hSalt (by simpa using hMem)
          simpa using hne
      rw [hText, hDrop]
      simp only [Except.ok.injEq, beq_iff_eq, List.cons.injEq, true_and, String.toList_inj]
      exact eq_comm

/-- A user registers, asks for a reset and chooses a new password. -/
def recovery : List (Request × Stream' Draw) :=
  [(.register ⟨"user@example.org", "password", none⟩, moments 0),
    (.forgotPassword ⟨"user@example.org"⟩, moments 20),
    (.resetPassword ⟨resetToken, "new password"⟩, moments 40)]

def recovered : Db := serially answer (handle exampleState) recovery migrated

/-- The user has the address and is active, as a test. -/
def logsIn (db : Db) (e : String) (u : Uuid) : Bool :=
  db.users.rows.any fun row => row.id == u && sameEmail row.email (some e) && row.isActive

theorem account_of_logsIn {db : Db} {e : String} {u : Uuid} (h : logsIn db e u = true) :
    db.HasEmail e u ∧ db.Active u := by
  obtain ⟨row, hMem, hRow⟩ := List.any_eq_true.mp h
  simp only [Bool.and_eq_true, beq_iff_eq] at hRow
  exact ⟨⟨row, hMem, hRow.1.2, hRow.1.1⟩, row, hMem, hRow.1.1, hRow.2⟩

/-- The new password logs in. -/
theorem login_follows_recovery : ∃ pair, outcomeOf
    (handle exampleState (.login ⟨"user@example.org", "new password"⟩)) (momentsAt (moment 60).now)
      recovered = .ok (.tokenPair pair) := by
  have session : ∃ instant, deadline (moment 60).now (TDuration.days 30) = .ok instant := ⟨_, rfl⟩
  have issuing : Issuing exampleState (momentsAt (moment 60).now) :=
    ⟨fun _ => rfl, fun _ _ _ _ => ⟨_, rfl⟩, fun _ => session⟩
  have new : recovered.NewSessions (momentsAt (moment 60).now) :=
    momentsAt_newSessions (moments_newSessions 20 (by decide +kernel))
  obtain ⟨hEmail, hActive⟩ : recovered.HasEmail "user@example.org" firstUser ∧
      recovered.Active firstUser := account_of_logsIn (by decide +kernel)
  have given : latest answer (handle exampleState) (passwordGiven exampleState firstUser) recovery
      migrated = some "new password" := by
    decide +kernel
  have hFaults : ∀ step ∈ recovery, ∀ n, (step.2.get n).fault = none := by
    simp [recovery, moment]
  exact (login_follows_history salted_verifies hFaults rfl issuing new _ _).1.mpr
    ⟨firstUser, hEmail, hActive, given⟩

def farHistory : List (Request × Stream' Draw) :=
  [(.register ⟨"user@example.org", "password", none⟩, moments 0)]

def farStore : Db := serially answer (handle farState) farHistory migrated

/-- The login with the right password panics, since its session would outlast the
calendar. -/
theorem overflow_stops_login :
    VerifiesHashes ∧ (∀ step ∈ farHistory, ∀ n, (step.2.get n).fault = none) ∧
    (∀ n, ((momentsAt farTime).get n).fault = none) ∧ farStore.NewSessions (momentsAt farTime) ∧
    (∀ secret claims, ∃ token, salted.jwtEncode secret claims = .ok token) ∧
    ¬((∃ pair, outcomeOf (handle farState (.login ⟨"user@example.org", "password"⟩))
          (momentsAt farTime) farStore = .ok (.tokenPair pair)) ↔
      ∃ u, farStore.HasEmail "user@example.org" u ∧ farStore.Active u ∧
        latest answer (handle farState) (passwordGiven farState u) farHistory migrated =
          some "password") := by
  refine ⟨salted_verifies, by simp [farHistory, moment], fun _ => rfl,
    momentsAt_newSessions (moments_newSessions 20 (by decide +kernel)), fun _ _ => ⟨_, rfl⟩,
    fun claimed => ?_⟩
  have failed : stopped (outcomeOf (handle farState (.login ⟨"user@example.org", "password"⟩))
      (momentsAt farTime) farStore) = true := by
    decide +kernel
  obtain ⟨hEmail, hActive⟩ : farStore.HasEmail "user@example.org" firstUser ∧
      farStore.Active firstUser := account_of_logsIn (by decide +kernel)
  have given : latest answer (handle farState) (passwordGiven farState firstUser) farHistory
      migrated = some "password" := by
    decide +kernel
  obtain ⟨pair, hPair⟩ := claimed.mpr ⟨firstUser, hEmail, hActive, given⟩
  rw [hPair] at failed
  cases failed

end Runs

end GenericAuth
