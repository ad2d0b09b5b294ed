import GenericAuth.Api.Written
import GenericAuth.Db.Ownership
import GenericAuth.Db.Rows
import GenericAuth.Properties.AccountIsolation
import GenericAuth.Properties.RefreshFailure

/-! The live sessions of all users, before and after a request: who gains one, who
loses one, and that nobody else does. -/
namespace GenericAuth

open Interaction Relational

section Accounting

variable [External]

/-- The sessions of a user that are live at a time. -/
def Db.sessions (db : Db) (t : OffsetDateTime) (u : Uuid) : List RefreshTokenRow :=
  db.refreshTokens.rows.filter fun row =>
    row.userId == u && row.revokedAt.isNone && decide (t < row.expiresAt)

/-- The user of the pair gains the one session that it gives access to. -/
def Opened (state : AppState) (t : OffsetDateTime) (before after : Db) (pair : TokenPair)
    (v : Uuid) : Prop :=
  SignedFor state v pair.accessToken ∧ ∃ row : RefreshTokenRow, row.userId = v ∧
    row.tokenHash = hashRefreshToken pair.refreshToken ∧
    ∀ u, after.sessions t u = before.sessions t u ++ if u = v then [row] else []

/-- A live session is replaced by the one of the pair, of the same user. -/
def Rotated (state : AppState) (t : OffsetDateTime) (before after : Db) (tokenHash : String)
    (pair : TokenPair) (v : Uuid) : Prop :=
  SignedFor state v pair.accessToken ∧ ∃ old ∈ before.sessions t v, old.tokenHash = tokenHash ∧
    ∃ row : RefreshTokenRow, row.userId = v ∧ row.tokenHash = hashRefreshToken pair.refreshToken ∧
      ∀ u, after.sessions t u = (before.sessions t u).filter (· != old) ++ if u = v then [row] else []

/-- What a request does to the live sessions, given how it ends. -/
def Accounted (state : AppState) (t : OffsetDateTime) (before after : Db) :
    Request → Outcome → Prop
  | .register _, .ok payload | .login _, .ok payload | .googleCallback _, .ok payload =>
      ∃ pair v, payload = .tokenPair pair ∧ Opened state t before after pair v
  | .refresh body, .ok payload => ∃ pair v, payload = .tokenPair pair ∧
      Rotated state t before after (hashRefreshToken body.refreshToken) pair v
  | .logout body, .ok _ => ∀ u, after.sessions t u = (before.sessions t u).filter
      fun row => row.tokenHash != hashRefreshToken body.refreshToken
  | .resetPassword body, .ok _ => ∃ v, Owns before.passwordResetTokens (sha256Hex body.token) v ∧
      ∀ u, after.sessions t u = if u = v then [] else before.sessions t u
  | _, _ => ∀ u, after.sessions t u = before.sessions t u

variable {state : AppState} {request : Request} {draws : Stream' Draw} {draw : Draw}
    {db db' after : Db} {op : Op} {reply : op.Reply} {t : OffsetDateTime}

/-! ### Single calls -/

theorem refreshTokens_rows (h : answer draw db op = (reply, db')) :
    db'.refreshTokens.rows = db.refreshTokens.rows.map (RefreshTokenRow.after draw ⟨op, reply⟩) ++
      RefreshTokenRow.inserted draw ⟨op, reply⟩ := by
  have hRows := answer_refreshTokens draw db op
  rwa [h] at hRows

theorem sessions_congr (h : db'.refreshTokens = db.refreshTokens) (u : Uuid) :
    db'.sessions t u = db.sessions t u := by
  rw [Db.sessions, h, Db.sessions]

theorem traced_keepsSessions {calls : Calls} (traced : Traced answer db calls after)
    (h : calls.all keepsSessions = true) : after.refreshTokens = db.refreshTokens := by
  induction traced with
  | nil => rfl
  | cons draw rest ih =>
      rw [List.all_cons, Bool.and_eq_true] at h
      rw [ih h.2, answer_keepsSessions h.1]

theorem sessions_store {v id : Uuid} {tokenHash : String} {expiresAt : OffsetDateTime}
    {userAgent : Option String} (hLive : t < expiresAt)
    (h : answer draw db (.sql (.storeRefreshToken v tokenHash expiresAt userAgent)) = (.ok id, db')) :
    ∃ row : RefreshTokenRow, row.userId = v ∧ row.tokenHash = tokenHash ∧
      ∀ u, db'.sessions t u = db.sessions t u ++ if u = v then [row] else [] := by
  refine ⟨⟨draw.uuid, v, tokenHash, draw.dbNow, expiresAt, none, userAgent⟩, rfl, rfl, fun u => ?_⟩
  rw [Db.sessions, refreshTokens_rows h, List.filter_append]
  have same : db.refreshTokens.rows.map (RefreshTokenRow.after draw
      ⟨.sql (.storeRefreshToken v tokenHash expiresAt userAgent), .ok id⟩) = db.refreshTokens.rows :=
    List.map_id _
  rw [same, RefreshTokenRow.inserted, List.filter_cons, List.filter_nil]
  by_cases hUser : u = v
  · simp [hUser, hLive, Db.sessions]
  · simp [hUser, Ne.symm hUser, Db.sessions]

theorem sessions_revoke {tokenHash : String} {rows : Unit}
    (h : answer draw db (.sql (.revokeRefreshToken tokenHash)) = (.ok rows, db')) (u : Uuid) :
    db'.sessions t u = (db.sessions t u).filter fun row => row.tokenHash != tokenHash := by
  obtain ⟨-, rfl⟩ := Prod.mk.inj (exec_of_answer h)
  rw [Db.sessions, Db.sessions, List.filter_filter]
  refine (Table.filter_dropped rfl fun row _ => ?_).trans (List.filter_congr fun row _ => ?_)
  · simp
  · exact Bool.and_comm _ _

theorem sessions_revokeAll {v : Uuid} {rows : Unit}
    (h : answer draw db (.sql (.revokeAllRefreshTokens v)) = (.ok rows, db')) (u : Uuid) :
    db'.sessions t u = if u = v then [] else db.sessions t u := by
  obtain ⟨-, rfl⟩ := Prod.mk.inj (exec_of_answer h)
  have hRows : (db.revokeAllRefreshTokens draw v).sessions t u = db.refreshTokens.rows.filter
      fun row => (row.userId == u && row.revokedAt.isNone && decide (t < row.expiresAt)) &&
        !(row.userId == v && row.revokedAt.isNone) :=
    Table.filter_dropped rfl fun row _ => by simp
  rw [hRows, Db.sessions]
  split
  · next same =>
      apply List.filter_eq_nil_iff.mpr
      intro row _
      simp +contextual [same]
  · next other =>
      apply List.filter_congr
      intro row _
      by_cases hUser : row.userId = u
      · simp [hUser, other]
      · simp [hUser]

/-! ### New sessions -/

omit [External] in
/-- A positive number of days leads to a later instant. -/
theorem lt_deadline {days : Int64} (hDays : 0 < days) {expiresAt : OffsetDateTime}
    (h : deadline t (TDuration.days days) = .ok expiresAt) : t < expiresAt := by
  have hPositive : 0 < days.toInt := Int64.lt_iff_toInt_lt.mp hDays
  have hLength : (0 : Int) < days.toInt * 86400 * 1000000 := by omega
  rw [(eq_of_deadline h).1]
  exact Int.lt_add_of_pos_right t hLength

omit [External] in
/-- Where that instant is in range, so is the one of a day later. -/
theorem deadline_day {days : Int64} (hDays : 0 < days) {t expiresAt : Int}
    (hInstant : OffsetDateTime.least ≤ t) (h : deadline t (TDuration.days days) = .ok expiresAt) :
    deadline t (TDuration.hours 24) = .ok (t + 86400000000) := by
  have hPositive : 0 < days.toInt := Int64.lt_iff_toInt_lt.mp hDays
  obtain ⟨hExpiry, hGreatest⟩ := eq_of_deadline h
  have hDay : t + 86400000000 ≤ OffsetDateTime.greatest := by omega
  have hLeast : OffsetDateTime.least ≤ t + 86400000000 :=
    Int.le_trans hInstant (Int.le_add_of_nonneg_right (by decide))
  have hHours : TDuration.hours 24 = some 86400000000 := rfl
  simp [hHours, deadline, OffsetDateTime.checkedAdd, hDay, hLeast]

theorem Session.opened {calls : Calls} {v : Uuid} {role : Role} {pair : TokenPair}
    {store : Call Op Op.Reply} (session : Session state calls v role pair store)
    (traced : Traced answer db [store] after) (hTtl : 0 < state.settings.auth.jwtRefreshTtlDays)
    (hNow : ∀ now, (⟨.nowUtc, now⟩ : Call Op Op.Reply) ∈ calls → now = t) :
    Opened state t db after pair v := by
  obtain ⟨⟨now, jti, _, hSigned⟩, instant, expiresAt, id, hInstant, hDeadline, rfl⟩ := session
  obtain ⟨draw, middle, hStore, rest⟩ := traced.of_cons
  obtain rfl := rest.eq_of_nil
  rw [hNow instant hInstant] at hDeadline
  exact ⟨⟨role, now, jti, hSigned⟩, sessions_store (lt_deadline hTtl hDeadline) hStore⟩

/-- Sessions that no call has touched are the same before. -/
theorem Opened.of_same {middle : Db} {pair : TokenPair} {v : Uuid}
    (opened : Opened state t middle after pair v) (h : middle.refreshTokens = db.refreshTokens) :
    Opened state t db after pair v := by
  obtain ⟨signed, row, hUser, hHash, hSessions⟩ := opened
  refine ⟨signed, row, hUser, hHash, fun u => ?_⟩
  rw [hSessions u, sessions_congr h]

theorem Opened.to_same {pair : TokenPair} {v : Uuid} (opened : Opened state t db db' pair v)
    (h : after.refreshTokens = db'.refreshTokens) : Opened state t db after pair v := by
  obtain ⟨signed, row, hUser, hHash, hSessions⟩ := opened
  refine ⟨signed, row, hUser, hHash, fun u => ?_⟩
  rw [sessions_congr h, hSessions u]

/-! ### Requests -/

theorem accounted_error {stop : Stop} (h : ∀ u, after.sessions t u = db.sessions t u) :
    Accounted state t db after request (.error stop) := by
  cases request <;> exact h

theorem accounted_read {payload : Payload} (hRead : request.mayOnlyRead = true)
    (h : ∀ u, after.sessions t u = db.sessions t u) :
    Accounted state t db after request (.ok payload) := by
  cases request with
  | register | login | refresh | logout | verifyEmail | resetPassword | googleCallback | setRole
  | setActive | grantPermission | createAdmin => cases hRead
  | _ => exact h

/-- The looked-up session is live, and the one row with its hash. -/
theorem session_read {Result : Type} {program : Server Result} {tokenHash : String} {owner : Uuid}
    {expiresAt now : OffsetDateTime}
    (reads : [⟨.sql (.lookupRefreshToken tokenHash), .ok (some (owner, expiresAt, none))⟩,
      ⟨.nowUtc, now⟩] <+: callsOf program draws db) (hLive : now < expiresAt) :
    ∃ old ∈ db.sessions now owner, old.tokenHash = tokenHash ∧ old.userId = owner := by
  obtain ⟨_, hLook⟩ := reads_alone reads (by simp [wrote]) List.mem_cons_self
  obtain ⟨row, hMem, hHash, rfl, rfl, hNone⟩ := lookupRefreshToken_reply hLook
  exact ⟨row, List.mem_filter.mpr ⟨hMem, by simp [hNone, hLive]⟩, hHash, rfl⟩

theorem mem_sessions {u : Uuid} {row : RefreshTokenRow} :
    row ∈ db.sessions t u ↔ row ∈ db.refreshTokens.rows ∧ row.userId = u ∧ row.revokedAt = none ∧
      t < row.expiresAt := by
  simp [Db.sessions, and_assoc]

/-- Without the row of a hash is without the rows that have the hash. -/
theorem sessions_without {u v : Uuid} {old : RefreshTokenRow} (hMem : old ∈ db.sessions t v) :
    ((db.sessions t u).filter fun row => row.tokenHash != old.tokenHash) =
      (db.sessions t u).filter (· != old) := by
  apply List.filter_congr
  intro row hRow
  by_cases hHash : row.tokenHash = old.tokenHash
  · rw [refreshToken_unique (mem_sessions.mp hRow).1 (mem_sessions.mp hMem).1 hHash]
    simp
  · have hne : row ≠ old := fun h => hHash (h ▸ rfl)
    rw [bne_iff_ne.mpr hHash, bne_iff_ne.mpr hne]

/-- A live session that is revoked before the next one is stored. -/
theorem Session.rotated {calls : Calls} {v : Uuid} {role : Role} {pair : TokenPair}
    {store : Call Op Op.Reply} {old : RefreshTokenRow}
    (session : Session state calls v role pair store) (hOld : old ∈ db.sessions t v)
    (traced : Traced answer db [⟨.sql (.revokeRefreshToken old.tokenHash), .ok ()⟩, store] after)
    (hTtl : 0 < state.settings.auth.jwtRefreshTtlDays)
    (hNow : ∀ now, (⟨.nowUtc, now⟩ : Call Op Op.Reply) ∈ calls → now = t) :
    Rotated state t db after old.tokenHash pair v := by
  obtain ⟨_, middle, hRevoke, rest⟩ := traced.of_cons
  obtain ⟨signed, row, hUser, hNew, hSessions⟩ := session.opened rest hTtl hNow
  refine ⟨signed, old, hOld, rfl, row, hUser, hNew, ?_⟩
  intro u
  rw [hSessions u, sessions_revoke hRevoke, sessions_without hOld]

/-- A reset that went through has ended the sessions of the token's owner, and no other. -/
theorem sessions_reset {v : Uuid} {phc tokenHash : String}
    (traced : Traced answer db
      [⟨.sql (.consumePasswordResetToken tokenHash), .ok (some v)⟩,
        ⟨.sql (.updatePasswordHash phc v), .ok ()⟩,
        ⟨.sql (.revokeAllRefreshTokens v), .ok ()⟩] after) :
    Owns db.passwordResetTokens tokenHash v ∧
      ∀ u, after.sessions t u = if u = v then [] else db.sessions t u := by
  obtain ⟨middle, early, late⟩ := traced.split 2
  obtain ⟨_, _, hConsume, _⟩ := early.of_cons
  obtain ⟨_, _, hRevoke, rest⟩ := late.of_cons
  refine ⟨(consumed_owner hConsume).1, ?_⟩
  intro u
  rw [rest.eq_of_nil, sessions_revokeAll hRevoke, sessions_congr (traced_keepsSessions early rfl)]

theorem Written.accounted {calls : Calls} {outcome : Outcome}
    (written : Written state calls request outcome)
    (hCalls : callsOf (handle state request) draws db = calls)
    (hOutcome : outcomeOf (handle state request) draws db = outcome)
    (traced : Traced answer db (writes calls) after) (refs : db.References)
    (clock : ∀ n, (draws.get n).now = t) (hInstant : OffsetDateTime.least ≤ t)
    (hTtl : 0 < state.settings.auth.jwtRefreshTtlDays)
    (reissues : ∀ body, request = .refresh body → Issuing state draws ∧ db.NewSessions draws) :
    Accounted state t db after request outcome := by
  have hNow (now : OffsetDateTime) (hMem : (⟨.nowUtc, now⟩ : Call Op Op.Reply) ∈ calls) : now = t := by
    rw [← hCalls] at hMem
    obtain ⟨n, _, rfl⟩ := Program.mem_trace answer hMem
    exact clock n
  have kept (h : (writes calls).all keepsSessions = true) (u : Uuid) :
      after.sessions t u = db.sessions t u := sessions_congr (traced_keepsSessions traced h) u
  cases written with
  | refused stop quiet => exact accounted_error (kept (by simp [quiet]))
  | answered hRead quiet => exact accounted_read hRead (kept (by simp [quiet]))
  | login reads hHash hVerify hActive session hWrites =>
      rw [hWrites] at traced
      exact ⟨_, _, rfl, session.opened traced hTtl hNow⟩
  | @refreshLost body owner expiresAt now stop reads hLive hWrites =>
      have hRead : now = t := hNow now (reads.subset (by simp))
      rw [← hCalls] at reads
      obtain ⟨old, hOld, hHash, _⟩ := session_read reads hLive
      obtain ⟨hMem, _, hNone, hUnexpired⟩ := mem_sessions.mp hOld
      rw [hRead, ← clock 1] at hUnexpired
      obtain ⟨issuing, new⟩ := reissues body rfl
      obtain ⟨pair, hPair⟩ := refresh_returns issuing new refs hMem hNone hHash hUnexpired
      rw [hPair] at hOutcome
      cases hOutcome
  | @refresh body owner expiresAt now found pair store reads hLive hFound session hWrites =>
      have hRead : now = t := hNow now (reads.subset (by simp))
      rw [← hCalls] at reads hFound
      rw [hWrites] at traced
      obtain ⟨old, hOld, hHash, _⟩ := session_read reads hLive
      rw [hRead] at hOld
      rw [found_id hFound] at session
      rw [← hHash] at traced
      have rotated := session.rotated hOld traced hTtl hNow
      rw [hHash] at rotated
      exact ⟨pair, owner, rfl, rotated⟩
  | logout hWrites =>
      rw [hWrites] at traced
      obtain ⟨_, _, hRevoke, rest⟩ := traced.of_cons
      rw [rest.eq_of_nil]
      exact sessions_revoke hRevoke
  | verifyLost userId stop hWrites => exact accounted_error (kept (by simp [hWrites, keepsSessions]))
  | verify userId hWrites => exact kept (by simp [hWrites, keepsSessions])
  | resend tokenHash expiresAt reads presents hWrites => exact kept (by simp [hWrites, keepsSessions])
  | forgot tokenHash expiresAt reads hWrites => exact kept (by simp [hWrites, keepsSessions])
  | resetLost userId stop hWrites => exact accounted_error (kept (by simp [hWrites, keepsSessions]))
  | resetHalf userId phc stop _ hWrites =>
      exact accounted_error (kept (by simp [hWrites, keepsSessions]))
  | reset userId phc hWrites =>
      rw [hWrites] at traced
      exact ⟨userId, sessions_reset traced⟩
  | bindLost stop reads hWrites => exact accounted_error (kept (by simp [hWrites, keepsSessions]))
  | bind reads session hWrites =>
      rw [hWrites] at traced
      obtain ⟨middle, early, late⟩ := traced.split 1
      refine ⟨_, _, rfl, (session.opened late hTtl hNow).of_same ?_⟩
      exact traced_keepsSessions early rfl
  | signUpLost roleId columns stop reads hWrites =>
      rcases prefix_pair hWrites with quiet | single | both
      · exact accounted_error (kept (by simp [quiet]))
      · exact accounted_error (kept (by simp [single, keepsSessions]))
      · exact accounted_error (kept (by simp [both, keepsSessions]))
  | signUp roleId columns reads session hWrites =>
      rw [hWrites] at traced
      obtain ⟨middle, early, late⟩ := traced.split 2
      refine ⟨_, _, rfl, (session.opened late hTtl hNow).of_same ?_⟩
      exact traced_keepsSessions early rfl
  | registerLost phc roleId columns stop hWrites =>
      exact accounted_error (kept (by simp [hWrites, keepsSessions]))
  | registerPanic phc roleId columns hAt hMail session hWrites =>
      obtain ⟨_, stored, expiresAt, _, hStored, hDeadline, _⟩ := session
      rw [hNow _ hStored] at hDeadline
      rw [hNow _ hAt, deadline_day hTtl hInstant hDeadline] at hMail
      cases hMail
  | @register body phc roleId columns pair store more session hMail hWrites =>
      rw [hWrites] at traced
      obtain ⟨stored, early, late⟩ := traced.of_append
      obtain ⟨inserted, first, second⟩ := early.split 1
      have opened := (session.opened second hTtl hNow).of_same (traced_keepsSessions first rfl)
      refine ⟨pair, columns.id, rfl, opened.to_same (traced_keepsSessions late ?_)⟩
      rcases hMail with rfl | ⟨found, tokenHash, expiresAt, _, rfl⟩ <;> rfl
  | createAdmin phc roleId columns hWrites => exact kept (by simp [hWrites, keepsSessions])
  | @admin request authorization p payload write hCall hWrite hWrites =>
      cases request with
      | setRole authorization id body =>
          obtain ⟨roleId, rfl⟩ := hWrite
          exact kept (by simp [hWrites, keepsSessions])
      | setActive authorization id body | grantPermission authorization id body =>
          obtain rfl := hWrite
          exact kept (by simp [hWrites, keepsSessions])
      | _ => exact hWrite.elim

/-- A request over any reachable store that is executed at one instant changes the live
sessions exactly as its answer says. Of a refresh this asks that nothing fails, that its
tokens are new and that the date of its session is in range, and then it succeeds exactly
if the presented token has a live session. -/
theorem session_accounting {pool : ServerPool} (run : ServerRun state migrated pool)
    (clock : ∀ n, (draws.get n).now = t) (hInstant : OffsetDateTime.least ≤ t)
    (hTtl : 0 < state.settings.auth.jwtRefreshTtlDays) (request : Request)
    (reissues : ∀ body, request = .refresh body →
      Issuing state draws ∧ pool.store.NewSessions draws) :
    Accounted state t pool.store (storeAfter (handle state request) draws pool.store) request
      (outcomeOf (handle state request) draws pool.store) ∧
    ∀ body, request = .refresh body →
      ((∃ payload, outcomeOf (handle state request) draws pool.store = .ok payload) ↔
        ∃ v, ∃ row ∈ pool.store.sessions t v, row.tokenHash = hashRefreshToken body.refreshToken) := by
  have accounted := (course_alone state request draws pool.store).written.accounted rfl rfl
    (traced_writes ..) run.references clock hInstant hTtl reissues
  refine ⟨accounted, ?_⟩
  rintro body rfl
  constructor
  · rintro ⟨payload, hPayload⟩
    rw [hPayload] at accounted
    obtain ⟨_, v, _, _, old, hOld, hHash, _⟩ := accounted
    exact ⟨v, old, hOld, hHash⟩
  · rintro ⟨v, row, hRow, hHash⟩
    obtain ⟨hMem, _, hNone, hUnexpired⟩ := mem_sessions.mp hRow
    rw [← clock 1] at hUnexpired
    obtain ⟨issuing, new⟩ := reissues body rfl
    obtain ⟨pair, hPair⟩ := refresh_returns issuing new run.references hMem hNone hHash hUnexpired
    exact ⟨_, hPair⟩

end Accounting

/-! ### Runs of the reference instance -/

section Runs

attribute [local instance] reference

theorem session_accounting_refreshing : ∃ pair v, Rotated exampleState (moment 20).now
    registered.store (storeAfter (handle exampleState (.refresh ⟨firstToken⟩))
      (momentsAt (moment 20).now) registered.store) (hashRefreshToken firstToken) pair v := by
  have session : ∃ instant, deadline (moment 20).now (TDuration.days 30) = .ok instant := ⟨_, rfl⟩
  have issuing : Issuing exampleState (momentsAt (moment 20).now) :=
    ⟨fun _ => rfl, fun _ _ _ _ => ⟨_, rfl⟩, fun _ => session⟩
  have live : ((registered.store.sessions (moment 20).now firstUser).any fun row =>
      row.tokenHash == hashRefreshToken firstToken) = true := by
    decide +kernel
  obtain ⟨row, hRow, hHash⟩ := List.any_eq_true.mp live
  obtain ⟨accounted, succeeds⟩ :=
    session_accounting registered_run (fun _ => rfl) (by decide) (by decide)
    (.refresh ⟨firstToken⟩) fun _ _ =>
      ⟨issuing, momentsAt_newSessions (moments_newSessions 20 (by decide +kernel))⟩
  obtain ⟨payload, hPayload⟩ := (succeeds _ rfl).mpr ⟨firstUser, row, hRow, beq_iff_eq.mp hHash⟩
  rw [hPayload] at accounted
  obtain ⟨pair, v, _, rotated⟩ := accounted
  exact ⟨pair, v, rotated⟩

def farRegistered : ServerPool :=
  Pool.play answer (handle farState) migrated registration

/-- The refresh panics after it has revoked the session. -/
theorem overflow_loses_session :
    ServerRun farState migrated farRegistered ∧ 0 < farState.settings.auth.jwtRefreshTtlDays ∧
    (∀ n, ((momentsAt farTime).get n).fault = none ∧ ((momentsAt farTime).get n).now = farTime ∧
      ((momentsAt farTime).get n).dbNow = farTime) ∧
    farRegistered.store.NewSessions (momentsAt farTime) ∧
    (∀ plain salt, ∃ phc, reference.argon2Hash plain salt = .ok phc) ∧
    (∀ secret claims, ∃ token, reference.jwtEncode secret claims = .ok token) ∧
    Function.Injective reference.sha256Hex ∧
    ¬Accounted farState farTime farRegistered.store
      (storeAfter (handle farState (.refresh ⟨firstToken⟩)) (momentsAt farTime) farRegistered.store)
      (.refresh ⟨firstToken⟩)
      (outcomeOf (handle farState (.refresh ⟨firstToken⟩)) (momentsAt farTime) farRegistered.store) := by
  refine ⟨Runs.play _, by decide, fun _ => ⟨rfl, rfl, rfl⟩,
    momentsAt_newSessions (moments_newSessions 20 (by decide +kernel)), fun _ _ => ⟨_, rfl⟩,
    fun _ _ => ⟨_, rfl⟩, reference_sha256Hex_injective, fun accounted => ?_⟩
  have failed : stopped (outcomeOf (handle farState (.refresh ⟨firstToken⟩)) (momentsAt farTime)
      farRegistered.store) = true := by
    decide +kernel
  have lost : (storeAfter (handle farState (.refresh ⟨firstToken⟩)) (momentsAt farTime)
      farRegistered.store).sessions farTime firstUser ≠
        farRegistered.store.sessions farTime firstUser := by
    decide +kernel
  obtain ⟨stop, hStop⟩ := error_of_stopped failed
  rw [hStop] at accounted
  exact lost (accounted firstUser)

end Runs

end GenericAuth
