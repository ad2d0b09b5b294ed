import GenericAuth.Properties.AccessLifetime

/-! Whether the lifetimes of the settings can be added to the clock. The seconds of an
access token are 64-bit numbers that wrap around, a session's expiry date ends the
process beyond the calendar, and no setting is checked. -/
namespace GenericAuth

open Interaction

section Issuance

variable [External] {settings : Settings} {state : AppState} {userId : Uuid} {role : Role}
    {userAgent : Option String} {draws : Stream' Draw} {db : Db} {calls : Calls}
    {outcome : Except Stop TokenPair}

/-! ### Access tokens -/

/-- The claims that are signed when issuing begins with these draws. -/
def signed (state : AppState) (userId : Uuid) (role : Role) (draws : Stream' Draw) : Claims :=
  state.jwt.claims userId role (draws.get 0).now (draws.get 1).uuid

/-- The claims are dated now, and expire after `m` minutes. -/
structure AccessExact (m : Int64) (now : OffsetDateTime) (claims : Claims) : Prop where
  issued : claims.iat.toInt = now / 1000000
  expiry : claims.exp.toInt = now / 1000000 + 60 * m.toInt
  later : claims.iat < claims.exp

/-- The time of expiry lies ahead, and is a 64-bit number of seconds. -/
def AccessFits (m : Int64) (now : OffsetDateTime) : Prop :=
  0 < m.toInt ∧ now / 1000000 + 60 * m.toInt < 2 ^ 63

/-- The clock shows a time from 1970 on that has a date. -/
def Dated (now : OffsetDateTime) : Prop := 0 ≤ now ∧ now ≤ OffsetDateTime.greatest

omit [External] in
theorem Dated.toInt_unixTimestamp {now : Int} (dated : Dated now) :
    (OffsetDateTime.unixTimestamp now).toInt = now / 1000000 := by
  have hStart : 0 ≤ now := dated.1
  have hEnd : now ≤ 253402300800 * 1000000 - 1 := dated.2
  exact Int64.toInt_ofInt_of_le (by omega) (by omega)

omit [External] in
theorem accessExact_iff (codec : JwtCodec) (userId : Uuid) (role : Role) {now : Int} (jti : Uuid)
    (dated : Dated now) :
    AccessExact codec.cfg.accessTtlMin now (codec.claims userId role now jti) ↔
      AccessFits codec.cfg.accessTtlMin now := by
  have hIssued : (codec.claims userId role now jti).iat.toInt = now / 1000000 :=
    dated.toInt_unixTimestamp
  have hStart : 0 ≤ now := dated.1
  constructor
  · intro exact
    have hExpiry : (codec.claims userId role now jti).exp.toInt =
      now / 1000000 + 60 * codec.cfg.accessTtlMin.toInt := exact.expiry
    have hLater := Int64.lt_iff_toInt_lt.mp exact.later
    have hBound := (codec.claims userId role now jti).exp.toInt_lt
    rw [hExpiry] at hLater hBound
    rw [hIssued] at hLater
    exact ⟨by omega, hBound⟩
  · rintro ⟨positive, h⟩
    have hBound : now / 1000000 + 60 * codec.cfg.accessTtlMin.toInt < 2 ^ 63 := h
    have range : InRange codec.cfg.accessTtlMin (OffsetDateTime.unixTimestamp now) :=
      ⟨positive, by omega, by rw [dated.toInt_unixTimestamp]; omega⟩
    have hExpiry : (codec.claims userId role now jti).exp.toInt =
        now / 1000000 + 60 * codec.cfg.accessTtlMin.toInt := by
      rw [Int.mul_comm, ← dated.toInt_unixTimestamp]
      exact range.toInt_expiry
    refine ⟨hIssued, hExpiry, Int64.lt_iff_toInt_lt.mpr ?_⟩
    rw [hIssued, hExpiry]
    omega

omit [External] in
theorem AccessFits.toInt_lifetime {m : Int64} {now : Int} (fits : AccessFits m now)
    (dated : Dated now) : (m * 60).toInt = 60 * m.toInt := by
  have hStart : 0 ≤ now := dated.1
  have hBound : now / 1000000 + 60 * m.toInt < 2 ^ 63 := fits.2
  rw [GenericAuth.toInt_lifetime fits.1 (by omega), Int.mul_comm]

/-! ### Runs that issue tokens -/

/-- The sum of the clock and `d` days lies ahead, and has a date. -/
def SessionFits (d : Int64) (now : OffsetDateTime) : Prop :=
  0 < d.toInt ∧ now + d.toInt * 86400 * 1000000 ≤ OffsetDateTime.greatest

omit [External] in
theorem sessionFits_iff {d : Int64} {now : Int} (dated : Dated now) :
    SessionFits d now ↔
      ∃ expiresAt : Int, deadline now (TDuration.days d) = .ok expiresAt ∧ now < expiresAt := by
  constructor
  · rintro ⟨hDays, hEnd⟩
    exact ⟨_, deadline_of_le dated.1 hDays hEnd, by omega⟩
  · rintro ⟨expiresAt, hDeadline, hLater⟩
    obtain ⟨rfl, hEnd⟩ := eq_of_deadline hDeadline
    exact ⟨by omega, hEnd⟩

/-- Both lifetimes fit, each at the time that it is added to. -/
def Fits (state : AppState) (draws : Stream' Draw) : Prop :=
  AccessFits state.settings.auth.jwtAccessTtlMin (draws.get 0).now ∧
    SessionFits state.settings.auth.jwtRefreshTtlDays (draws.get 3).now

/-- Nothing overflows where issuing begins with these draws: the claims are exact, the
pair announces the time between their dates, a session is stored until `d` days after the
clock, and the process goes on. -/
structure Exact (state : AppState) (userId : Uuid) (role : Role) (draws : Stream' Draw)
    (calls : Calls) (outcome : Except Stop TokenPair) : Prop where
  access : AccessExact state.settings.auth.jwtAccessTtlMin (draws.get 0).now
    (signed state userId role draws)
  announced : ∀ pair, outcome = .ok pair → pair.accessExpiresIn.toInt =
    (signed state userId role draws).exp.toInt - (signed state userId role draws).iat.toInt
  stored : ∀ owner tokenHash expiresAt userAgent reply,
    ⟨.sql (.storeRefreshToken owner tokenHash expiresAt userAgent), reply⟩ ∈ calls →
      expiresAt = (draws.get 3).now +
          state.settings.auth.jwtRefreshTtlDays.toInt * 86400 * 1000000 ∧
        (draws.get 3).now < expiresAt
  proceeds : ∀ message, outcome ≠ .error (.panic message)

theorem issueTokens_stops (userAgent : Option String) (db : Db) {token : String} {stop : Stop}
    (hToken : External.jwtEncode state.jwt.cfg.secret (signed state userId role draws) = .ok token)
    (hDeadline : deadline (draws.get 3).now
      (TDuration.days state.settings.auth.jwtRefreshTtlDays) = .error stop) :
    outcomeOf (issueTokens state userId role userAgent).run draws db = .error stop := by
  have hAccess : External.jwtEncode state.jwt.cfg.secret
      (state.jwt.claims userId role draws.head.now (draws.get 1).uuid) = .ok token := hToken
  simp [outcomeOf, issueTokens, ExceptT.run_bind, hAccess, hDeadline]

/-- A session whose date is in range is stored, or at least tried to be. -/
theorem issueTokens_calls (userAgent : Option String) (db : Db) {token : String}
    {expiresAt : OffsetDateTime}
    (hToken : External.jwtEncode state.jwt.cfg.secret (signed state userId role draws) = .ok token)
    (hDeadline : deadline (draws.get 3).now
      (TDuration.days state.settings.auth.jwtRefreshTtlDays) = .ok expiresAt) :
    ∃ reply, callsOf (issueTokens state userId role userAgent).run draws db =
      [⟨.nowUtc, (draws.get 0).now⟩, ⟨.newV4, (draws.get 1).uuid⟩,
        ⟨.randomBytes, (draws.get 2).bytes⟩, ⟨.nowUtc, (draws.get 3).now⟩,
        ⟨.sql (.storeRefreshToken userId (hashRefreshToken (hexEncode (draws.get 2).bytes))
          expiresAt userAgent), reply⟩] := by
  have hAccess : External.jwtEncode state.jwt.cfg.secret
      (state.jwt.claims userId role draws.head.now (draws.get 1).uuid) = .ok token := hToken
  refine ⟨(answer (draws.get 4) db (.sql (.storeRefreshToken userId
    (hashRefreshToken (hexEncode (draws.get 2).bytes)) expiresAt userAgent))).1, ?_⟩
  simp [callsOf, Program.trace, issueTokens, ExceptT.run_bind, hAccess, hDeadline]

theorem issueTokens_outcome (userAgent : Option String) (db : Db) {token : String}
    {expiresAt : OffsetDateTime}
    (hToken : External.jwtEncode state.jwt.cfg.secret (signed state userId role draws) = .ok token)
    (hDeadline : deadline (draws.get 3).now
      (TDuration.days state.settings.auth.jwtRefreshTtlDays) = .ok expiresAt) :
    (∃ e, outcomeOf (issueTokens state userId role userAgent).run draws db = .error (.err e)) ∨
      ∃ refreshToken, outcomeOf (issueTokens state userId role userAgent).run draws db =
        .ok ⟨token, refreshToken, state.settings.auth.jwtAccessTtlMin * 60⟩ := by
  have hAccess : External.jwtEncode state.jwt.cfg.secret
      (state.jwt.claims userId role draws.head.now (draws.get 1).uuid) = .ok token := hToken
  simp [outcomeOf, issueTokens, ExceptT.run_bind, hAccess, hDeadline]
  rcases answer (draws.get 4) db (.sql (.storeRefreshToken userId
      (hashRefreshToken (hexEncode (draws.get 2).bytes)) expiresAt userAgent)) with
    ⟨error | id, db'⟩
  · exact .inl ⟨_, rfl⟩
  · exact .inr ⟨_, rfl⟩

theorem issueTokens_exact (userAgent : Option String) (db : Db) {token : String}
    {expiresAt : OffsetDateTime}
    (access : AccessExact state.settings.auth.jwtAccessTtlMin (draws.get 0).now
      (signed state userId role draws))
    (hLifetime : (state.settings.auth.jwtAccessTtlMin * 60).toInt =
      60 * state.settings.auth.jwtAccessTtlMin.toInt)
    (hToken : External.jwtEncode state.jwt.cfg.secret (signed state userId role draws) = .ok token)
    (hDeadline : deadline (draws.get 3).now
      (TDuration.days state.settings.auth.jwtRefreshTtlDays) = .ok expiresAt)
    (hLater : (draws.get 3).now < expiresAt) :
    Exact state userId role draws (callsOf (issueTokens state userId role userAgent).run draws db)
      (outcomeOf (issueTokens state userId role userAgent).run draws db) := by
  have outcome := issueTokens_outcome userAgent db hToken hDeadline
  obtain ⟨reply, hCalls⟩ := issueTokens_calls userAgent db hToken hDeadline
  refine ⟨access, ?_, ?_, ?_⟩
  · rintro pair hPair
    rw [hPair] at outcome
    rcases outcome with ⟨_, ⟨⟩⟩ | ⟨_, ⟨⟩⟩
    rw [access.expiry, access.issued, hLifetime]
    omega
  · intro owner tokenHash date userAgent' reply' hMem
    have hDate : date = expiresAt := by
      simp [hCalls] at hMem
      exact hMem.1.2.2.1
    subst hDate
    exact ⟨(eq_of_deadline hDeadline).1, hLater⟩
  · intro message hPanic
    rw [hPanic] at outcome
    rcases outcome with ⟨_, ⟨⟩⟩ | ⟨_, ⟨⟩⟩

/-- If every token can be signed, nothing overflows exactly where both lifetimes fit. -/
theorem issueTokens_exact_iff
    (encodes : ∀ secret claims, ∃ token, External.jwtEncode secret claims = .ok token)
    (dated : ∀ n, Dated (draws.get n).now)
    (hTtl : state.jwt.cfg.accessTtlMin = state.settings.auth.jwtAccessTtlMin) :
    Exact state userId role draws (callsOf (issueTokens state userId role userAgent).run draws db)
        (outcomeOf (issueTokens state userId role userAgent).run draws db) ↔
      Fits state draws := by
  obtain ⟨token, hToken⟩ := encodes state.jwt.cfg.secret (signed state userId role draws)
  have access : AccessExact state.settings.auth.jwtAccessTtlMin (draws.get 0).now
      (signed state userId role draws) ↔
        AccessFits state.settings.auth.jwtAccessTtlMin (draws.get 0).now := by
    rw [← hTtl]
    exact accessExact_iff state.jwt userId role (draws.get 1).uuid (dated 0)
  rw [Fits, ← access, sessionFits_iff (dated 3)]
  constructor
  · intro exact
    refine ⟨exact.access, ?_⟩
    cases hDeadline : deadline (draws.get 3).now
        (TDuration.days state.settings.auth.jwtRefreshTtlDays) with
    | error stop =>
        obtain ⟨message, rfl⟩ := deadline_panics hDeadline
        exact absurd (issueTokens_stops userAgent db hToken hDeadline) (exact.proceeds message)
    | ok expiresAt =>
        obtain ⟨reply, hCalls⟩ := issueTokens_calls userAgent db hToken hDeadline
        exact ⟨expiresAt, rfl, (exact.stored _ _ _ _ reply (by rw [hCalls]; simp)).2⟩
  · rintro ⟨exact, expiresAt, hDeadline, hLater⟩
    have hLifetime := (access.mp exact).toInt_lifetime (dated 0)
    exact issueTokens_exact userAgent db exact hLifetime hToken hDeadline hLater

/-! ### Registrations -/

omit [External] in
/-- Calls that store no session do not matter. -/
theorem exact_append {before : Calls} (unstored : ∀ owner tokenHash expiresAt userAgent reply,
      ⟨.sql (.storeRefreshToken owner tokenHash expiresAt userAgent), reply⟩ ∉ before) :
    Exact state userId role draws (before ++ calls) outcome ↔
      Exact state userId role draws calls outcome := by
  constructor
  · rintro ⟨access, announced, stored, proceeds⟩
    refine ⟨access, announced, fun owner tokenHash expiresAt userAgent reply hMem => ?_, proceeds⟩
    exact stored _ _ _ _ reply (List.mem_append_right _ hMem)
  · rintro ⟨access, announced, stored, proceeds⟩
    refine ⟨access, announced, fun owner tokenHash expiresAt userAgent reply hMem => ?_, proceeds⟩
    rcases List.mem_append.mp hMem with hMem | hMem
    · exact absurd hMem (unstored _ _ _ _ _)
    · exact stored _ _ _ _ reply hMem

/-- An account takes three draws, and stores no session. -/
theorem createAccount_run {body : RegisterReq} {user : User}
    (h : outcomeOf (createAccount state body).run draws db = .ok user) :
    ((createAccount state body).run.exec answer draws db).2.1 = draws.drop 3 ∧
      ∀ owner tokenHash expiresAt userAgent reply,
        ⟨.sql (.storeRefreshToken owner tokenHash expiresAt userAgent), reply⟩ ∉
          callsOf (createAccount state body).run draws db := by
  by_cases valid : body.validate = []
  · simp [outcomeOf, callsOf, createAccount, AppState.registerPort, ExceptT.run_bind, valid] at h ⊢
    cases hHash : External.argon2Hash body.password draws.head.salt with
    | error e => simp [hHash] at h
    | ok phc =>
        simp [hHash, UserDb.run_createUser, Program.trace] at h ⊢
        rcases hRole : answer (draws.get 1) db (.sql (.roleIdFor Role.user.asStr)) with
          ⟨e | _ | roleId, db'⟩
        · simp [hRole] at h
        · simp [hRole] at h
        · simp [Program.trace]
          rfl
  · simp [outcomeOf, createAccount, ExceptT.run_bind, valid] at h

/-- With an account, a registration goes on as a login does. -/
theorem registerUser_run {body : RegisterReq} {user : User}
    (h : outcomeOf (createAccount state body).run draws db = .ok user) :
    ∃ db', outcomeOf (registerUser state.registerPort body state.settings.auth.jwtAccessTtlMin
          state.settings.auth.jwtRefreshTtlDays).run draws db =
        outcomeOf (issueTokens state user.id user.role none).run (draws.drop 3) db' ∧
      callsOf (registerUser state.registerPort body state.settings.auth.jwtAccessTtlMin
          state.settings.auth.jwtRefreshTtlDays).run draws db =
        callsOf (createAccount state body).run draws db ++
          callsOf (issueTokens state user.id user.role none).run (draws.drop 3) db' := by
  have hDraws := (createAccount_run h).1
  have hUser : ((createAccount state body).run.exec answer draws db).1 = .ok user := h
  refine ⟨((createAccount state body).run.exec answer draws db).2.2, ?_, ?_⟩
  · rw [registerUser_eq, outcomeOf, ExceptT.run_bind, Program.exec_bind, hUser, hDraws]
    rfl
  · rw [registerUser_eq, callsOf, ExceptT.run_bind, Program.trace_bind, hUser, hDraws]
    rfl

theorem registerUser_exact_iff {body : RegisterReq} {user : User}
    (encodes : ∀ secret claims, ∃ token, External.jwtEncode secret claims = .ok token)
    (dated : ∀ n, Dated (draws.get n).now)
    (hTtl : state.jwt.cfg.accessTtlMin = state.settings.auth.jwtAccessTtlMin)
    (created : outcomeOf (createAccount state body).run draws db = .ok user) :
    Exact state user.id user.role (draws.drop 3)
        (callsOf (registerUser state.registerPort body state.settings.auth.jwtAccessTtlMin
          state.settings.auth.jwtRefreshTtlDays).run draws db)
        (outcomeOf (registerUser state.registerPort body state.settings.auth.jwtAccessTtlMin
          state.settings.auth.jwtRefreshTtlDays).run draws db) ↔
      Fits state (draws.drop 3) := by
  obtain ⟨db', hOutcome, hCalls⟩ := registerUser_run created
  have datedLater (n : Nat) : Dated ((draws.drop 3).get n).now := by
    rw [Stream'.get_drop]
    exact dated (3 + n)
  rw [hOutcome, hCalls, exact_append (createAccount_run created).2]
  exact issueTokens_exact_iff encodes datedLater hTtl

/-- For all settings, at all times with a date: what is computed where tokens are issued is
exact if and only if the lifetimes fit, in `issue` alone, in `issue_tokens`, and in a
registration that has created its user. -/
theorem token_lifetimes_iff
    (encodes : ∀ secret claims, ∃ token, External.jwtEncode secret claims = .ok token)
    (settings : Settings) (draws : Stream' Draw) (dated : ∀ n, Dated (draws.get n).now) :
    (∀ userId role db,
      outcomeOf ((AppState.build settings).jwt.issue (m := Server) userId role).run draws db =
        (External.jwtEncode settings.auth.jwtSecret
          (signed (AppState.build settings) userId role draws)).mapError
            (fun e => .auth ("encode jwt: " ++ e)) ∧
      (AccessExact settings.auth.jwtAccessTtlMin (draws.get 0).now
          (signed (AppState.build settings) userId role draws) ↔
        AccessFits settings.auth.jwtAccessTtlMin (draws.get 0).now)) ∧
    (∀ userId role userAgent db,
      Exact (AppState.build settings) userId role draws
          (callsOf (issueTokens (AppState.build settings) userId role userAgent).run draws db)
          (outcomeOf (issueTokens (AppState.build settings) userId role userAgent).run draws db) ↔
        Fits (AppState.build settings) draws) ∧
    ∀ body db user, outcomeOf (createAccount (AppState.build settings) body).run draws db = .ok user →
      (Exact (AppState.build settings) user.id user.role (draws.drop 3)
          (callsOf (registerUser (AppState.build settings).registerPort body
            settings.auth.jwtAccessTtlMin settings.auth.jwtRefreshTtlDays).run draws db)
          (outcomeOf (registerUser (AppState.build settings).registerPort body
            settings.auth.jwtAccessTtlMin settings.auth.jwtRefreshTtlDays).run draws db) ↔
        Fits (AppState.build settings) (draws.drop 3)) := by
  refine ⟨fun userId role db => ⟨?_, ?_⟩, fun userId role userAgent db => ?_,
    fun body db user created => ?_⟩
  · simp [outcomeOf, signed, AppState.build]
  · exact accessExact_iff (AppState.build settings).jwt userId role _ (dated 0)
  · exact issueTokens_exact_iff encodes dated rfl
  · exact registerUser_exact_iff encodes dated rfl created

end Issuance

/-! ### Issuances of the reference instance -/

section Runs

attribute [local instance] reference

/-- From the year 2000 to the year 3000. -/
def Current (now : OffsetDateTime) : Prop :=
  946684800 * 1000000 ≤ now ∧ now < 32503680000 * 1000000

theorem moments_current (start n : Nat) (h : start < 1000) :
    Current ((moments start).get n).now := by
  have hStart : (946684800 * 1000000 : Int) ≤ 1750000000000000 + (start + n % 20 : Nat) := by omega
  have hEnd : (1750000000000000 + (start + n % 20 : Nat) : Int) < 32503680000 * 1000000 := by omega
  exact ⟨hStart, hEnd⟩

theorem Current.dated {now : Int} (current : Current now) : Dated now := by
  have hStart : 946684800 * 1000000 ≤ now := current.1
  have hEnd : now < 32503680000 * 1000000 := current.2
  have hEpoch : 0 ≤ now := by omega
  have hCalendar : now ≤ 253402300800 * 1000000 - 1 := by omega
  exact ⟨hEpoch, hCalendar⟩

def settingsFor (m d : Int64) : Settings :=
  { exampleState.settings with
    auth := { exampleState.settings.auth with jwtAccessTtlMin := m, jwtRefreshTtlDays := d } }

/-- With the greatest lifetimes an access token expires before it is issued, and the
process ends before a session is stored. -/
theorem lifetimes_overflow :
    (∃ settings draws userId role db, (∀ n, Current (draws.get n).now) ∧
      (signed (AppState.build settings) userId role draws).exp <
        (signed (AppState.build settings) userId role draws).iat ∧
      ¬Exact (AppState.build settings) userId role draws
        (callsOf (issueTokens (AppState.build settings) userId role none).run draws db)
        (outcomeOf (issueTokens (AppState.build settings) userId role none).run draws db)) ∧
    ∃ settings draws userId role db, (∀ n, Current (draws.get n).now) ∧
      (∃ message, outcomeOf (issueTokens (AppState.build settings) userId role none).run draws db =
        .error (.panic message)) ∧
      ¬Exact (AppState.build settings) userId role draws
        (callsOf (issueTokens (AppState.build settings) userId role none).run draws db)
        (outcomeOf (issueTokens (AppState.build settings) userId role none).run draws db) := by
  have current (n : Nat) : Current ((moments 0).get n).now := moments_current 0 n (by decide)
  constructor
  · have early : (signed (AppState.build (settingsFor Int64.maxValue 14)) firstUser .user
        (moments 0)).exp < (signed (AppState.build (settingsFor Int64.maxValue 14)) firstUser .user
          (moments 0)).iat := by
      decide +kernel
    refine ⟨settingsFor Int64.maxValue 14, moments 0, firstUser, .user, migrated, current, early, ?_⟩
    intro exact
    exact Int64.lt_asymm early exact.access.later
  · have hDeadline : ∃ stop, deadline ((moments 0).get 3).now (TDuration.days Int64.maxValue) =
        .error stop := ⟨_, rfl⟩
    obtain ⟨stop, hDeadline⟩ := hDeadline
    obtain ⟨message, rfl⟩ := deadline_panics hDeadline
    have stops : outcomeOf (issueTokens (AppState.build (settingsFor 30 Int64.maxValue)) firstUser
        .user none).run (moments 0) migrated = .error (.panic message) :=
      issueTokens_stops none migrated rfl hDeadline
    refine ⟨settingsFor 30 Int64.maxValue, moments 0, firstUser, .user, migrated, current,
      ⟨message, stops⟩, ?_⟩
    intro exact
    exact exact.proceeds message stops

/-- The lifetimes of the configuration fit, and a registration issues its tokens. -/
theorem token_lifetimes_registration : ∃ user,
    outcomeOf (createAccount (AppState.build (settingsFor 30 14))
      ⟨"user@example.org", "password", none⟩).run (moments 0) migrated = .ok user ∧
    Exact (AppState.build (settingsFor 30 14)) user.id user.role ((moments 0).drop 3)
      (callsOf (registerUser (AppState.build (settingsFor 30 14)).registerPort
        ⟨"user@example.org", "password", none⟩ 30 14).run (moments 0) migrated)
      (outcomeOf (registerUser (AppState.build (settingsFor 30 14)).registerPort
        ⟨"user@example.org", "password", none⟩ 30 14).run (moments 0) migrated) := by
  have dated (n : Nat) : Dated ((moments 0).get n).now :=
    (moments_current 0 n (by decide)).dated
  have created : ∃ user, outcomeOf (createAccount (AppState.build (settingsFor 30 14))
      ⟨"user@example.org", "password", none⟩).run (moments 0) migrated = .ok user := ⟨_, rfl⟩
  obtain ⟨user, hUser⟩ := created
  refine ⟨user, hUser, ?_⟩
  apply ((token_lifetimes_iff (fun _ _ => ⟨_, rfl⟩) (settingsFor 30 14) (moments 0) dated).2.2
    _ migrated user hUser).mpr
  exact ⟨⟨by decide, by decide +kernel⟩, by decide, by decide +kernel⟩

end Runs

end GenericAuth
