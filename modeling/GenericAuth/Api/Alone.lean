import GenericAuth.Api.Writes
import GenericAuth.Db.References

/-! Requests executed alone, with no other client in between: when nothing fails
they succeed, and a session that cannot be stored leaves no trace. -/
namespace GenericAuth

open Interaction Relational

variable [External]

/-! ### Single operations -/

section Answers

variable {draw : Draw} {db : Db}

@[simp] theorem answer_nowUtc : answer draw db .nowUtc = (draw.now, db) := rfl

@[simp] theorem answer_randomBytes : answer draw db .randomBytes = (draw.bytes, db) := rfl

@[simp] theorem answer_newV4 : answer draw db .newV4 = (draw.uuid, db) := rfl

@[simp] theorem answer_saltGenerate : answer draw db .saltGenerate = (draw.salt, db) := rfl

@[simp] theorem answer_exchangeCode (code : String) :
    answer draw db (.exchangeCode code) = (draw.profile, db) := rfl

@[simp] theorem answer_sendMail (toEmail subject body : String) :
    answer draw db (.sendMail toEmail subject body) = ((), db) := rfl

theorem answer_of_fault {e : SqlxError} (h : draw.fault = some e) (statement : Statement) :
    answer draw db (.sql statement) = (.error e, db) := by
  simp only [answer, h]

theorem answer_sql (h : draw.fault = none) (statement : Statement) :
    answer draw db (.sql statement) = db.exec draw statement := by
  simp only [answer, h]

/-- A new user is stored, unless the address is taken. -/
theorem answer_insertUser (h : draw.fault = none) {email : Option String} {roleId : Nat}
    (hRole : (db.roles.any fun role => role.id == roleId) = true)
    (fresh : ∀ row ∈ db.users.rows, row.id ≠ draw.uuid)
    (free : ∀ row ∈ db.users.rows, sameEmail row.email email = false)
    (passwordHash displayName : Option String) (emailVerified : Bool) :
    ∃ (columns : UserColumns) (users : Table UserRow.clash), columns.id = draw.uuid ∧
      ({ db with users } : Db).hasUser draw.uuid = true ∧
      answer draw db (.sql (.insertUser email passwordHash displayName roleId emailVerified)) =
        (.ok columns, { db with users }) := by
  let row : UserRow :=
    { id := draw.uuid, email, displayName, isActive := true, emailVerified,
      createdAt := draw.dbNow, updatedAt := draw.dbNow, passwordHash, roleId }
  have clashes : ∀ stored ∈ db.users.rows, stored.clash row = false := by
    intro stored hMem
    simp [UserRow.clash, row, fresh stored hMem, free stored hMem]
  obtain ⟨users, inserted⟩ := Table.insert_of_free clashes
  refine ⟨row.toUserColumns, users, rfl,
    hasUser_iff.mpr ⟨row, (Table.mem_insert inserted).mpr (.inr rfl), rfl⟩, ?_⟩
  rw [answer_sql h]
  simp [Db.exec, Db.insertUser, inserted, row, hRole]

/-- An identity of a stored user is bound, or found bound. -/
theorem answer_upsertOauthIdentity (h : draw.fault = none) {userId : Uuid}
    (hUser : db.hasUser userId = true)
    (fresh : ∀ row ∈ db.oauthIdentities.rows, row.id ≠ draw.uuid) (provider subject : String)
    (email : Option String) (rawProfile : GoogleProfile) :
    ∃ oauthIdentities : Table OAuthIdentityRow.clash,
      answer draw db (.sql (.upsertOauthIdentity userId provider subject email rawProfile)) =
        (.ok (), { db with oauthIdentities }) := by
  rw [answer_sql h]
  simp only [Db.exec, Db.upsertOauthIdentity]
  split
  · exact ⟨_, rfl⟩
  · next free =>
      have clashes : ∀ stored ∈ db.oauthIdentities.rows, stored.clash
          { id := draw.uuid, userId, provider, subject, email, rawProfile,
            createdAt := draw.dbNow } = false := by
        intro stored hMem
        have hKey : ¬(stored.provider = provider ∧ stored.subject = subject) := by
          simpa using List.any_eq_false.mp (Bool.eq_false_iff.mpr free) stored hMem
        simpa [OAuthIdentityRow.clash, fresh stored hMem] using hKey
      obtain ⟨oauthIdentities, inserted⟩ := Table.insert_of_free clashes
      exact ⟨oauthIdentities, by simp [inserted]⟩

/-- A new session of a stored user is stored. -/
theorem answer_storeRefreshToken (h : draw.fault = none) {userId : Uuid} {tokenHash : String}
    (hUser : db.hasUser userId = true)
    (fresh : ∀ row ∈ db.refreshTokens.rows, row.id ≠ draw.uuid ∧ row.tokenHash ≠ tokenHash)
    (expiresAt : OffsetDateTime) (userAgent : Option String) :
    ∃ db', answer draw db (.sql (.storeRefreshToken userId tokenHash expiresAt userAgent)) =
      (.ok draw.uuid, db') := by
  have free : ∀ row ∈ db.refreshTokens.rows, row.clash
      { id := draw.uuid, userId, tokenHash, issuedAt := draw.dbNow, expiresAt, revokedAt := none,
        userAgent } = false := by
    intro row hMem
    simp [RefreshTokenRow.clash, fresh row hMem]
  obtain ⟨refreshTokens, inserted⟩ := Table.insert_of_free free
  refine ⟨{ db with refreshTokens }, ?_⟩
  simp [answer_sql h, Db.exec, Db.storeRefreshToken, inserted, hUser]

end Answers

/-! ### Executions -/

section Executions

variable {Result : Type} (program : Server Result) (draws : Stream' Draw) (db : Db)

/-- The outcome of a program that is executed alone. -/
def outcomeOf : Result := (program.exec answer draws db).1

/-- The store that it leaves behind. -/
def storeAfter : Db := (program.exec answer draws db).2.2

/-- The operations that it performs. -/
def callsOf : Calls := program.trace answer draws db

theorem traced_callsOf : Traced answer db (callsOf program draws db) (storeAfter program draws db) :=
  program.traced_exec answer draws db

theorem later_traced {calls : Calls} {db after : Db} (traced : Traced answer db calls after) :
    db.Later after :=
  traced.keeps db.Later (.refl db) fun _ _ _ _ _ _ _ _ later =>
    Db.Later.trans _ _ _ later (answer_later _ _ _)

/-- The store follows from the writes. -/
theorem traced_writes :
    Traced answer db (writes (callsOf program draws db)) (storeAfter program draws db) :=
  (traced_callsOf program draws db).writes wrote_quiet

variable {program draws db}

/-- What a program guarantees in every interleaving holds when it is alone. -/
theorem obeys_alone {allowed : Calls → Op → Prop} {final : Calls → Result → Prop}
    (obeys : program.Obeys allowed final []) (draws : Stream' Draw) (db : Db) :
    final (callsOf program draws db) (outcomeOf program draws db) := by
  have h := obeys.exec answer draws db
  rwa [List.nil_append] at h

theorem takes_alone {course : Calls → Result → Prop} (takes : program.Takes course)
    (draws : Stream' Draw) (db : Db) :
    course (callsOf program draws db) (outcomeOf program draws db) :=
  takes.exec answer draws db

/-- A request that is executed alone takes one of its courses. -/
theorem course_alone (state : AppState) (request : Request) (draws : Stream' Draw) (db : Db) :
    Course state request (callsOf (handle state request) draws db)
      (outcomeOf (handle state request) draws db) :=
  takes_alone (handle_course state request) draws db

theorem storeAfter_of_quiet (quiet : writes (callsOf program draws db) = []) :
    storeAfter program draws db = db := by
  have traced := traced_writes program draws db
  rw [quiet] at traced
  exact traced.eq_of_nil

/-- A single write leads from the first store to the last. -/
theorem storeAfter_of_single {op : Op} {reply : op.Reply}
    (single : writes (callsOf program draws db) = [⟨op, reply⟩]) :
    ∃ draw, answer draw db op = (reply, storeAfter program draws db) := by
  have traced := traced_writes program draws db
  rw [single] at traced
  obtain ⟨draw, after, hAnswer, rest⟩ := traced.of_cons
  exact ⟨draw, by rw [hAnswer, rest.eq_of_nil]⟩

/-- What a program saw was answered by a store between the first and the last. -/
theorem reply_alone {op : Op} {reply : op.Reply} (hMem : ⟨op, reply⟩ ∈ callsOf program draws db) :
    ∃ draw found, db.Later found ∧ (answer draw found op).1 = reply ∧
      (answer draw found op).2.Later (storeAfter program draws db) :=
  (traced_callsOf program draws db).mem Db.Later Db.Later.refl Db.Later.trans answer_later hMem

/-- Without writes it was answered by the first. -/
theorem reply_of_quiet (quiet : writes (callsOf program draws db) = []) {op : Op}
    {reply : op.Reply} (hMem : ⟨op, reply⟩ ∈ callsOf program draws db) :
    ∃ draw, answer draw db op = (reply, db) :=
  (traced_callsOf program draws db).reply_of_quiet wrote_quiet quiet hMem

/-- The first call was answered by the first store, with the first draw. -/
theorem head_alone {op : Op} {reply : op.Reply} {rest : Calls}
    (h : ⟨op, reply⟩ :: rest <+: callsOf program draws db) :
    (answer (draws.get 0) db op).1 = reply := by
  obtain ⟨more, hCalls⟩ := h
  exact (Program.trace_cons answer hCalls.symm).1

/-- A clock reading that comes second is that of the second draw. -/
theorem clock_alone {op : Op} {reply : op.Reply} {now : OffsetDateTime} {rest : Calls}
    (h : ⟨op, reply⟩ :: ⟨.nowUtc, now⟩ :: rest <+: callsOf program draws db) :
    (draws.get 1).now = now := by
  obtain ⟨more, hCalls⟩ := h
  obtain ⟨_, next, hNext⟩ := Program.trace_cons answer hCalls.symm
  exact (Program.trace_cons answer hNext).1

/-- So were the calls that come before every write. -/
theorem reads_alone {reads : Calls} (h : reads <+: callsOf program draws db)
    (quiet : writes reads = []) {op : Op} {reply : op.Reply} (hMem : ⟨op, reply⟩ ∈ reads) :
    ∃ draw, answer draw db op = (reply, db) := by
  obtain ⟨rest, hCalls⟩ := h
  have traced := traced_callsOf program draws db
  rw [← hCalls] at traced
  obtain ⟨middle, early, _⟩ := traced.of_append
  exact early.reply_of_quiet wrote_quiet quiet hMem

theorem Issued.pairFor {state : AppState} {pair : TokenPair} {userId : Uuid}
    (issued : Issued state (callsOf program draws db) pair userId) :
    PairFor state (storeAfter program draws db) pair userId := by
  obtain ⟨signed, expiresAt, userAgent, id, saw⟩ := issued
  obtain ⟨draw, found, _, hReply, later⟩ := reply_alone saw
  obtain ⟨row, hMem, hUser, hHash, _⟩ := storeRefreshToken_reply (Prod.ext hReply rfl)
  obtain ⟨last, hLast, change⟩ := later.refreshTokens row hMem
  exact ⟨⟨last, hLast, change.tokenHash.trans hHash, change.userId.trans hUser⟩, signed⟩

end Executions

/-! ### Nothing fails -/

/-- No statement fails, hashing and signing work, and expiry dates are in range. -/
structure Smooth (state : AppState) (draws : Stream' Draw) : Prop where
  fault : ∀ n, (draws.get n).fault = none
  hashes : ∀ n plain, ∃ phc, External.argon2Hash plain (draws.get n).salt = .ok phc
  encodes : ∀ n k userId role, ∃ token, External.jwtEncode state.jwt.cfg.secret
    (state.jwt.claims userId role (draws.get n).now (draws.get k).uuid) = .ok token
  session : ∀ n, ∃ instant, deadline (draws.get n).now
    (TDuration.days state.settings.auth.jwtRefreshTtlDays) = .ok instant
  mail : ∀ n, ∃ instant, deadline (draws.get n).now (TDuration.hours 24) = .ok instant

/-- What opening a session needs of this. -/
structure Issuing (state : AppState) (draws : Stream' Draw) : Prop where
  fault : ∀ n, (draws.get n).fault = none
  encodes : ∀ n k userId role, ∃ token, External.jwtEncode state.jwt.cfg.secret
    (state.jwt.claims userId role (draws.get n).now (draws.get k).uuid) = .ok token
  session : ∀ n, ∃ instant, deadline (draws.get n).now
    (TDuration.days state.settings.auth.jwtRefreshTtlDays) = .ok instant

/-- The random bits were not drawn for a stored session before. -/
def Db.NewSessions (db : Db) (draws : Stream' Draw) : Prop :=
  ∀ n k, ∀ row ∈ db.refreshTokens.rows, row.id ≠ (draws.get n).uuid ∧
    row.tokenHash ≠ hashRefreshToken (hexEncode (draws.get k).bytes)

variable {state : AppState} {draws : Stream' Draw} {db : Db}

theorem Smooth.drop (smooth : Smooth state draws) (k : Nat) : Smooth state (draws.drop k) where
  fault n := by simpa using smooth.fault (k + n)
  hashes n := by simpa using smooth.hashes (k + n)
  encodes n l := by simpa using smooth.encodes (k + n) (k + l)
  session n := by simpa using smooth.session (k + n)
  mail n := by simpa using smooth.mail (k + n)

theorem Smooth.issuing (smooth : Smooth state draws) : Issuing state draws :=
  ⟨smooth.fault, smooth.encodes, smooth.session⟩

theorem Issuing.drop (issuing : Issuing state draws) (k : Nat) : Issuing state (draws.drop k) where
  fault n := by simpa using issuing.fault (k + n)
  encodes n l := by simpa using issuing.encodes (k + n) (k + l)
  session n := by simpa using issuing.session (k + n)

theorem Db.NewSessions.drop (new : db.NewSessions draws) (k : Nat) :
    db.NewSessions (draws.drop k) := by
  intro n l row hMem
  simpa using new (k + n) (k + l) row hMem

/-- Revocation does not change which sessions are stored. -/
theorem Db.NewSessions.revoke (new : db.NewSessions draws) (draw : Draw) (tokenHash : String) :
    (db.revokeRefreshToken draw tokenHash).NewSessions draws := by
  intro n k row hMem
  obtain ⟨old, hOld, rfl⟩ := List.mem_map.mp hMem
  split <;> exact new n k old hOld

/-- A session of a stored user can be opened. -/
theorem issueTokens_returns (issuing : Issuing state draws) (new : db.NewSessions draws)
    {userId : Uuid} (hUser : db.hasUser userId = true) (role : Role) (userAgent : Option String) :
    ∃ pair, outcomeOf (issueTokens state userId role userAgent).run draws db = .ok pair ∧
      PairFor state (storeAfter (issueTokens state userId role userAgent).run draws db) pair
        userId := by
  obtain ⟨access, hAccess⟩ := issuing.encodes 0 1 userId role
  obtain ⟨expiresAt, hExpiry⟩ := issuing.session 3
  obtain ⟨db', hStored⟩ := answer_storeRefreshToken (issuing.fault 4) hUser (new 4 2) expiresAt
    userAgent
  obtain ⟨row, hMem, hOwner, hHash, _⟩ := storeRefreshToken_reply hStored
  refine ⟨⟨access, hexEncode (draws.get 2).bytes,
    state.settings.auth.jwtAccessTtlMin * 60⟩, ?_, ⟨row, ?_, hHash, hOwner⟩, role, _, _, hAccess⟩
  · simp [outcomeOf, issueTokens, ExceptT.run_bind, hAccess, hExpiry, hStored]
  · simpa [storeAfter, issueTokens, ExceptT.run_bind, hAccess, hExpiry, hStored] using hMem

end GenericAuth
