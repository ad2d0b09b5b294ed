import GenericAuth.Api.Protocol
import GenericAuth.Db.Permissions
import GenericAuth.Db.References
import GenericAuth.Interaction.Pool

/-! Runs of the server: any requests, arriving at any time, whose operations
interleave in any order, and any of whose statements may fail. -/
namespace GenericAuth

open Interaction Relational

variable [External]

abbrev ServerPool := Pool Request Db Draw Op Op.Reply Outcome

abbrev ServerRun (state : AppState) (start : Db) : ServerPool → Prop :=
  Runs answer (handle state) start

/-- Step `k` was this statement of client `i`, and it succeeded. -/
def Did (pool : ServerPool) (k i : Nat) (statement : Statement) (rows : statement.Rows) : Prop :=
  ∃ draw, pool.Executed answer k i draw (.sql statement) (.ok rows)

/-- The request and the pair of a client that has answered with a pair. -/
def pairOf (pool : ServerPool) (i : Nat) : Option (Request × TokenPair) :=
  match pool.finished i with
  | some (request, .ok (.tokenPair pair)) => some (request, pair)
  | _ => none

variable {state : AppState} {start : Db} {pool : ServerPool} {k l i j : Nat}

theorem returned_of_pairOf {request : Request} {pair : TokenPair}
    (h : pairOf pool i = some (request, pair)) :
    pool.Returned i request (.ok (.tokenPair pair)) := by
  unfold pairOf at h
  split at h
  · next request' pair' finished =>
      obtain ⟨rfl, rfl⟩ := Prod.mk.inj (Option.some.inj h)
      exact Pool.finished_iff.mp finished
  · cases h

theorem returned_of_pairOf_request {request : Request}
    (h : (pairOf pool i).map Prod.fst = some request) :
    ∃ pair, pool.Returned i request (.ok (.tokenPair pair)) := by
  obtain ⟨⟨_, pair⟩, hPair, rfl⟩ := Option.map_eq_some_iff.mp h
  exact ⟨pair, returned_of_pairOf hPair⟩

theorem ServerRun.later (run : ServerRun state start pool) (h : k ≤ l) :
    (pool.storeAt k).Later (pool.storeAt l) :=
  run.related Db.Later Db.Later.refl Db.Later.trans answer_later h

theorem ServerRun.later_start (run : ServerRun state start pool) : start.Later pool.store := by
  have later := run.later (Nat.zero_le pool.log.length)
  rwa [run.storeAt_zero, Pool.storeAt_end (Nat.le_refl _)] at later

/-- The roles of the migration stay. -/
theorem ServerRun.roleIdFor_some (run : ServerRun state migrated pool) (role : Role) :
    ∃ roleId, pool.store.roleIdFor role.asStr = some roleId := by
  simp only [Db.roleIdFor, run.later_start.roles]
  cases role <;> exact ⟨_, rfl⟩

theorem ServerRun.roleIdFor_user (run : ServerRun state migrated pool) :
    pool.store.roleIdFor Role.user.asStr = some 3 := by
  simp only [Db.roleIdFor, run.later_start.roles]
  rfl

/-- Foreign keys hold in every reachable store. -/
theorem ServerRun.references_at (run : ServerRun state start pool) (refs : start.References)
    (k : Nat) : (pool.storeAt k).References :=
  run.invariant Db.References refs answer_references k

theorem ServerRun.references (run : ServerRun state migrated pool) : pool.store.References := by
  rw [← Pool.storeAt_end (Nat.le_refl pool.log.length)]
  exact run.references_at migrated_references pool.log.length

/-- So do those of the explicit permissions. -/
theorem ServerRun.granted (run : ServerRun state migrated pool) : pool.store.Granted := by
  rw [← Pool.storeAt_end (Nat.le_refl pool.log.length)]
  exact run.invariant Db.Granted migrated_granted answer_granted pool.log.length

/-- The store after a step is an earlier one than the last. -/
theorem ServerRun.later_end (run : ServerRun state start pool) {draw : Draw} {op : Op}
    {reply : op.Reply} (step : pool.Executed answer k i draw op reply) :
    (pool.storeAt (k + 1)).Later pool.store := by
  rw [← Pool.storeAt_end (Nat.le_refl pool.log.length)]
  exact run.later (Nat.succ_le_of_lt step.lt_length)

theorem Did.unique {first second : Statement} {rows : first.Rows} {rows' : second.Rows}
    (did : Did pool k i first rows) (did' : Did pool k j second rows') : i = j ∧ first = second := by
  obtain ⟨draw, step⟩ := did
  obtain ⟨draw', step'⟩ := did'
  exact ⟨(step.unique step').1, Op.sql.inj (step.unique step').2⟩

theorem Did.lt_length {statement : Statement} {rows : statement.Rows}
    (did : Did pool k i statement rows) : k < pool.log.length := by
  obtain ⟨draw, step⟩ := did
  exact step.lt_length

/-- What a client saw are earlier steps of its own. -/
theorem ServerRun.did_of_saw (run : ServerRun state start pool) {statement : Statement}
    {rows : statement.Rows} (saw : Saw (past answer (pool.log.take l) i) statement rows) :
    ∃ k < l, Did pool k i statement rows := by
  obtain ⟨k, hk, draw, step⟩ := run.executed_of_past saw
  exact ⟨k, hk, draw, step⟩

theorem ServerRun.did_of_saw_full (run : ServerRun state start pool) {statement : Statement}
    {rows : statement.Rows} (saw : Saw (past answer pool.log i) statement rows) :
    ∃ k, Did pool k i statement rows := by
  obtain ⟨k, draw, step⟩ := run.executed_of_past_full saw
  exact ⟨k, draw, step⟩

/-- Each statement was allowed by what its client had seen. -/
theorem ServerRun.allowed (run : ServerRun state start pool) {request : Request}
    (serves : pool.Serves i request) {statement : Statement} {rows : statement.Rows}
    (did : Did pool k i statement rows) :
    Allowed state request (past answer (pool.log.take k) i) (.sql statement) := by
  obtain ⟨draw, step⟩ := did
  obtain ⟨request', serves', allowed⟩ := Runs.allowed (handle_obeys state) run step
  rwa [serves.unique serves']

/-- The steps of a client that belong to one such kind are one step. -/
theorem ServerRun.once (run : ServerRun state start pool) (selected : Op → Bool)
    (hOnce : selected ∈ onceOnly) {draw draw' : Draw} {op op' : Op} {reply : op.Reply}
    {reply' : op'.Reply} (first : pool.Executed answer k i draw op reply)
    (second : pool.Executed answer l i draw' op' reply') (hOp : selected op = true)
    (hOp' : selected op' = true) : k = l := by
  have unasked : Unasked (past answer (pool.log.take k) i) selected := by
    obtain ⟨_, _, allowed⟩ := Runs.allowed (handle_obeys state) run first
    exact allowed.unasked hOnce hOp
  have unasked' : Unasked (past answer (pool.log.take l) i) selected := by
    obtain ⟨_, _, allowed⟩ := Runs.allowed (handle_obeys state) run second
    exact allowed.unasked hOnce hOp'
  rcases Nat.lt_trichotomy k l with hkl | hkl | hlk
  · simpa [hOp] using unasked' _ (first.mem_past hkl)
  · exact hkl
  · simpa [hOp'] using unasked _ (second.mem_past hlk)

theorem ServerRun.serves (run : ServerRun state start pool) {statement : Statement}
    {rows : statement.Rows} (did : Did pool k i statement rows) :
    ∃ request, pool.Serves i request := by
  obtain ⟨draw, step⟩ := did
  obtain ⟨request, serves, _⟩ := Runs.allowed (handle_obeys state) run step
  exact ⟨request, serves⟩

/-- Evaluates whether step `k` was this statement of client `i`, with rows that
pass a test. -/
def didWith (pool : ServerPool) (k i : Nat) (statement : Statement)
    (test : statement.Rows → Bool) : Bool :=
  match pool.log[k]? with
  | none => false
  | some event =>
      event.client == i && event.op == .sql statement &&
        match (answer event.draw event.before (.sql statement)).1 with
        | .ok rows => test rows
        | .error _ => false

theorem ServerRun.did_of_didWith (run : ServerRun state start pool) (k i : Nat)
    (statement : Statement) (test : statement.Rows → Bool)
    (h : didWith pool k i statement test = true) :
    ∃ rows, Did pool k i statement rows ∧ test rows = true := by
  unfold didWith at h
  split at h
  · simp at h
  · next event hEvent =>
      have step := run.executed hEvent
      obtain ⟨client, draw, before, op⟩ := event
      simp only [Bool.and_eq_true, beq_iff_eq] at h
      obtain ⟨⟨rfl, rfl⟩, hTest⟩ := h
      split at hTest
      · next rows hRows =>
          have hReply : (Event.call answer ⟨client, draw, before, .sql statement⟩).reply =
              .ok rows := hRows
          rw [hReply] at step
          exact ⟨rows, ⟨draw, step⟩, hTest⟩
      · simp at hTest

theorem ServerRun.finished (run : ServerRun state start pool) {request : Request}
    {outcome : Outcome} (returned : pool.Returned i request outcome) :
    Finished state request (past answer pool.log i) outcome :=
  Runs.final (handle_obeys state) run returned

/-- A client that has answered took one of the courses of its request. -/
theorem ServerRun.course (run : ServerRun state start pool) {request : Request}
    {outcome : Outcome} (returned : pool.Returned i request outcome) :
    Course state request (past answer pool.log i) outcome :=
  Runs.final (handle_takes state) run returned

/-! ### Refresh tokens over a run -/

/-- A returned pair belongs to the user whose session the request opened. -/
theorem ServerRun.pairFor (run : ServerRun state start pool) {request : Request} {pair : TokenPair}
    (returned : pool.Returned i request (.ok (.tokenPair pair))) :
    ∃ userId, Opens (past answer pool.log i) userId request ∧
      PairFor state pool.store pair userId := by
  obtain ⟨userId, expiresAt, userAgent, id, opens, saw, signed⟩ := run.finished returned
  obtain ⟨k, draw, step⟩ := run.did_of_saw_full saw
  obtain ⟨row, hMem, hUser, hHash, _⟩ := storeRefreshToken_reply step.effect
  obtain ⟨last, hLast, later⟩ := (run.later_end step).refreshTokens row hMem
  exact ⟨userId, opens, ⟨last, hLast, later.tokenHash.trans hHash, later.userId.trans hUser⟩,
    signed⟩

theorem PairFor.unique {db : Db} {pair : TokenPair} {userId userId' : Uuid}
    (first : PairFor state db pair userId) (second : PairFor state db pair userId') :
    userId = userId' := by
  obtain ⟨row, hMem, hHash, rfl⟩ := first.stored
  obtain ⟨row', hMem', hHash', rfl⟩ := second.stored
  rw [refreshToken_unique hMem hMem' (hHash.trans hHash'.symm)]

/-- The request of a client that has answered with a pair, and the user for whom
the refresh token of the pair is stored. -/
def ownerOf (pool : ServerPool) (i : Nat) : Option (Request × Option Uuid) :=
  (pairOf pool i).map fun answered =>
    (answered.1, (pool.store.lookupRefreshToken (hashRefreshToken answered.2.refreshToken)).map
      Prod.fst)

theorem ServerRun.returned_of_ownerOf (run : ServerRun state start pool) {request : Request}
    {userId : Uuid} (h : ownerOf pool i = some (request, some userId)) :
    ∃ pair, pool.Returned i request (.ok (.tokenPair pair)) ∧
      PairFor state pool.store pair userId := by
  obtain ⟨⟨request', pair⟩, hPair, hAnswer⟩ := Option.map_eq_some_iff.mp h
  obtain ⟨hRequest, hOwner⟩ := Prod.mk.inj hAnswer
  obtain rfl : request' = request := hRequest
  have returned := returned_of_pairOf hPair
  obtain ⟨owner, _, pairFor⟩ := run.pairFor returned
  obtain ⟨row, hMem, hHash, rfl⟩ := pairFor.stored
  refine ⟨pair, returned, ?_⟩
  obtain ⟨found, hFound, rfl⟩ := Option.map_eq_some_iff.mp hOwner
  obtain ⟨row', hRow', rfl⟩ := Option.map_eq_some_iff.mp hFound
  obtain ⟨hMem', hHash'⟩ := Table.mem_of_find hRow'
  rwa [refreshToken_unique hMem hMem' (hHash.trans (beq_iff_eq.mp hHash').symm)] at pairFor

/-- The row of a token is the same row for the rest of the run. -/
theorem ServerRun.refreshToken_later (run : ServerRun state start pool) (h : k ≤ l)
    {row row' : RefreshTokenRow} (hMem : row ∈ (pool.storeAt k).refreshTokens.rows)
    (hMem' : row' ∈ (pool.storeAt l).refreshTokens.rows) (hHash : row'.tokenHash = row.tokenHash) :
    row.Later row' := by
  obtain ⟨next, hNext, later⟩ := (run.later h).refreshTokens row hMem
  rwa [refreshToken_unique hMem' hNext (hHash.trans later.tokenHash.symm)]

end GenericAuth
