import GenericAuth.Properties.RefreshRotation

/-! The end of a session is final: the row of a refresh token is never revived,
moved or replaced, and a refresh that looks the token up after its revocation or
expiry is refused before it writes anything. -/
namespace GenericAuth

open Interaction Relational

section Final

variable [External] {state : AppState} {start : Db} {pool : ServerPool} {k l i : Nat}
    {row : RefreshTokenRow} {body : RefreshReq}

/-! ### What a refresh sees before it writes -/

/-- The lookup found a token that was not revoked, and a clock that was read
stood before its expiry. -/
def SawLive (tokenHash : String) (calls : Calls) : Prop :=
  ∃ (owner : Uuid) (expiresAt now : OffsetDateTime),
    Saw calls (.lookupRefreshToken tokenHash) (some (owner, expiresAt, none)) ∧
      (⟨.nowUtc, now⟩ : Call Op Op.Reply) ∈ calls ∧ now < expiresAt

/-- A refresh looks its token up, then reads the clock, and goes on only with a
token that it may replace. -/
def RefreshAllowed (tokenHash : String) (calls : Calls) (op : Op) : Prop :=
  op = .sql (.lookupRefreshToken tokenHash) ∧ calls = [] ∨
  op = .nowUtc ∧ (∃ rows, calls = [⟨.sql (.lookupRefreshToken tokenHash), .ok rows⟩]) ∨
  (∀ other, op ≠ .sql (.lookupRefreshToken other)) ∧ SawLive tokenHash calls

def RefreshFinal (tokenHash : String) (calls : Calls) (outcome : Outcome) : Prop :=
  outcome = .error (.err .unauthorized) ∨ Failed calls (.lookupRefreshToken tokenHash) ∨
    SawLive tokenHash calls

omit [External] in
theorem SawLive.mono {tokenHash : String} {past calls : Calls} (h : past ⊆ calls)
    (sawLive : SawLive tokenHash past) : SawLive tokenHash calls := by
  obtain ⟨owner, expiresAt, now, saw, hNow, hLive⟩ := sawLive
  exact ⟨owner, expiresAt, now, h saw, h hNow, hLive⟩

omit [External] in
theorem SawLive.append {tokenHash : String} {calls : Calls} (h : SawLive tokenHash calls)
    (more : Calls) : SawLive tokenHash (calls ++ more) :=
  h.mono (List.subset_append_left _ _)

omit [External] in
/-- What follows the clock is allowed, as long as nothing is looked up again. -/
theorem SawLive.asks {tokenHash : String} {past calls : Calls} (h : SawLive tokenHash past)
    (hOther : ∀ call ∈ calls, ∀ other, call.op ≠ .sql (.lookupRefreshToken other)) :
    Asks (RefreshAllowed tokenHash) past calls := by
  induction calls generalizing past with
  | nil => trivial
  | cons call calls ih =>
      rw [List.forall_mem_cons] at hOther
      exact ⟨.inr (.inr ⟨hOther.1, h⟩), ih (h.append [call]) hOther.2⟩

theorem RefreshCourse.sawLive {calls : Calls} {outcome : Outcome}
    (course : RefreshCourse state body calls outcome) :
    Asks (RefreshAllowed (hashRefreshToken body.refreshToken)) [] calls ∧
      RefreshFinal (hashRefreshToken body.refreshToken) calls outcome := by
  have opened (owner : Uuid) {expiresAt now : OffsetDateTime} (live : now < expiresAt)
      {more : Calls} {outcome : Outcome}
      (hOther : ∀ call ∈ more, ∀ other, call.op ≠ .sql (.lookupRefreshToken other)) :
      Asks (RefreshAllowed (hashRefreshToken body.refreshToken)) []
        (⟨.sql (.lookupRefreshToken (hashRefreshToken body.refreshToken)),
          .ok (some (owner, expiresAt, none))⟩ :: ⟨.nowUtc, now⟩ :: more) ∧
      RefreshFinal (hashRefreshToken body.refreshToken)
        (⟨.sql (.lookupRefreshToken (hashRefreshToken body.refreshToken)),
          .ok (some (owner, expiresAt, none))⟩ :: ⟨.nowUtc, now⟩ :: more) outcome := by
    have seen : SawLive (hashRefreshToken body.refreshToken)
        [⟨.sql (.lookupRefreshToken (hashRefreshToken body.refreshToken)),
          .ok (some (owner, expiresAt, none))⟩, ⟨.nowUtc, now⟩] :=
      ⟨owner, expiresAt, now, by simp [Saw], by simp, live⟩
    exact ⟨⟨.inl ⟨rfl, rfl⟩, .inr (.inl ⟨rfl, _, rfl⟩), seen.asks hOther⟩,
      .inr (.inr (seen.append more))⟩
  cases course with
  | failed error => simp [RefreshAllowed, RefreshFinal, Failed]
  | unknown | revoked | expired => simp [RefreshAllowed, RefreshFinal]
  | notRevoked owner live | notFound owner live | ownerless owner live =>
      exact opened owner live (by simp)
  | issued owner live found issue => exact opened owner live (by cases issue <;> simp)

/-- The protocol of a refresh, and none for other requests. -/
theorem handle_sawLive (state : AppState) (request : Request) :
    (handle state request).Obeys
      (fun calls op => ∀ body, request = .refresh body →
        RefreshAllowed (hashRefreshToken body.refreshToken) calls op)
      (fun calls outcome => ∀ body, request = .refresh body →
        RefreshFinal (hashRefreshToken body.refreshToken) calls outcome) [] := by
  cases request with
  | refresh body =>
      apply (refresh_course state body).obeys
      simp only [Request.refresh.injEq, forall_eq']
      exact fun _ _ course => course.sawLive
  | _ => exact Program.obeys_of_always (fun _ _ _ h => nomatch h) (fun _ _ _ h => nomatch h) _ _

/-! ### Over a run -/

/-- The clock of the application never goes back. -/
def Clocked (pool : ServerPool) : Prop :=
  ∀ (k l : Nat) (event event' : Event Db Draw Op), k ≤ l →
    pool.log[k]? = some event → pool.log[l]? = some event' →
    event.draw.now ≤ event'.draw.now

/-- When step `k` is made, the stored token is revoked, or the clock has reached
its expiry. -/
structure Ended (pool : ServerPool) (k : Nat) (row : RefreshTokenRow) : Prop where
  stored : row ∈ (pool.storeAt k).refreshTokens.rows
  ended : row.revokedAt.isSome ∨
    ∃ event : Event Db Draw Op, pool.log[k]? = some event ∧ row.expiresAt ≤ event.draw.now

theorem ServerRun.refreshAllowed (run : ServerRun state start pool)
    (serves : pool.Serves i (.refresh body)) {draw : Draw} {op : Op} {reply : op.Reply}
    (step : pool.Executed answer l i draw op reply) :
    RefreshAllowed (hashRefreshToken body.refreshToken) (past answer (pool.log.take l) i) op := by
  obtain ⟨request, serves', allowed⟩ := Runs.allowed (handle_sawLive state) run step
  exact allowed body (serves'.unique serves)

/-- A refresh looks a token up once. -/
theorem ServerRun.lookup_once (run : ServerRun state start pool)
    (serves : pool.Serves i (.refresh body)) {draw draw' : Draw} {tokenHash tokenHash' : String}
    {reply reply'} (first : pool.Executed answer k i draw (.sql (.lookupRefreshToken tokenHash)) reply)
    (second : pool.Executed answer l i draw' (.sql (.lookupRefreshToken tokenHash')) reply') :
    k = l := by
  have opening {k : Nat} {draw : Draw} {tokenHash : String} {reply}
      (step : pool.Executed answer k i draw (.sql (.lookupRefreshToken tokenHash)) reply) :
      past answer (pool.log.take k) i = [] := by
    rcases run.refreshAllowed serves step with ⟨_, none⟩ | ⟨hOp, _⟩ | ⟨hOther, _⟩
    · exact none
    · cases hOp
    · exact absurd rfl (hOther _)
  rcases Nat.lt_trichotomy k l with hkl | hkl | hlk
  · have hMem := first.mem_past hkl
    rw [opening second] at hMem
    cases hMem
  · exact hkl
  · have hMem := second.mem_past hlk
    rw [opening first] at hMem
    cases hMem

/-- It reads the clock later. -/
theorem ServerRun.clock_after_lookup (run : ServerRun state start pool)
    (serves : pool.Serves i (.refresh body)) {draw draw' : Draw} {tokenHash : String} {reply}
    {now : OffsetDateTime}
    (lookup : pool.Executed answer k i draw (.sql (.lookupRefreshToken tokenHash)) reply)
    (clock : pool.Executed answer l i draw' .nowUtc now) : k < l := by
  rcases run.refreshAllowed serves clock with ⟨hOp, _⟩ | ⟨_, rows, hPast⟩ | ⟨_, _, _, _, saw, _⟩
  · cases hOp
  · obtain ⟨k', hk, _, lookup'⟩ :=
      run.executed_of_past (by rw [hPast]; exact List.mem_singleton_self _)
    rwa [run.lookup_once serves lookup lookup']
  · obtain ⟨k', hk, _, lookup'⟩ := run.executed_of_past saw
    rwa [run.lookup_once serves lookup lookup']

/-- A refresh that looked an ended token up never saw it live. -/
theorem Ended.not_sawLive (ended : Ended pool k row) (run : ServerRun state start pool)
    (clocked : Clocked pool) (h : k ≤ l) (serves : pool.Serves i (.refresh body))
    (hHash : row.tokenHash = hashRefreshToken body.refreshToken)
    {rows : Option (Uuid × OffsetDateTime × Option OffsetDateTime)}
    (did : Did pool l i (.lookupRefreshToken (hashRefreshToken body.refreshToken)) rows) :
    ¬SawLive (hashRefreshToken body.refreshToken) (past answer pool.log i) := by
  rintro ⟨owner, expiresAt, now, saw, hNow, hLive⟩
  obtain ⟨draw, lookup⟩ := did
  obtain ⟨l', draw', lookup'⟩ := run.executed_of_past_full saw
  obtain rfl := run.lookup_once serves lookup lookup'
  obtain ⟨m, draw'', clock⟩ := run.executed_of_past_full hNow
  have hm : l < m := run.clock_after_lookup serves lookup clock
  obtain ⟨found, hFound, hFoundHash, -, rfl, hUnrevoked⟩ := lookupRefreshToken_reply lookup'.effect
  have later := run.refreshToken_later h ended.stored hFound (hFoundHash.trans hHash.symm)
  rcases ended.ended with hRevoked | ⟨event, hEvent, hExpired⟩
  · simpa [hUnrevoked] using later.revokedAt hRevoked
  · have hClock : event.draw.now ≤ draw''.now :=
      clocked k m event _ (Nat.le_of_lt (Nat.lt_of_le_of_lt h hm)) hEvent clock.event
    obtain rfl : draw''.now = now := congrArg Prod.fst clock.effect
    rw [later.expiresAt] at hLive
    exact absurd (Int.le_trans hExpired hClock) (Int.not_le.mpr hLive)

/-- A refresh that is refused: it only has to read the clock, or has returned,
and it has not inserted a token. -/
structure Refused (pool : ServerPool) (i : Nat) (body : RefreshReq) : Prop where
  ends : pool.Returned i (.refresh body) (.error (.err .unauthorized)) ∨
    ∃ rows next, pool.clients[i]? = some ⟨.refresh body, .call .nowUtc next⟩ ∧
      past answer pool.log i =
        [⟨.sql (.lookupRefreshToken (hashRefreshToken body.refreshToken)), .ok rows⟩]
  inserts : ∀ l draw userId tokenHash expiresAt userAgent reply, ¬pool.Executed answer l i draw
    (.sql (.storeRefreshToken userId tokenHash expiresAt userAgent)) reply

theorem Ended.refused (ended : Ended pool k row) (run : ServerRun state start pool)
    (clocked : Clocked pool) (h : k ≤ l) (serves : pool.Serves i (.refresh body))
    (hHash : row.tokenHash = hashRefreshToken body.refreshToken)
    {rows : Option (Uuid × OffsetDateTime × Option OffsetDateTime)}
    (did : Did pool l i (.lookupRefreshToken (hashRefreshToken body.refreshToken)) rows) :
    Refused pool i body := by
  have stops := ended.not_sawLive run clocked h serves hHash did
  obtain ⟨draw, lookup⟩ := did
  have looked := lookup.mem_past_full
  constructor
  · obtain ⟨⟨request, program⟩, hClient, rfl⟩ := Option.map_eq_some_iff.mp serves
    have obeys := run.obeys (handle_sawLive state) hClient
    cases program with
    | done outcome =>
        rcases obeys body rfl with rfl | ⟨error, failed⟩ | sawLive
        · exact .inl hClient
        · obtain ⟨l', draw', lookup'⟩ := run.executed_of_past_full failed
          obtain rfl := run.lookup_once serves lookup lookup'
          cases lookup.reply_unique lookup'
        · exact absurd sawLive stops
    | call op next =>
        rcases obeys.1 body rfl with ⟨_, none⟩ | ⟨rfl, rows', hPast⟩ | ⟨_, sawLive⟩
        · rw [none] at looked
          cases looked
        · exact .inr ⟨rows', next, hClient, hPast⟩
        · exact absurd sawLive stops
  · intro m draw' userId tokenHash expiresAt userAgent reply step
    rcases run.refreshAllowed serves step with ⟨hOp, _⟩ | ⟨hOp, _⟩ | ⟨_, sawLive⟩
    · cases hOp
    · cases hOp
    · exact stops (sawLive.mono (past_take_subset _ _ _))

/-- The hash of a stored token is not inserted again. -/
theorem storeRefreshToken_new {draw : Draw} {db db' : Db} {userId id : Uuid} {tokenHash : String}
    {expiresAt : OffsetDateTime} {userAgent : Option String}
    (h : answer draw db (.sql (.storeRefreshToken userId tokenHash expiresAt userAgent)) =
      (.ok id, db')) : ∀ row ∈ db.refreshTokens.rows, row.tokenHash ≠ tokenHash := by
  intro row hMem hHash
  have hExec := exec_of_answer h
  simp only [Db.exec, Db.storeRefreshToken] at hExec
  split at hExec
  · simp at hExec
  · next refreshTokens inserted =>
      have free := Table.free_of_insert inserted row hMem
      simp [RefreshTokenRow.clash, hHash] at free

/-- In every run, from the step on at which a token is stored, its row keeps its
owner and expiry and is never unrevoked, no other row has its hash, and once it
has ended every refresh that looks it up is refused. -/
theorem revocation_final (run : ServerRun state start pool) (clocked : Clocked pool)
    (hMem : row ∈ (pool.storeAt k).refreshTokens.rows) :
    (∀ l, k ≤ l → ∃ row' ∈ (pool.storeAt l).refreshTokens.rows, row.Later row' ∧
      ∀ other ∈ (pool.storeAt l).refreshTokens.rows, other.tokenHash = row.tokenHash →
        other = row') ∧
    (∀ l i userId expiresAt userAgent id, k ≤ l →
      ¬Did pool l i (.storeRefreshToken userId row.tokenHash expiresAt userAgent) id) ∧
    (Ended pool k row → ∀ l i body rows, k ≤ l → pool.Serves i (.refresh body) →
      row.tokenHash = hashRefreshToken body.refreshToken →
      Did pool l i (.lookupRefreshToken (hashRefreshToken body.refreshToken)) rows →
      Refused pool i body) := by
  refine ⟨fun l h => ?_, fun l i userId expiresAt userAgent id h did => ?_,
    fun ended l i body rows h serves hHash did => ended.refused run clocked h serves hHash did⟩
  · obtain ⟨row', hMem', later⟩ := (run.later h).refreshTokens row hMem
    exact ⟨row', hMem', later, fun other hOther hHash =>
      refreshToken_unique hOther hMem' (hHash.trans later.tokenHash.symm)⟩
  · obtain ⟨row', hMem', later⟩ := (run.later h).refreshTokens row hMem
    obtain ⟨draw, step⟩ := did
    exact storeRefreshToken_new step.effect row' hMem' later.tokenHash

theorem clocked_of_sorted (h : (pool.log.map fun event => event.draw.now).Pairwise (· ≤ ·)) :
    Clocked pool := by
  intro k l event event' hkl hk hl
  rcases Nat.eq_or_lt_of_le hkl with rfl | hlt
  · obtain rfl := Option.some.inj (hk.symm.trans hl)
    exact Int.le_refl _
  · obtain ⟨hkLength, rfl⟩ := List.getElem?_eq_some_iff.mp hk
    obtain ⟨hlLength, rfl⟩ := List.getElem?_eq_some_iff.mp hl
    exact List.pairwise_iff_getElem.mp (List.pairwise_map.mp h) k l hkLength hlLength hlt

end Final

/-! ### A run of the reference instance -/

section Runs

attribute [local instance] reference

/-- The token of the first user is revoked before the second refresh begins, which
is refused. -/
theorem revocation_final_in_turn :
    ∃ row ∈ (refreshesInTurn.storeAt 23).refreshTokens.rows,
      row.tokenHash = hashRefreshToken firstToken ∧ Ended refreshesInTurn 23 row ∧
        Refused refreshesInTurn 2 ⟨firstToken⟩ := by
  have run : ServerRun exampleState migrated refreshesInTurn := Runs.play _
  have revoked : ((refreshesInTurn.storeAt 23).refreshTokens.rows.any fun row =>
      row.tokenHash == hashRefreshToken firstToken && row.revokedAt.isSome) = true := by
    decide +kernel
  obtain ⟨row, hMem, hRow⟩ := List.any_eq_true.mp revoked
  obtain ⟨hHash, hRevoked⟩ := Bool.and_eq_true_iff.mp hRow
  have ended : Ended refreshesInTurn 23 row := ⟨hMem, .inl hRevoked⟩
  obtain ⟨rows, did, _⟩ := run.did_of_didWith 23 2
    (.lookupRefreshToken (hashRefreshToken firstToken)) (fun _ => true) (by decide +kernel)
  have serves : refreshesInTurn.Serves 2 (.refresh ⟨firstToken⟩) := by
    rw [Pool.Serves]
    decide +kernel
  exact ⟨row, hMem, beq_iff_eq.mp hHash, ended, (revocation_final run
    (clocked_of_sorted (by decide +kernel)) hMem).2.2 ended 23 2 ⟨firstToken⟩ rows (Nat.le_refl _)
    serves (beq_iff_eq.mp hHash) did⟩

end Runs

end GenericAuth
