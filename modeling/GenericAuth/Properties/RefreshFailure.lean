import GenericAuth.Api.Alone
import GenericAuth.Auth.Reference

/-! A refresh that fails. Until the presented token is revoked a failure leaves
everything as it was; afterwards the session is lost, because the replacement is
stored last and the revocation is never undone. -/
namespace GenericAuth

open Interaction Relational

section Failure

variable [External] {state : AppState} {pool : ServerPool} {body : RefreshReq}
    {draws : Stream' Draw} {db : Db} {row : RefreshTokenRow}

/-! ### What a failed refresh has written -/

/-- The token that the lookup found cannot be refreshed, by the clock reading that
comes next. -/
def Rejected (calls : Calls) (tokenHash : String) : Prop :=
  Saw calls (.lookupRefreshToken tokenHash) none ∨
  ∃ (owner : Uuid) (expiresAt : OffsetDateTime) (revokedAt : Option OffsetDateTime),
    Saw calls (.lookupRefreshToken tokenHash) (some (owner, expiresAt, revokedAt)) ∧
      (revokedAt.isSome ∨ ∃ now : OffsetDateTime, expiresAt ≤ now ∧
        ([⟨.sql (.lookupRefreshToken tokenHash), .ok (some (owner, expiresAt, revokedAt))⟩,
          ⟨.nowUtc, now⟩] : Calls) <+: calls)

/-- An error leaves either no write behind, or the revocation alone. -/
def RefreshWrites (tokenHash : String) (calls : Calls) : Outcome → Prop
  | .error _ =>
      writes calls = [] ∧ (Rejected calls tokenHash ∨ Failed calls (.lookupRefreshToken tokenHash) ∨
        Failed calls (.revokeRefreshToken tokenHash)) ∨
      writes calls = [⟨.sql (.revokeRefreshToken tokenHash), .ok ()⟩]
  | .ok payload => ∃ pair, payload = .tokenPair pair

theorem RefreshCourse.writes {calls : Calls} {outcome : Outcome}
    (course : RefreshCourse state body calls outcome) :
    RefreshWrites (hashRefreshToken body.refreshToken) calls outcome := by
  cases course with
  | failed error => exact .inl ⟨by simp [wrote], .inr (.inl ⟨error, by simp⟩)⟩
  | unknown => exact .inl ⟨by simp [wrote], .inl (.inl (by simp [Saw]))⟩
  | revoked owner expiresAt instant =>
      exact .inl ⟨by simp [wrote],
        .inl (.inr ⟨owner, expiresAt, some instant, by simp [Saw], .inl rfl⟩)⟩
  | expired owner h =>
      exact .inl ⟨by simp [wrote], .inl (.inr ⟨owner, _, _, by simp [Saw], .inr ⟨_, h, _, rfl⟩⟩)⟩
  | notRevoked owner live error => exact .inl ⟨by simp [wrote], .inr (.inr ⟨error, by simp⟩)⟩
  | notFound | ownerless => exact .inr (by simp [wrote])
  | @issued _ _ _ _ _ _ result issue =>
      cases result with
      | error stop => exact .inr (by simp [wrote, issue.quiet])
      | ok pair => exact ⟨pair, rfl⟩

theorem refresh_writes (state : AppState) (body : RefreshReq) (draws : Stream' Draw) (db : Db) :
    RefreshWrites (hashRefreshToken body.refreshToken)
      (callsOf (handle state (.refresh body)) draws db)
      (outcomeOf (handle state (.refresh body)) draws db) :=
  RefreshCourse.writes (course_alone state (.refresh body) draws db)

/-! ### The token after a failure -/

theorem lookup_eq (hMem : row ∈ db.refreshTokens.rows) :
    db.lookupRefreshToken row.tokenHash = some (row.userId, row.expiresAt, row.revokedAt) := by
  have hFind : db.refreshTokens.find (fun other => other.tokenHash == row.tokenHash) = some row :=
    Table.find_eq_some RefreshTokenRow.clash_comm
      (fun first second h h' => by simp_all [RefreshTokenRow.clash]) hMem (beq_self_eq_true _)
  simp [Db.lookupRefreshToken, hFind]

/-- A live token is not rejected while nothing is written. -/
theorem not_rejected (hMem : row ∈ db.refreshTokens.rows) (hLive : row.revokedAt = none)
    (hUnexpired : (draws.get 1).now < row.expiresAt)
    (quiet : writes (callsOf (handle state (.refresh body)) draws db) = []) :
    ¬Rejected (callsOf (handle state (.refresh body)) draws db) row.tokenHash := by
  have stored {rows : Option (Uuid × OffsetDateTime × Option OffsetDateTime)}
      (saw : Saw (callsOf (handle state (.refresh body)) draws db)
        (.lookupRefreshToken row.tokenHash) rows) :
      rows = some (row.userId, row.expiresAt, none) := by
    obtain ⟨draw, hReply⟩ := reply_of_quiet quiet saw
    have hExec := Except.ok.inj (congrArg Prod.fst (exec_of_answer hReply))
    rw [← hExec, lookup_eq hMem, hLive]
  rintro (saw | ⟨owner, expiresAt, revokedAt, saw, hRevoked | ⟨now, hExpired, reads⟩⟩)
  · cases stored saw
  · cases stored saw
    cases hRevoked
  · cases stored saw
    obtain rfl := clock_alone reads
    exact absurd hExpired (Int.not_le.mpr hUnexpired)

/-- A token that is revoked is refused, whatever happens. -/
theorem refresh_refused (draws : Stream' Draw) (hMem : row ∈ db.refreshTokens.rows)
    (hRevoked : row.revokedAt.isSome) (hHash : row.tokenHash = hashRefreshToken body.refreshToken) :
    ∃ stop, outcomeOf (handle state (.refresh body)) draws db = .error stop := by
  have shape := refresh_writes state body draws db
  have finished := obeys_alone (handle_obeys state (.refresh body)) draws db
  cases hOutcome : outcomeOf (handle state (.refresh body)) draws db with
  | error stop => exact ⟨stop, rfl⟩
  | ok payload =>
      rw [hOutcome] at shape finished
      obtain ⟨pair, rfl⟩ := shape
      obtain ⟨_, _, _, _, ⟨owner, expiresAt, _, saw, _⟩, _⟩ := finished
      obtain ⟨draw, found, later, hReply, _⟩ := reply_alone saw
      obtain ⟨row', hMem', hHash', _, _, hLive⟩ :=
        lookupRefreshToken_reply (Prod.ext hReply rfl)
      obtain ⟨new, hNew, change⟩ := later.refreshTokens row hMem
      have same := refreshToken_unique hMem' hNew
        (hHash'.trans (hHash.symm.trans change.tokenHash.symm))
      simpa [← same, hLive] using change.revokedAt hRevoked

/-! ### The two outcomes -/

/-- Without a failure a live token is refreshed. -/
theorem refresh_returns (issuing : Issuing state draws) (new : db.NewSessions draws)
    (refs : db.References) (hMem : row ∈ db.refreshTokens.rows) (hLive : row.revokedAt = none)
    (hHash : row.tokenHash = hashRefreshToken body.refreshToken)
    (hUnexpired : (draws.get 1).now < row.expiresAt) :
    ∃ pair, outcomeOf (handle state (.refresh body)) draws db = .ok (.tokenPair pair) := by
  have hLookup := lookup_eq hMem
  rw [hHash, hLive] at hLookup
  have refs' : (db.revokeRefreshToken (draws.get 2) row.tokenHash).References := by
    simpa [answer_sql, issuing.fault, Db.exec] using
      answer_references (draws.get 2) db (.sql (.revokeRefreshToken row.tokenHash)) refs
  have hUser : (db.revokeRefreshToken (draws.get 2) row.tokenHash).hasUser row.userId = true :=
    refs.sessions row hMem
  obtain ⟨found, hFound, hId⟩ := refs'.findById hUser
  obtain ⟨pair, hPair, _⟩ :=
    issueTokens_returns (issuing.drop 4) ((new.revoke (draws.get 2) _).drop 4)
    hUser found.toUser.role none
  have hNow : ¬row.expiresAt ≤ (draws.get 1).now := Int.not_le.mpr hUnexpired
  refine ⟨pair, ?_⟩
  rw [hHash] at hFound hPair
  simp [outcomeOf, handle, refresh, ExceptT.run_bind, answer_sql, issuing.fault, Db.exec, hLookup,
    hNow, hFound]
  rw [Program.exec_map]
  have hUserId : found.toUser.id = row.userId := hId
  rw [hUserId]
  exact congrArg (Except.map Payload.tokenPair) hPair

/-- A refresh of a token that is live when the second operation reads the clock, and
that fails: it has either failed before the revocation, and then nothing is lost, or
after it, and then the token is. -/
theorem refresh_failure (run : ServerRun state migrated pool)
    (hMem : row ∈ pool.store.refreshTokens.rows) (hLive : row.revokedAt = none)
    (hHash : row.tokenHash = hashRefreshToken body.refreshToken)
    (hUnexpired : (draws.get 1).now < row.expiresAt) {stop : Stop}
    (failed : outcomeOf (handle state (.refresh body)) draws pool.store = .error stop) :
    ((Failed (callsOf (handle state (.refresh body)) draws pool.store)
        (.lookupRefreshToken row.tokenHash) ∨
        Failed (callsOf (handle state (.refresh body)) draws pool.store)
          (.revokeRefreshToken row.tokenHash)) ∧
      storeAfter (handle state (.refresh body)) draws pool.store = pool.store ∧
      ∀ again, Issuing state again → pool.store.NewSessions again →
        (again.get 1).now < row.expiresAt →
        ∃ pair, outcomeOf (handle state (.refresh body)) again pool.store = .ok (.tokenPair pair)) ∨
    (Saw (callsOf (handle state (.refresh body)) draws pool.store)
        (.revokeRefreshToken row.tokenHash) () ∧
      (∃ draw, storeAfter (handle state (.refresh body)) draws pool.store =
        pool.store.revokeRefreshToken draw row.tokenHash) ∧
      ∀ later, (storeAfter (handle state (.refresh body)) draws pool.store).Later later → ∀ again,
        ∃ stop', outcomeOf (handle state (.refresh body)) again later = .error stop') := by
  have shape := refresh_writes state body draws pool.store
  rw [failed, ← hHash] at shape
  rcases shape with ⟨quiet, hWhy⟩ | hWrites
  · refine .inl ⟨?_, storeAfter_of_quiet quiet, fun again issuing new hUnexpired' => ?_⟩
    · rcases hWhy with rejected | failed
      · exact absurd rejected (not_rejected hMem hLive hUnexpired quiet)
      · exact failed
    · exact refresh_returns issuing new run.references hMem hLive hHash hUnexpired'
  · have hSaw : (⟨.sql (.revokeRefreshToken row.tokenHash), .ok ()⟩ : Call Op Op.Reply) ∈
        writes (callsOf (handle state (.refresh body)) draws pool.store) := by simp [hWrites]
    have traced := traced_writes (handle state (.refresh body)) draws pool.store
    rw [hWrites] at traced
    obtain ⟨draw, middle, hRevoke, rest⟩ := traced.of_cons
    obtain rfl := rest.eq_of_nil
    refine .inr ⟨List.mem_of_mem_filter hSaw, ⟨draw, (Prod.mk.inj (exec_of_answer hRevoke)).2.symm⟩,
      fun later hLater again => ?_⟩
    obtain ⟨revoked, hRevoked, change⟩ := (Db.Later.of_answer hRevoke).refreshTokens row hMem
    obtain ⟨last, hLast, change'⟩ := hLater.refreshTokens revoked hRevoked
    have hSome := revokeRefreshToken_reply hRevoke revoked hRevoked change.tokenHash
    exact refresh_refused again hLast (change'.revokedAt hSome)
      ((change'.tokenHash.trans change.tokenHash).trans hHash)

end Failure

/-! ### Runs of the reference instance -/

section Runs

attribute [local instance] reference

/-- The row of the first token, when it is live and far from its expiry. -/
def firstSession (db : Db) : Option RefreshTokenRow :=
  db.refreshTokens.find fun row => row.tokenHash == hashRefreshToken firstToken &&
    row.revokedAt.isNone && decide (1750000000001000 < row.expiresAt)

theorem firstSession_stored : ∃ row ∈ registered.store.refreshTokens.rows,
    row.tokenHash = hashRefreshToken firstToken ∧ row.revokedAt = none ∧
      1750000000001000 < row.expiresAt := by
  have found : (firstSession registered.store).isSome = true := by decide +kernel
  obtain ⟨row, hRow⟩ := Option.isSome_iff_exists.mp found
  obtain ⟨hMem, hTest⟩ := Table.mem_of_find hRow
  simp only [Bool.and_eq_true, beq_iff_eq, Option.isNone_iff_eq_none, decide_eq_true_eq] at hTest
  exact ⟨row, hMem, hTest.1.1, hTest.1.2, hTest.2⟩

theorem moments_unexpired {expiresAt : Int} (h : 1750000000001000 < expiresAt) {start : Nat}
    (hStart : start ≤ 500) (n : Nat) : ((moments start).get n).now < expiresAt := by
  change 1750000000000000 + ((start + n % 20 : Nat) : Int) < expiresAt
  omega

theorem momentsFailing_unexpired {expiresAt : Int} (h : 1750000000001000 < expiresAt)
    {start : Nat} (hStart : start ≤ 500) (k n : Nat) :
    ((momentsFailing start k).get n).now < expiresAt := by
  have same : ((momentsFailing start k).get n).now = ((moments start).get n).now := by
    change (if n = k then _ else _ : Draw).now = _
    split <;> rfl
  rw [same]
  exact moments_unexpired h hStart n

/-- The ninth operation of a refresh stores the new session. When it fails, the
old session is gone, although the token was live, and trying again does not help. -/
theorem refresh_failure_loses_session : ∃ (pool : ServerPool) (row : RefreshTokenRow)
    (body : RefreshReq) (draws again : Stream' Draw) (stop stop' : Stop),
    ServerRun exampleState migrated pool ∧ row ∈ pool.store.refreshTokens.rows ∧
      row.revokedAt = none ∧ row.tokenHash = hashRefreshToken body.refreshToken ∧
      (∀ n, (draws.get n).now < row.expiresAt) ∧
      outcomeOf (handle exampleState (.refresh body)) draws pool.store = .error stop ∧
      (∃ lost ∈ (storeAfter (handle exampleState (.refresh body)) draws pool.store).refreshTokens.rows,
        lost.tokenHash = row.tokenHash ∧ lost.revokedAt.isSome) ∧
      Smooth exampleState again ∧ (∀ n, (again.get n).now < row.expiresAt) ∧
      outcomeOf (handle exampleState (.refresh body)) again
        (storeAfter (handle exampleState (.refresh body)) draws pool.store) = .error stop' := by
  obtain ⟨row, hMem, hHash, hLive, hExpiry⟩ := firstSession_stored
  have failed : stopped (outcomeOf (handle exampleState (.refresh ⟨firstToken⟩)) (momentsFailing 20 8)
      registered.store) = true := by decide +kernel
  have lost : ((storeAfter (handle exampleState (.refresh ⟨firstToken⟩)) (momentsFailing 20 8)
      registered.store).refreshTokens.rows.any fun row =>
        row.tokenHash == hashRefreshToken firstToken && row.revokedAt.isSome) = true := by
    decide +kernel
  obtain ⟨stop, hStop⟩ := error_of_stopped failed
  obtain ⟨last, hLast, hLost⟩ := List.any_eq_true.mp lost
  simp only [Bool.and_eq_true, beq_iff_eq] at hLost
  obtain ⟨stop', hStop'⟩ := refresh_refused (moments 40) hLast hLost.2 hLost.1
  refine ⟨registered, row, ⟨firstToken⟩, momentsFailing 20 8, moments 40, stop, stop', registered_run,
    hMem, hLive, hHash, momentsFailing_unexpired hExpiry (by decide) 8, hStop,
    ⟨last, hLast, hLost.1.trans hHash.symm, hLost.2⟩, moments_smooth 40 (by decide +kernel),
    moments_unexpired hExpiry (by decide), hStop'⟩

/-- The hypotheses hold of a refresh whose lookup fails, which loses nothing. -/
theorem refresh_failure_at_lookup : ∃ (draws again : Stream' Draw) (stop : Stop) (pair : TokenPair),
    outcomeOf (handle exampleState (.refresh ⟨firstToken⟩)) draws registered.store = .error stop ∧
      storeAfter (handle exampleState (.refresh ⟨firstToken⟩)) draws registered.store =
        registered.store ∧
      outcomeOf (handle exampleState (.refresh ⟨firstToken⟩)) again registered.store =
        .ok (.tokenPair pair) := by
  obtain ⟨row, hMem, hHash, hLive, hExpiry⟩ := firstSession_stored
  have failed : stopped (outcomeOf (handle exampleState (.refresh ⟨firstToken⟩)) (momentsFailing 20 0)
      registered.store) = true := by decide +kernel
  obtain ⟨stop, hStop⟩ := error_of_stopped failed
  rcases refresh_failure registered_run hMem hLive hHash
    (momentsFailing_unexpired hExpiry (by decide) 0 1) hStop with ⟨_, same, retry⟩ | ⟨saw, _⟩
  · obtain ⟨pair, hPair⟩ := retry (moments 40) (moments_smooth 40 (by decide +kernel)).issuing
      (moments_newSessions 40 (by decide +kernel)) (moments_unexpired hExpiry (by decide) 1)
    exact ⟨_, _, stop, pair, hStop, same, hPair⟩
  · have none : ((callsOf (handle exampleState (.refresh ⟨firstToken⟩)) (momentsFailing 20 0)
        registered.store).all fun call => !wrote call) = true := by decide +kernel
    have := List.all_eq_true.mp none _ saw
    simp [wrote] at this

end Runs

end GenericAuth
