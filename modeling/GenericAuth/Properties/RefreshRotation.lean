import GenericAuth.Auth.Reference

/-! Rotation of refresh tokens under concurrency. The revoking statement has no
condition on `revoked_at`, so two refreshes that both looked the token up in
time both succeed. Rotation is exactly-once in the runs where each refresh
revokes a token that is still live. -/
namespace GenericAuth

open Interaction

section Rotation

variable [External] {state : AppState} {start : Db} {pool : ServerPool}

/-- The token of this hash is stored and not revoked. -/
def Db.Live (db : Db) (tokenHash : String) : Prop :=
  ∃ row ∈ db.refreshTokens.rows, row.tokenHash = tokenHash ∧ row.revokedAt = none

/-- The revoking statement of every refresh finds its token unrevoked. -/
def RevokesLive (pool : ServerPool) : Prop :=
  ∀ k i body, pool.Serves i (.refresh body) →
    Did pool k i (.revokeRefreshToken (hashRefreshToken body.refreshToken)) () →
    (pool.storeAt k).Live (hashRefreshToken body.refreshToken)

/-- A token that was revoked is not live later. -/
theorem ServerRun.not_live_of_revoked (run : ServerRun state start pool) {k l i : Nat}
    {tokenHash : String} (live : (pool.storeAt k).Live tokenHash)
    (did : Did pool k i (.revokeRefreshToken tokenHash) ()) (h : k < l) :
    ¬(pool.storeAt l).Live tokenHash := by
  rintro ⟨last, hLast, hHash, hNone⟩
  obtain ⟨row, hRow, hRowHash, _⟩ := live
  obtain ⟨draw, step⟩ := did
  obtain ⟨revoked, hRevoked, later⟩ := (run.later (Nat.le_succ k)).refreshTokens row hRow
  have hSome := revokeRefreshToken_reply step.effect revoked hRevoked
    (later.tokenHash.trans hRowHash)
  have still := run.refreshToken_later h hRevoked hLast
    (hHash.trans (later.tokenHash.trans hRowHash).symm)
  simpa [hNone] using still.revokedAt hSome

/-- Of the refreshes that present one token at most one returns a pair. -/
theorem refresh_at_most_once (run : ServerRun state start pool) (revokesLive : RevokesLive pool)
    {i j : Nat} {body body' : RefreshReq} {pair pair' : TokenPair}
    (hToken : body.refreshToken = body'.refreshToken)
    (first : pool.Returned i (.refresh body) (.ok (.tokenPair pair)))
    (second : pool.Returned j (.refresh body') (.ok (.tokenPair pair'))) : i = j := by
  obtain ⟨_, _, _, _, ⟨_, _, _, _, saw, _⟩, _⟩ := run.finished first
  obtain ⟨_, _, _, _, ⟨_, _, _, _, saw', _⟩, _⟩ := run.finished second
  obtain ⟨k, did⟩ := run.did_of_saw_full saw
  obtain ⟨l, did'⟩ := run.did_of_saw_full saw'
  have live := revokesLive k i body first.serves did
  have live' := revokesLive l j body' second.serves did'
  rw [← hToken] at did' live'
  rcases Nat.lt_trichotomy k l with hkl | rfl | hlk
  · exact absurd live' (run.not_live_of_revoked live did hkl)
  · exact (did.unique did').1
  · exact absurd live (run.not_live_of_revoked live' did' hlk)

end Rotation

/-! ### Runs of the reference instance -/

section Runs

attribute [local instance] reference

/-- Both refreshes look the token up before either of them revokes it. -/
def overlappingRefreshes : ServerPool :=
  Pool.play answer (handle exampleState) migrated (registration ++
    [.arrive (.refresh ⟨firstToken⟩), .arrive (.refresh ⟨firstToken⟩)] ++
    steps 1 20 1 ++ steps 2 30 9 ++ steps 1 40 8)

/-- Two concurrent refreshes exchange one token for two pairs. -/
theorem refresh_twice : ∃ pool : ServerPool, ServerRun exampleState migrated pool ∧
    FreshDraws pool ∧ Function.Injective External.sha256Hex ∧
    ∃ i j body pair pair', i ≠ j ∧ pool.Returned i (.refresh body) (.ok (.tokenPair pair)) ∧
      pool.Returned j (.refresh body) (.ok (.tokenPair pair')) := by
  have first : (pairOf overlappingRefreshes 1).map Prod.fst = some (.refresh ⟨firstToken⟩) := by
    decide +kernel
  have second : (pairOf overlappingRefreshes 2).map Prod.fst = some (.refresh ⟨firstToken⟩) := by
    decide +kernel
  obtain ⟨pair, returned⟩ := returned_of_pairOf_request first
  obtain ⟨pair', returned'⟩ := returned_of_pairOf_request second
  exact ⟨overlappingRefreshes, Runs.play _, by decide +kernel, reference_sha256Hex_injective,
    1, 2, ⟨firstToken⟩, pair, pair', by decide, returned, returned'⟩

/-- The second refresh arrives when the first one has finished. -/
def refreshesInTurn : ServerPool :=
  Pool.play answer (handle exampleState) migrated (registration ++
    [.arrive (.refresh ⟨firstToken⟩)] ++ steps 1 20 9 ++
    [.arrive (.refresh ⟨firstToken⟩)] ++ steps 2 30 9)

/-- What `RevokesLive` asks of one step, for every client. -/
def revokesLive (event : Event Db Draw Op) : Bool :=
  match event.op with
  | .sql (.revokeRefreshToken tokenHash) =>
      event.before.refreshTokens.rows.any fun row =>
        row.tokenHash == tokenHash && row.revokedAt.isNone
  | _ => true

theorem revokesLive_of_log {pool : ServerPool} (h : pool.log.all revokesLive = true) :
    RevokesLive pool := by
  intro k i body _ did
  obtain ⟨draw, step⟩ := did
  have hEvent := List.all_eq_true.mp h _ (List.mem_of_getElem? step.event)
  simpa [revokesLive, Db.Live] using hEvent

/-- The hypotheses hold of refreshes in turn, of which only the first succeeds. -/
theorem refresh_at_most_once_in_turn :
    ∃ pair, refreshesInTurn.Returned 1 (.refresh ⟨firstToken⟩) (.ok (.tokenPair pair)) ∧
      ∀ j pair', refreshesInTurn.Returned j (.refresh ⟨firstToken⟩) (.ok (.tokenPair pair')) →
        1 = j := by
  have first : (pairOf refreshesInTurn 1).map Prod.fst = some (.refresh ⟨firstToken⟩) := by
    decide +kernel
  obtain ⟨pair, returned⟩ := returned_of_pairOf_request first
  refine ⟨pair, returned, fun j pair' returned' => ?_⟩
  exact refresh_at_most_once (Runs.play _) (revokesLive_of_log (by decide +kernel)) rfl returned
    returned'

end Runs

end GenericAuth
