import GenericAuth.Api.Alone
import GenericAuth.Properties.RefreshRotation

/-! The time at which a session was revoked. The statement that revokes all sessions
of a user spares those that are revoked already, the one that revokes a single token
does not. -/
namespace GenericAuth

open Interaction Relational

section Times

variable [External] {state : AppState} {start : Db} {pool : ServerPool} {db : Db} {k l : Nat}

/-! ### Logging out twice -/

omit [External] in
/-- The time of revocation that a logout leaves in the row of its token. -/
def RefreshTokenRow.loggedOutAt (draw : Draw) (row : RefreshTokenRow) : Option OffsetDateTime :=
  if draw.fault = none then some draw.dbNow else row.revokedAt

theorem logout_rows (body : LogoutReq) (draws : Stream' Draw) (db : Db) :
    (storeAfter (handle state (.logout body)) draws db).refreshTokens.rows =
      db.refreshTokens.rows.map fun row =>
        if row.tokenHash = hashRefreshToken body.refreshToken then
          { row with revokedAt := row.loggedOutAt draws.head }
        else row := by
  cases hFault : draws.head.fault with
  | none =>
      simp [storeAfter, handle, logout, answer_sql hFault, Db.exec, Db.revokeRefreshToken,
        RefreshTokenRow.loggedOutAt, hFault, Table.update]
  | some e =>
      simp [storeAfter, handle, logout, answer_of_fault hFault, RefreshTokenRow.loggedOutAt, hFault]

/-- A second logout changes nothing if it fails, or if every row of the token has its
time of revocation already. -/
theorem logout_twice_iff (body : LogoutReq) (first second : Stream' Draw) :
    (storeAfter (handle state (.logout body)) second
        (storeAfter (handle state (.logout body)) first db)).refreshTokens.rows =
      (storeAfter (handle state (.logout body)) first db).refreshTokens.rows ↔
    second.head.fault ≠ none ∨ ∀ row ∈ db.refreshTokens.rows,
      row.tokenHash = hashRefreshToken body.refreshToken →
        row.loggedOutAt first.head = some second.head.dbNow := by
  rw [logout_rows, logout_rows, List.map_map, List.map_inj_left]
  cases hFault : second.head.fault with
  | some e => simp [RefreshTokenRow.loggedOutAt, hFault]
  | none =>
      simp only [ne_eq, not_true_eq_false, false_or]
      apply forall₂_congr
      intro row _
      by_cases hHash : row.tokenHash = hashRefreshToken body.refreshToken
      · simp [hHash, RefreshTokenRow.loggedOutAt, hFault, eq_comm]
      · simp [hHash]

/-! ### Runs -/

/-- A stored time of revocation is never replaced. -/
def RevocationsStay (pool : ServerPool) : Prop :=
  ∀ k l, k ≤ l → ∀ row ∈ (pool.storeAt k).refreshTokens.rows, row.revokedAt.isSome →
    ∃ row' ∈ (pool.storeAt l).refreshTokens.rows, row'.id = row.id ∧ row'.revokedAt = row.revokedAt

/-- Whenever a single token is revoked, its row is not revoked yet, or was revoked at
this very time. -/
def RevokedFirst (pool : ServerPool) : Prop :=
  ∀ k i draw tokenHash rows,
    pool.Executed answer k i draw (.sql (.revokeRefreshToken tokenHash)) (.ok rows) →
    ∀ row ∈ (pool.storeAt k).refreshTokens.rows, row.tokenHash = tokenHash →
      row.revokedAt = none ∨ row.revokedAt = some draw.dbNow

omit [External] in
@[simp] theorem RefreshTokenRow.after_id (draw : Draw) (call : Call Op Op.Reply)
    (row : RefreshTokenRow) : (RefreshTokenRow.after draw call row).id = row.id := by
  unfold RefreshTokenRow.after
  split <;> (try split) <;> rfl

omit [External] in
/-- Only the revocation of a single token can replace a time of revocation. -/
theorem RefreshTokenRow.after_revokedAt {draw : Draw} {call : Call Op Op.Reply}
    {row : RefreshTokenRow} (hSome : row.revokedAt.isSome)
    (h : ∀ rows, call = ⟨.sql (.revokeRefreshToken row.tokenHash), .ok rows⟩ →
      row.revokedAt = some draw.dbNow) :
    (RefreshTokenRow.after draw call row).revokedAt = row.revokedAt := by
  unfold RefreshTokenRow.after
  split
  · next tokenHash rows =>
      split
      · next hHash =>
          obtain rfl : row.tokenHash = tokenHash := beq_iff_eq.mp hHash
          exact (h rows rfl).symm
      · rfl
  · next userId rows =>
      have spared : (row.userId == userId && row.revokedAt.isNone) = false := by
        simp [hSome]
      rw [spared, if_neg Bool.false_ne_true]
  · rfl

theorem ServerRun.revocationsStay_iff (run : ServerRun state start pool) :
    RevocationsStay pool ↔ RevokedFirst pool := by
  constructor
  · intro stay k i draw tokenHash rows step row hMem hHash
    cases hRevoked : row.revokedAt with
    | none => exact .inl rfl
    | some t =>
        right
        obtain ⟨row', hMem', hId, hSame⟩ :=
          stay k (k + 1) (Nat.le_succ k) row hMem (by rw [hRevoked]; rfl)
        rw [← step.after_eq, answer_refreshTokens, step.reply_eq] at hMem'
        obtain ⟨old, hOld, rfl⟩ : ∃ old ∈ (pool.storeAt k).refreshTokens.rows,
            RefreshTokenRow.after draw ⟨.sql (.revokeRefreshToken tokenHash), .ok rows⟩ old = row' := by
          simpa [RefreshTokenRow.inserted] using hMem'
        obtain rfl : old = row := by
          apply Table.eq_of_clash _ RefreshTokenRow.clash_comm hOld hMem
          rw [RefreshTokenRow.after_id] at hId
          simp [RefreshTokenRow.clash, hId]
        rw [← hRevoked, ← hSame]
        simp [RefreshTokenRow.after, hHash]
  · intro revokedFirst k l h row hMem hSome
    induction l, h using Nat.le_induction with
    | base => exact ⟨row, hMem, rfl, rfl⟩
    | succ l _ ih =>
        obtain ⟨row', hMem', hId, hSame⟩ := ih
        cases hEvent : pool.log[l]? with
        | none =>
            have hl := List.getElem?_eq_none_iff.mp hEvent
            rw [Pool.storeAt_end hl] at hMem'
            rw [Pool.storeAt_end (Nat.le_succ_of_le hl)]
            exact ⟨row', hMem', hId, hSame⟩
        | some event =>
            have step := run.executed hEvent
            have hNext : RefreshTokenRow.after event.draw (event.call answer) row' ∈
                (pool.storeAt (l + 1)).refreshTokens.rows := by
              rw [← step.after_eq, answer_refreshTokens, step.reply_eq]
              exact List.mem_append_left _ (List.mem_map_of_mem hMem')
            refine ⟨_, hNext, (RefreshTokenRow.after_id _ _ _).trans hId, ?_⟩
            rw [RefreshTokenRow.after_revokedAt (by rwa [hSame]), hSame]
            intro rows hCall
            rcases revokedFirst l event.client event.draw row'.tokenHash rows (step.of_call hCall)
                row' hMem' rfl with hNone | hTime
            · rw [hSame] at hNone
              simp [hNone] at hSome
            · exact hTime

/-- For every reachable store, a second logout leaves the sessions as the first one
left them exactly if it fails or the rows of the token have its time already; and in a
run no time of revocation is replaced exactly if single tokens are only revoked first. -/
theorem revocation_time_iff (run : ServerRun state migrated pool) :
    (∀ body first second,
      (storeAfter (handle state (.logout body)) second
          (storeAfter (handle state (.logout body)) first pool.store)).refreshTokens.rows =
        (storeAfter (handle state (.logout body)) first pool.store).refreshTokens.rows ↔
      second.head.fault ≠ none ∨ ∀ row ∈ pool.store.refreshTokens.rows,
        row.tokenHash = hashRefreshToken body.refreshToken →
          row.loggedOutAt first.head = some second.head.dbNow) ∧
    (RevocationsStay pool ↔ RevokedFirst pool) :=
  ⟨fun body first second => logout_twice_iff body first second, run.revocationsStay_iff⟩

/-- Evaluates what `RevokedFirst` asks of one step. -/
def revokedFirst (event : Event Db Draw Op) : Bool :=
  match event.op with
  | .sql (.revokeRefreshToken tokenHash) =>
      event.before.refreshTokens.rows.all fun row => row.tokenHash != tokenHash ||
        row.revokedAt == none || row.revokedAt == some event.draw.dbNow
  | _ => true

theorem revokedFirst_of_log (h : pool.log.all revokedFirst = true) : RevokedFirst pool := by
  intro k i draw tokenHash rows step row hMem hHash
  have hEvent := List.all_eq_true.mp h _ (List.mem_of_getElem? step.event)
  have hRow := List.all_eq_true.mp hEvent row hMem
  simpa [hHash] using hRow

end Times

/-! ### Runs of the reference instance -/

section Runs

attribute [local instance] reference

/-- The first user logs out twice. -/
def logoutTwice : ServerPool :=
  Pool.play answer (handle exampleState) migrated (registration ++
    [.arrive (.logout ⟨firstToken⟩), .step 1 (moment 20), .arrive (.logout ⟨firstToken⟩),
      .step 2 (moment 21)])

/-- The second logout replaces the time of the first, in a run and alone. -/
theorem revocation_time_replaced :
    (∃ (pool : ServerPool) (k l : Nat) (row row' : RefreshTokenRow),
      ServerRun exampleState migrated pool ∧ k ≤ l ∧
      row ∈ (pool.storeAt k).refreshTokens.rows ∧ row' ∈ (pool.storeAt l).refreshTokens.rows ∧
      row'.id = row.id ∧ row.revokedAt = some (moment 20).dbNow ∧
      row'.revokedAt = some (moment 21).dbNow) ∧
    ∃ (pool : ServerPool) (body : LogoutReq) (first second : Stream' Draw),
      ServerRun exampleState migrated pool ∧
      (storeAfter (handle exampleState (.logout body)) second
          (storeAfter (handle exampleState (.logout body)) first pool.store)).refreshTokens.rows ≠
        (storeAfter (handle exampleState (.logout body)) first pool.store).refreshTokens.rows := by
  constructor
  · have replaced : ∃ row ∈ (logoutTwice.storeAt 15).refreshTokens.rows,
        row.revokedAt = some (moment 20).dbNow ∧
          ∃ row' ∈ (logoutTwice.storeAt 16).refreshTokens.rows, row'.id = row.id ∧
            row'.revokedAt = some (moment 21).dbNow := by
      decide +kernel
    obtain ⟨row, hMem, hTime, row', hMem', hId, hTime'⟩ := replaced
    exact ⟨logoutTwice, 15, 16, row, row', Runs.play _, by decide, hMem, hMem', hId, hTime, hTime'⟩
  · exact ⟨registered, ⟨firstToken⟩, moments 20, moments 21, registered_run, by decide +kernel⟩

/-- A refresh in turn revokes its token first, and a second logout at the time of the
first one leaves its stored token as it was. -/
theorem revocation_time_in_turn : RevocationsStay refreshesInTurn ∧
    (∃ row ∈ refreshesInTurn.store.refreshTokens.rows,
      row.tokenHash = hashRefreshToken firstToken) ∧
    (storeAfter (handle exampleState (.logout ⟨firstToken⟩)) (moments 40)
        (storeAfter (handle exampleState (.logout ⟨firstToken⟩)) (moments 40)
          refreshesInTurn.store)).refreshTokens.rows =
      (storeAfter (handle exampleState (.logout ⟨firstToken⟩)) (moments 40)
        refreshesInTurn.store).refreshTokens.rows := by
  have run : ServerRun exampleState migrated refreshesInTurn := Runs.play _
  obtain ⟨twice, stay⟩ := revocation_time_iff run
  refine ⟨stay.mpr (revokedFirst_of_log (by decide +kernel)), by decide +kernel,
    (twice _ _ _).mpr (.inr ?_)⟩
  intro row _ _
  exact if_pos rfl

end Runs

end GenericAuth
