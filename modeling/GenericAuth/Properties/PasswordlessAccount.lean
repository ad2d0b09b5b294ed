import GenericAuth.Api.Chosen
import GenericAuth.Db.Rows
import GenericAuth.Properties.OneTimeTokens
import GenericAuth.Properties.EmailProvenance

/-! Accounts without a password. A reset token is stored only for a user who has a
password, and no statement takes one away, so no token can give a password to a
user who never had one. -/
namespace GenericAuth

open Interaction Relational

section Passwordless

variable [External] {state : AppState} {start : Db} {pool : ServerPool} {k l i : Nat} {u : Uuid}

theorem ServerRun.hasPassword_later (run : ServerRun state start pool) (h : k ≤ l)
    (hasPassword : (pool.storeAt k).HasPassword u) : (pool.storeAt l).HasPassword u :=
  run.related (fun before after => before.HasPassword u → after.HasPassword u) (fun _ => id)
    (fun _ _ _ first second h => second (first h))
    (fun draw db op h => answer_hasPassword draw db op h) h hasPassword

/-- A user who was found with a password has one. -/
theorem hasPassword_of_found {draw : Draw} {db db' : Db} {email : String} {found : UserSecretRecord}
    (h : answer draw db (.sql (.findByEmail email)) = (.ok (some found), db'))
    (hSome : found.passwordHash.isSome) : db.HasPassword found.id := by
  obtain ⟨row, hMem, _, hColumns, hHash⟩ := findByEmail_reply h
  exact ⟨row, hMem, by rw [hColumns], hHash ▸ hSome⟩

/-- Reset tokens belong to users who have a password. -/
theorem ServerRun.resetToken_hasPassword (run : ServerRun state migrated pool)
    {row : OneTimeTokenRow} (hMem : row ∈ (pool.storeAt l).passwordResetTokens.rows) :
    (pool.storeAt l).HasPassword row.userId := by
  have hToken : row ∈ (TokenKind.passwordReset.table (pool.storeAt l)).rows := hMem
  obtain ⟨k, hk, i, ⟨draw, stored⟩, _⟩ := TokenKind.stored_of_mem run hToken
  obtain ⟨request, _, chosen⟩ := Runs.allowed (handle_chosen state) run stored
  cases request with
  | forgotPassword body =>
      obtain ⟨found, hId, saw, hSome⟩ := chosen
      obtain ⟨m, hm, draw', step⟩ := run.executed_of_past saw
      have hasPassword := hasPassword_of_found step.effect hSome
      rw [hId] at hasPassword
      exact run.hasPassword_later (Nat.le_of_lt (Nat.lt_trans hm hk)) hasPassword
  | _ => exact chosen.elim

/-- A step gives a password only to a user who has one. -/
theorem ServerRun.passwordHash_step (run : ServerRun state migrated pool) {row : UserRow}
    (hMem : row ∈ (pool.storeAt k).users.rows) (hNone : row.passwordHash = none) :
    ∃ row' ∈ (pool.storeAt (k + 1)).users.rows, row'.id = row.id ∧ row'.passwordHash = none := by
  cases hEvent : pool.log[k]? with
  | none =>
      have hk := List.getElem?_eq_none_iff.mp hEvent
      rw [Pool.storeAt_end (Nat.le_succ_of_le hk), ← Pool.storeAt_end hk]
      exact ⟨row, hMem, rfl, hNone⟩
  | some event =>
      have step := run.executed hEvent
      obtain ⟨client, draw, before, op⟩ := event
      refine ⟨UserRow.after draw ⟨op, (answer draw (pool.storeAt k) op).1⟩ row, ?_,
        UserRow.after_id .., ?_⟩
      · rw [← step.after_eq, answer_users]
        exact List.mem_append_left _ (List.mem_map_of_mem hMem)
      rw [UserRow.after_passwordHash]
      · exact hNone
      rintro phc rfl
      obtain ⟨request, _, body, _, saw, _⟩ := Runs.allowed (handle_obeys state) run step
      obtain ⟨m, hm, draw', consumed⟩ := run.executed_of_past saw
      obtain ⟨token, hToken, _, hUser, _⟩ := consumePasswordResetToken_reply consumed.effect
      have hasPassword := run.resetToken_hasPassword hToken
      rw [hUser] at hasPassword
      obtain ⟨row', hMem', hId, hSome⟩ := run.hasPassword_later (Nat.le_of_lt hm) hasPassword
      rw [userRow_unique hMem' hMem hId, hNone] at hSome
      cases hSome

theorem ServerRun.passwordHash_later (run : ServerRun state migrated pool) (h : k ≤ l)
    {row : UserRow} (hMem : row ∈ (pool.storeAt k).users.rows) (hNone : row.passwordHash = none) :
    ∃ row' ∈ (pool.storeAt l).users.rows, row'.id = row.id ∧ row'.passwordHash = none := by
  induction l, h using Nat.le_induction with
  | base => exact ⟨row, hMem, rfl, hNone⟩
  | succ l _ ih =>
      obtain ⟨middle, hMiddle, hId, hMiddleNone⟩ := ih
      obtain ⟨last, hLast, hLastId, hLastNone⟩ := run.passwordHash_step hMiddle hMiddleNone
      exact ⟨last, hLast, hLastId.trans hId, hLastNone⟩

/-- No login finds a password under the address of such a user, at any time. -/
theorem ServerRun.login_fails (run : ServerRun state migrated pool) {row : UserRow}
    (hMem : row ∈ (pool.storeAt k).users.rows) (hNone : row.passwordHash = none) {body : LoginReq}
    {outcome : Outcome} (hEmail : sameEmail row.email (some body.email) = true)
    (returned : pool.Returned i (.login body) outcome) : ∃ stop, outcome = .error stop := by
  cases outcome with
  | error stop => exact ⟨stop, rfl⟩
  | ok payload =>
      have isPair := run.obeys (handle_payload state) returned payload rfl
      have finished := run.finished returned
      cases payload with
      | tokenPair pair =>
          obtain ⟨userId, _, _, _, ⟨found, phc, saw, hId, hSome, _⟩, _⟩ := finished
          obtain ⟨l, draw, step⟩ := run.executed_of_past_full saw
          obtain ⟨user, hUser, hUserEmail, _, hUserHash⟩ := findByEmail_reply step.effect
          -- both rows are the one with this address in the later of the two stores
          have same {m : Nat} (hk : k ≤ m) (hl : l ≤ m) : user.id = row.id := by
            obtain ⟨row', hRow', later⟩ := (run.later hk).users row hMem
            obtain ⟨user', hUser', later'⟩ := (run.later hl).users user hUser
            rw [← later.id, ← later'.id, userEmail_unique hUser' hRow' (later'.email ▸ hUserEmail)
              (later.email ▸ hEmail)]
          have hasPassword : (pool.storeAt l).HasPassword user.id :=
            ⟨user, hUser, rfl, by rw [← hUserHash, hSome]; rfl⟩
          rcases Nat.le_total k l with hkl | hlk
          · obtain ⟨row', hRow', hId', hNone'⟩ := run.passwordHash_later hkl hMem hNone
            obtain ⟨user', hUser', hUserId, hSome'⟩ := hasPassword
            rw [userRow_unique hUser' hRow' (by rw [hUserId, hId', same hkl (Nat.le_refl l)]),
              hNone'] at hSome'
            cases hSome'
          · obtain ⟨user', hUser', hUserId, hSome'⟩ := run.hasPassword_later hlk hasPassword
            rw [userRow_unique hUser' hMem (by rw [hUserId, same (Nat.le_refl k) hlk]), hNone]
              at hSome'
            cases hSome'
      | _ => cases isPair

/-- In every store of every run, whatever fails, reset tokens belong to users who
have a password. Who has none never gets one, and cannot log in. -/
theorem passwordless_stays (run : ServerRun state migrated pool) :
    (∀ k, ∀ row ∈ (pool.storeAt k).passwordResetTokens.rows,
      (pool.storeAt k).HasPassword row.userId) ∧
    ∀ k, ∀ row ∈ (pool.storeAt k).users.rows, row.passwordHash = none →
      (∀ l, k ≤ l → ∃ row' ∈ (pool.storeAt l).users.rows, row'.id = row.id ∧
        row'.passwordHash = none) ∧
      ∀ i body outcome, sameEmail row.email (some body.email) = true →
        pool.Returned i (.login body) outcome → ∃ stop, outcome = .error stop :=
  ⟨fun _ _ hMem => run.resetToken_hasPassword hMem, fun _ _ hMem hNone =>
    ⟨fun _ h => run.passwordHash_later h hMem hNone,
      fun _ _ _ hEmail returned => run.login_fails hMem hNone hEmail returned⟩⟩

end Passwordless

/-! ### A run of the reference instance -/

section Runs

attribute [local instance] reference

/-- A user signs in with the provider, asks for a reset, and tries to log in. -/
def passwordlessLogin : ServerPool :=
  Pool.play answer (handle exampleState) migrated
    ([.arrive (.googleCallback ⟨"code", none⟩), exchange 0 0 (profileWith (some true))] ++
      steps 0 1 9 ++ [.arrive (.forgotPassword ⟨"user@example.org"⟩)] ++ steps 1 20 6 ++
      [.arrive (.login ⟨"user@example.org", "password"⟩)] ++ steps 2 30 6)

/-- The login of such a user has failed. -/
theorem passwordless_stays_login : (∃ outcome, passwordlessLogin.Returned 2
      (.login ⟨"user@example.org", "password"⟩) outcome) ∧
    ∀ outcome, passwordlessLogin.Returned 2 (.login ⟨"user@example.org", "password"⟩) outcome →
      ∃ stop, outcome = .error stop := by
  have returned : ((passwordlessLogin.finished 2).map Prod.fst) =
      some (.login ⟨"user@example.org", "password"⟩) := by decide +kernel
  have stored : ((passwordlessLogin.storeAt 12).users.rows.any fun row =>
      row.passwordHash.isNone && sameEmail row.email (some "user@example.org")) = true := by
    decide +kernel
  obtain ⟨⟨request, outcome⟩, hFinished, rfl⟩ := Option.map_eq_some_iff.mp returned
  obtain ⟨row, hMem, hRow⟩ := List.any_eq_true.mp stored
  obtain ⟨hNone, hEmail⟩ := Bool.and_eq_true_iff.mp hRow
  have run : ServerRun exampleState migrated passwordlessLogin := Runs.play _
  exact ⟨⟨outcome, Pool.finished_iff.mp hFinished⟩, fun outcome returned =>
    ((passwordless_stays run).2 12 row hMem (Option.isNone_iff_eq_none.mp hNone)).2 2 _ outcome hEmail
      returned⟩

end Runs

end GenericAuth
