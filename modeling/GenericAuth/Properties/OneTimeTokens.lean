import GenericAuth.Auth.Reference
import Mathlib.Combinatorics.Enumerative.DoubleCounting

/-! One-time tokens under concurrency. Both tables are consumed by a single
guarded update, so a token is used once, in time, and for the user it was stored
for, and resets update no more passwords than tokens were stored. -/
namespace GenericAuth

open Interaction Relational

inductive TokenKind where
  | emailVerification
  | passwordReset
  deriving DecidableEq, Repr

namespace TokenKind

variable [External]

def table (db : Db) : TokenKind → Table OneTimeTokenRow.clash
  | .emailVerification => db.emailVerificationTokens
  | .passwordReset => db.passwordResetTokens

/-- Step `k` was a successful statement that stores a token. -/
def Stored (pool : ServerPool) (k i : Nat) (userId : Uuid) (tokenHash : String)
    (expiresAt : OffsetDateTime) : TokenKind → Prop
  | .emailVerification =>
      Did pool k i (.storeEmailVerificationToken userId tokenHash expiresAt) ()
  | .passwordReset => Did pool k i (.storePasswordResetToken userId tokenHash expiresAt) ()

/-- Step `k` consumed a token, and learned whose it was. -/
def Consumed (pool : ServerPool) (k i : Nat) (draw : Draw) (tokenHash : String) (userId : Uuid) :
    TokenKind → Prop
  | .emailVerification =>
      pool.Executed answer k i draw (.sql (.consumeEmailVerificationToken tokenHash))
        (.ok (some userId))
  | .passwordReset =>
      pool.Executed answer k i draw (.sql (.consumePasswordResetToken tokenHash))
        (.ok (some userId))

end TokenKind

section Runs

variable [External] {state : AppState} {start : Db} {pool : ServerPool} {kind : TokenKind}
    {k l i j : Nat} {draw draw' : Draw} {userId userId' : Uuid} {tokenHash : String}

theorem TokenKind.later {db db' : Db} (later : db.Later db') :
    Table.Evolves OneTimeTokenRow.Later (kind.table db) (kind.table db') := by
  cases kind with
  | emailVerification => exact later.emailVerificationTokens
  | passwordReset => exact later.passwordResetTokens

/-! ### Single use -/

/-- The row that a consuming step found and used. -/
theorem TokenKind.Consumed.row (consumed : kind.Consumed pool k i draw tokenHash userId) :
    ∃ row ∈ (kind.table (pool.storeAt k)).rows, row.tokenHash = tokenHash ∧ row.userId = userId ∧
      row.usedAt = none ∧ draw.dbNow < row.expiresAt ∧
      { row with usedAt := some draw.dbNow } ∈ (kind.table (pool.storeAt (k + 1))).rows := by
  cases kind with
  | emailVerification => exact consumeEmailVerificationToken_reply consumed.effect
  | passwordReset => exact consumePasswordResetToken_reply consumed.effect

theorem TokenKind.Consumed.not_later (run : ServerRun state start pool)
    (first : kind.Consumed pool k i draw tokenHash userId)
    (second : kind.Consumed pool l j draw' tokenHash userId') : ¬k < l := by
  intro hkl
  obtain ⟨row, _, hHash, _, _, _, hUsed⟩ := first.row
  obtain ⟨row', hMem', hHash', _, hUnused, _⟩ := second.row
  obtain ⟨last, hLast, later⟩ := TokenKind.later (run.later hkl) _ hUsed
  obtain rfl := oneTimeToken_unique hLast hMem' (later.tokenHash.trans (hHash.trans hHash'.symm))
  simpa [hUnused] using later.usedAt rfl

theorem TokenKind.Consumed.unique (run : ServerRun state start pool)
    (first : kind.Consumed pool k i draw tokenHash userId)
    (second : kind.Consumed pool l j draw' tokenHash userId') : k = l := by
  have hkl := first.not_later run second
  have hlk := second.not_later run first
  omega

/-- A client is in charge of the tokens that it consumes. -/
theorem TokenKind.Consumed.client_eq
    (first : kind.Consumed pool k i draw tokenHash userId)
    (second : kind.Consumed pool k j draw' tokenHash userId') : i = j := by
  cases kind with
  | emailVerification => exact (Pool.Executed.unique first second).1
  | passwordReset => exact (Pool.Executed.unique first second).1

/-! ### Provenance -/

/-- The call that stores the token of a row. -/
def TokenKind.storing (row : OneTimeTokenRow) : TokenKind → Call Op Op.Reply
  | .emailVerification =>
      ⟨.sql (.storeEmailVerificationToken row.userId row.tokenHash row.expiresAt), .ok ()⟩
  | .passwordReset =>
      ⟨.sql (.storePasswordResetToken row.userId row.tokenHash row.expiresAt), .ok ()⟩

/-- One step: each row was there, or is stored under a hash that was free. -/
theorem TokenKind.origin_step (kind : TokenKind) (draw : Draw) (db : Db) (op : Op)
    (row : OneTimeTokenRow) (hMem : row ∈ (kind.table (answer draw db op).2).rows) :
    (∃ old ∈ (kind.table db).rows, old.Later row) ∨
      (⟨op, (answer draw db op).1⟩ = kind.storing row ∧
        ∀ old ∈ (kind.table db).rows, old.tokenHash ≠ row.tokenHash) := by
  have effect := answer_effect draw db op
  generalize (answer draw db op).1 = reply, (answer draw db op).2 = db' at effect hMem
  have same (hOld : row ∈ (kind.table db).rows) : ∃ old ∈ (kind.table db).rows, old.Later row :=
    ⟨row, hOld, .refl row⟩
  cases effect with
  | storeEmailVerificationToken inserted =>
      cases kind with
      | passwordReset => exact .inl (same hMem)
      | emailVerification =>
          rcases (Table.mem_insert inserted).mp hMem with hOld | rfl
          · exact .inl (same hOld)
          · exact .inr ⟨rfl, oneTimeToken_free inserted⟩
  | storePasswordResetToken inserted =>
      cases kind with
      | emailVerification => exact .inl (same hMem)
      | passwordReset =>
          rcases (Table.mem_insert inserted).mp hMem with hOld | rfl
          · exact .inl (same hOld)
          · exact .inr ⟨rfl, oneTimeToken_free inserted⟩
  | consumeEmailVerificationToken tokenHash =>
      cases kind with
      | passwordReset => exact .inl (same hMem)
      | emailVerification => exact .inl (mem_consumeOneTimeToken hMem)
  | consumePasswordResetToken tokenHash =>
      cases kind with
      | emailVerification => exact .inl (same hMem)
      | passwordReset => exact .inl (mem_consumeOneTimeToken hMem)
  | _ => cases kind <;> exact .inl (same hMem)

/-- Each row was stored by a step, under a hash that was free. -/
theorem TokenKind.stored_of_mem (run : ServerRun state migrated pool) {row : OneTimeTokenRow}
    (hMem : row ∈ (kind.table (pool.storeAt l)).rows) :
    ∃ k < l, ∃ i, kind.Stored pool k i row.userId row.tokenHash row.expiresAt ∧
      ∀ old ∈ (kind.table (pool.storeAt k)).rows, old.tokenHash ≠ row.tokenHash := by
  have hStart : (kind.table migrated).rows = [] := by cases kind <;> rfl
  obtain ⟨k, hk, i, draw, op, reply, written, step, ⟨hCall, free⟩, later⟩ :=
    run.origin (fun db => (kind.table db).rows) OneTimeTokenRow.Later
      (fun _ db op reply row => ⟨op, reply⟩ = kind.storing row ∧
        ∀ old ∈ (kind.table db).rows, old.tokenHash ≠ row.tokenHash)
      OneTimeTokenRow.Later.refl OneTimeTokenRow.Later.trans hStart (kind.origin_step) hMem
  rw [later.userId, later.tokenHash, later.expiresAt]
  refine ⟨k, hk, i, ?_, free⟩
  cases kind <;> cases hCall <;> exact ⟨draw, step⟩

/-- A stored hash stays taken. -/
theorem TokenKind.Stored.taken (run : ServerRun state start pool) {expiresAt : OffsetDateTime}
    (stored : kind.Stored pool k i userId tokenHash expiresAt) (h : k < l) :
    ∃ row ∈ (kind.table (pool.storeAt l)).rows, row.tokenHash = tokenHash := by
  have hNext : ∃ row ∈ (kind.table (pool.storeAt (k + 1))).rows, row.tokenHash = tokenHash := by
    cases kind with
    | emailVerification =>
        obtain ⟨draw, step⟩ := stored
        obtain ⟨hReply, hStore⟩ := Prod.mk.inj (exec_of_answer step.effect)
        rw [← hStore]
        exact storeOneTimeToken_taken (Prod.ext hReply rfl)
    | passwordReset =>
        obtain ⟨draw, step⟩ := stored
        obtain ⟨hReply, hStore⟩ := Prod.mk.inj (exec_of_answer step.effect)
        rw [← hStore]
        exact storeOneTimeToken_taken (Prod.ext hReply rfl)
  obtain ⟨row, hMem, hHash⟩ := hNext
  obtain ⟨last, hLast, later⟩ := TokenKind.later (run.later h) row hMem
  exact ⟨last, hLast, later.tokenHash.trans hHash⟩

/-- A consumed token was in time, and it is the user's that the first statement
which stored the hash named. -/
theorem TokenKind.Consumed.provenance (run : ServerRun state migrated pool)
    (consumed : kind.Consumed pool k i draw tokenHash userId) :
    ∃ expiresAt, draw.dbNow < expiresAt ∧ ∃ l < k, ∃ j,
      kind.Stored pool l j userId tokenHash expiresAt ∧
      ∀ m < l, ∀ j' userId' expiresAt', ¬kind.Stored pool m j' userId' tokenHash expiresAt' := by
  obtain ⟨row, hMem, rfl, rfl, _, hTime, _⟩ := consumed.row
  obtain ⟨l, hl, j, stored, free⟩ := TokenKind.stored_of_mem run hMem
  refine ⟨row.expiresAt, hTime, l, hl, j, stored, ?_⟩
  intro m hm j' userId' expiresAt' earlier
  obtain ⟨old, hOld, hHash⟩ := earlier.taken run hm
  exact free old hOld hHash

/-! ### Password updates -/

def updatesPassword (userId : Uuid) (event : Event Db Draw Op) : Bool :=
  match event.op with
  | .sql (.updatePasswordHash _ owner) => owner == userId
  | _ => false

/-- The steps that update the password of a user, which only resets make. -/
def passwordUpdates (pool : ServerPool) (userId : Uuid) : Finset Nat :=
  (Finset.range pool.log.length).filter fun k => (pool.log[k]?).any (updatesPassword userId)

def resetTokens (db : Db) (userId : Uuid) : List OneTimeTokenRow :=
  db.passwordResetTokens.rows.filter fun row => row.userId == userId

theorem updatesPassword_eq {event : Event Db Draw Op} (h : updatesPassword userId event = true) :
    ∃ phc, event.op = .sql (.updatePasswordHash phc userId) := by
  unfold updatesPassword at h
  split at h
  · next phc owner hOp =>
      obtain rfl : owner = userId := by simpa using h
      exact ⟨phc, hOp⟩
  · simp at h

/-- Step `k` was a password update by a client that consumed this token before. -/
def UpdatedWith (pool : ServerPool) (userId : Uuid) (k i : Nat) (tokenHash : String) : Prop :=
  (∃ draw phc reply,
    pool.Executed answer k i draw (.sql (.updatePasswordHash phc userId)) reply) ∧
  ∃ l draw, TokenKind.passwordReset.Consumed pool l i draw tokenHash userId

theorem ServerRun.updatedWith (run : ServerRun state start pool)
    (hUpdate : k ∈ passwordUpdates pool userId) :
    ∃ i tokenHash, UpdatedWith pool userId k i tokenHash := by
  obtain ⟨_, hAny⟩ := Finset.mem_filter.mp hUpdate
  obtain ⟨event, hEvent, hUpdates⟩ := (Option.any_eq_true _ _).mp hAny
  obtain ⟨phc, hOp⟩ := updatesPassword_eq hUpdates
  have step := run.executed hEvent
  obtain ⟨i, draw, before, op⟩ := event
  cases hOp
  obtain ⟨_, _, body, _, saw, _⟩ := Runs.allowed (handle_obeys state) run step
  obtain ⟨l, _, draw', consumed⟩ := run.executed_of_past saw
  exact ⟨i, _, ⟨draw, phc, _, step⟩, l, draw', consumed⟩

/-- Updates made with one token are made by one client, which makes only one. -/
theorem UpdatedWith.unique (run : ServerRun state start pool)
    (first : UpdatedWith pool userId k i tokenHash)
    (second : UpdatedWith pool userId l j tokenHash) : k = l := by
  obtain ⟨⟨_, _, _, step⟩, m, draw, consumed⟩ := first
  obtain ⟨⟨_, _, _, step'⟩, n, draw', consumed'⟩ := second
  obtain rfl := consumed.unique run consumed'
  obtain rfl := consumed.client_eq consumed'
  exact run.once Op.isUpdatePassword (by simp [onceOnly]) step step' rfl rfl

omit [External] in
theorem oneTimeToken_nodup (table : Table OneTimeTokenRow.clash) : table.rows.Nodup :=
  table.distinct.imp fun h hEq => by simp [hEq, OneTimeTokenRow.clash] at h

theorem ServerRun.card_passwordUpdates_le (run : ServerRun state start pool) (userId : Uuid) :
    (passwordUpdates pool userId).card ≤ (resetTokens pool.store userId).length := by
  have hNodup : (resetTokens pool.store userId).Nodup :=
    (oneTimeToken_nodup pool.store.passwordResetTokens).filter _
  rw [← List.toFinset_card_of_nodup hNodup]
  refine Finset.card_le_card_of_forall_subsingleton
    (fun k row => ∃ i, UpdatedWith pool userId k i row.tokenHash) ?_ ?_
  · intro k hk
    obtain ⟨i, tokenHash, updated⟩ := run.updatedWith hk
    obtain ⟨l, draw, consumed⟩ := updated.2
    obtain ⟨row, hMem, hHash, hUser, _⟩ := consumed.row
    have hEnd : l ≤ pool.log.length := Nat.le_of_lt (Pool.Executed.lt_length consumed)
    obtain ⟨last, hLast, later⟩ := (run.later hEnd).passwordResetTokens row hMem
    rw [Pool.storeAt_end (Nat.le_refl _)] at hLast
    refine ⟨last, ?_, i, by rwa [later.tokenHash, hHash]⟩
    simp [resetTokens, hLast, later.userId, hUser]
  · rintro row - k ⟨-, i, first⟩ l ⟨-, j, second⟩
    exact first.unique run second

/-- One-time tokens of either kind are consumed at most once, in time, and for
the user they were stored for. Resets update no more passwords of a user than
reset tokens were stored for that user. -/
theorem oneTimeTokens_singleUse (run : ServerRun state migrated pool) :
    (∀ (kind : TokenKind) k l i j draw draw' tokenHash userId userId',
      kind.Consumed pool k i draw tokenHash userId →
      kind.Consumed pool l j draw' tokenHash userId' → k = l) ∧
    (∀ (kind : TokenKind) k i draw tokenHash userId,
      kind.Consumed pool k i draw tokenHash userId →
      ∃ expiresAt, draw.dbNow < expiresAt ∧ ∃ l < k, ∃ j,
        kind.Stored pool l j userId tokenHash expiresAt ∧
        ∀ m < l, ∀ j' userId' expiresAt', ¬kind.Stored pool m j' userId' tokenHash expiresAt') ∧
    ∀ userId, (passwordUpdates pool userId).card ≤ (resetTokens pool.store userId).length :=
  ⟨fun _ _ _ _ _ _ _ _ _ _ first second => first.unique run second,
    fun _ _ _ _ _ _ consumed => consumed.provenance run, run.card_passwordUpdates_le⟩

end Runs

section Example

attribute [local instance] reference

/-- Two resets present one token at the same time. -/
def resetsAtOnce : ServerPool :=
  let token := hexEncode (moment 21).uuid ++ hexEncode (moment 22).uuid
  Pool.play answer (handle exampleState) migrated (registration ++
    [.arrive (.forgotPassword ⟨"user@example.org"⟩)] ++ steps 1 20 6 ++
    [.arrive (.resetPassword ⟨token, "new password"⟩),
      .arrive (.resetPassword ⟨token, "another one"⟩)] ++
    steps 2 30 1 ++ steps 3 40 4 ++ steps 2 50 3)

theorem oneTimeTokens_singleUse_atOnce :
    (passwordUpdates resetsAtOnce firstUser).card = 1 ∧
      (passwordUpdates resetsAtOnce firstUser).card ≤
        (resetTokens resetsAtOnce.store firstUser).length :=
  ⟨by decide +kernel, (oneTimeTokens_singleUse (Runs.play _)).2.2 firstUser⟩

end Example

end GenericAuth
