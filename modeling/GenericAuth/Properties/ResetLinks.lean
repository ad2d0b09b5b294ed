import GenericAuth.Api.Recovery
import GenericAuth.Api.Steps
import GenericAuth.Auth.Reference
import GenericAuth.Interaction.Serial

/-! Reset links after a successful reset. The reset spends the token that it was
given, for good. It leaves the other tokens alone, the user's own included, so an
older link keeps working until it is used itself or expires. -/
namespace GenericAuth

open Interaction Relational

section Links

variable [External] {state : AppState} {request : Request} {body body' : ResetPasswordReq}
    {draws draws' : Stream' Draw} {db db' : Db} {row : OneTimeTokenRow}

/-- The reset is refused, and leaves the store as it was. -/
def Rejects (state : AppState) (body : ResetPasswordReq) (draws : Stream' Draw) (db : Db) : Prop :=
  (∃ stop, outcomeOf (handle state (.resetPassword body)) draws db = .error stop) ∧
    storeAfter (handle state (.resetPassword body)) draws db = db

/-- A consuming statement leaves the tokens of other hashes alone. -/
theorem resetToken_kept {draw : Draw} {op : Op} {reply : op.Reply}
    (effect : Effect draw db op reply db') (hMem : row ∈ db.passwordResetTokens.rows)
    (hOther : op ≠ .sql (.consumePasswordResetToken row.tokenHash)) :
    row ∈ db'.passwordResetTokens.rows := by
  cases effect with
  | storePasswordResetToken inserted => exact (Table.mem_insert inserted).mpr (.inl hMem)
  | consumePasswordResetToken tokenHash =>
      refine List.mem_map.mpr ⟨row, hMem, ?_⟩
      have hHash : row.tokenHash ≠ tokenHash := fun hHash => hOther (by rw [hHash])
      simp [Db.consumable, hHash]
  | _ => exact hMem

/-- Only a reset that presents a token changes its row. -/
theorem resetToken_alone (hMem : row ∈ db.passwordResetTokens.rows)
    (hOther : ∀ body, request = .resetPassword body → sha256Hex body.token ≠ row.tokenHash) :
    row ∈ (storeAfter (handle state request) draws db).passwordResetTokens.rows := by
  apply keeps_alone (fun found => row ∈ found.passwordResetTokens.rows) hMem
  intro earlier found draw op step hFound
  apply resetToken_kept (answer_effect draw found op) hFound
  rintro rfl
  obtain ⟨body, hRequest, hHash⟩ := step.allowed
  exact hOther body hRequest hHash.symm

/-- A token that was consumed once cannot be consumed later. -/
theorem spent_later {draw : Draw} {userId : Uuid} {tokenHash : String}
    (hConsumed : (db.consumePasswordResetToken draw tokenHash).1 = some userId)
    (later : (db.consumePasswordResetToken draw tokenHash).2.Later db') (draw' : Draw) :
    ¬db'.Consumable draw' tokenHash := by
  obtain ⟨row, _, hHash, _, _, _, hUsed⟩ := consumeOneTimeToken_eq hConsumed
  obtain ⟨last, hLast, change⟩ := later.passwordResetTokens _ hUsed
  rintro ⟨found, hFound, hFoundHash, hUnused, _⟩
  rw [oneTimeToken_unique hFound hLast (hFoundHash.trans (change.tokenHash.trans hHash).symm)] at hUnused
  have hStill := change.usedAt rfl
  rw [hUnused] at hStill
  cases hStill

theorem consumable_iff {draw : Draw} (hMem : row ∈ db.passwordResetTokens.rows) :
    db.Consumable draw row.tokenHash ↔ row.usedAt = none ∧ draw.dbNow < row.expiresAt := by
  constructor
  · rintro ⟨found, hFound, hHash, hUnused, hInTime⟩
    rw [← oneTimeToken_unique hFound hMem hHash]
    exact ⟨hUnused, hInTime⟩
  · exact fun h => ⟨row, hMem, rfl, h⟩

/-- A token that a reset has used is rejected in every later store. -/
theorem rejects_again {payload : Payload}
    (h : outcomeOf (handle state (.resetPassword body)) draws db = .ok payload)
    (later : (storeAfter (handle state (.resetPassword body)) draws db).Later db')
    (hToken : body'.token = body.token) : Rejects state body' draws' db' := by
  obtain ⟨_, draw, draw', draw'', userId, _, phc, _, hConsumed, hAfter⟩ := reset_ok h
  rw [hAfter] at later
  have reset : (db.consumePasswordResetToken draw (sha256Hex body.token)).2.Later
      (db.reset draw draw' draw'' (sha256Hex body.token) phc userId) :=
    (Effect.updatePasswordHash phc userId).later.trans _ _ _
      (Effect.revokeAllRefreshTokens userId).later
  apply reset_rejected
  rw [hToken]
  exact spent_later hConsumed (reset.trans _ _ _ later) _

/-- A token that was used or has expired is rejected. -/
theorem rejects_ended (hMem : row ∈ db.passwordResetTokens.rows)
    (hHash : sha256Hex body.token = row.tokenHash)
    (hEnded : row.usedAt.isSome ∨ row.expiresAt ≤ (draws.get 0).dbNow) :
    Rejects state body draws db := by
  apply reset_rejected
  rw [hHash, consumable_iff hMem]
  rintro ⟨hUnused, hInTime⟩
  rcases hEnded with hUsed | hExpired
  · rw [hUnused] at hUsed
    cases hUsed
  · exact absurd hExpired (Int.not_le.mpr hInTime)

/-- After a successful reset the presented token is rejected for ever. No other
token has changed: each is rejected when it was used itself or has expired, and
is accepted otherwise. -/
theorem reset_spends_token {payload : Payload}
    (h : outcomeOf (handle state (.resetPassword body)) draws db = .ok payload)
    (history : List (Request × Stream' Draw)) :
    let after := storeAfter (handle state (.resetPassword body)) draws db
    let last := serially answer (handle state) history after
    (∀ body' draws', body'.token = body.token → Rejects state body' draws' last) ∧
    (∀ row ∈ db.passwordResetTokens.rows, row.tokenHash ≠ sha256Hex body.token →
      row ∈ after.passwordResetTokens.rows) ∧
    (∀ request draws' (db : Db), ∀ row ∈ db.passwordResetTokens.rows,
      (∀ body, request = .resetPassword body → sha256Hex body.token ≠ row.tokenHash) →
      row ∈ (storeAfter (handle state request) draws' db).passwordResetTokens.rows) ∧
    ∀ row ∈ last.passwordResetTokens.rows, ∀ body' draws', sha256Hex body'.token = row.tokenHash →
      (row.usedAt.isSome ∨ row.expiresAt ≤ (draws'.get 0).dbNow → Rejects state body' draws' last) ∧
      (row.usedAt = none → (draws'.get 0).dbNow < row.expiresAt → body'.validate = [] →
        (∀ n, (draws'.get n).fault = none) →
        (∃ phc, External.argon2Hash body'.newPassword (draws'.get 1).salt = .ok phc) →
        outcomeOf (handle state (.resetPassword body')) draws' last = .ok .empty) := by
  intro after last
  refine ⟨?_, ?_, fun request draws' db row hMem hOther => resetToken_alone hMem hOther, ?_⟩
  · intro body' draws' hToken
    exact rejects_again h (later_serially state history after) hToken
  · intro row hMem hHash
    apply resetToken_alone hMem
    intro body' hRequest
    cases hRequest
    exact hHash.symm
  · intro row hMem body' draws' hHash
    refine ⟨rejects_ended hMem hHash, ?_⟩
    intro hUnused hInTime hValid hFault hHashes
    apply reset_accepted hValid hFault hHashes
    rw [hHash]
    exact (consumable_iff hMem).mpr ⟨hUnused, hInTime⟩

end Links

/-! ### Runs of the reference instance -/

section Runs

attribute [local instance] reference

/-- A user registers and asks for two reset links. -/
def twoLinks : List (Request × Stream' Draw) :=
  [(.register ⟨"user@example.org", "password", none⟩, moments 0),
    (.forgotPassword ⟨"user@example.org"⟩, moments 20),
    (.forgotPassword ⟨"user@example.org"⟩, moments 40)]

def linked : Db := serially answer (handle exampleState) twoLinks migrated

def secondLink : String := hexEncode (moment 41).uuid ++ hexEncode (moment 42).uuid

/-- The store after the first link has been used. -/
def linkUsed : Db :=
  storeAfter (handle exampleState (.resetPassword ⟨resetToken, "password-one"⟩)) (moments 60) linked

/-- The token of the link is stored for this user. -/
def linksTo (db : Db) (link : String) (u : Uuid) : Bool :=
  db.passwordResetTokens.rows.any fun row => row.tokenHash == sha256Hex link && row.userId == u

/-- The second link still works after the first one has been used: it replaces the
password once more. -/
theorem second_link_works : ∃ (history : List (Request × Stream' Draw)) (u : Uuid)
      (body body' : ResetPasswordReq) (draws draws' : Stream' Draw),
    let db := serially answer (handle exampleState) history migrated
    let after := storeAfter (handle exampleState (.resetPassword body)) draws db
    linksTo db body.token u = true ∧
    outcomeOf (handle exampleState (.resetPassword body)) draws db = .ok .empty ∧
    linksTo db body'.token u = true ∧
    outcomeOf (handle exampleState (.resetPassword body')) draws' after = .ok .empty ∧
    ((storeAfter (handle exampleState (.resetPassword body')) draws' after).user u).map
        (fun row => row.passwordHash) ≠ (after.user u).map fun row => row.passwordHash :=
  ⟨twoLinks, firstUser, ⟨resetToken, "password-one"⟩, ⟨secondLink, "password-two"⟩, moments 60,
    moments 80, by decide +kernel, by decide +kernel, by decide +kernel, by decide +kernel,
    by decide +kernel⟩

/-- The first link is spent. -/
theorem reset_spends_first : Rejects exampleState ⟨resetToken, "password-two"⟩ (moments 80)
    linkUsed := by
  have done : outcomeOf (handle exampleState (.resetPassword ⟨resetToken, "password-one"⟩))
      (moments 60) linked = .ok .empty := by decide +kernel
  exact (reset_spends_token done []).1 ⟨resetToken, "password-two"⟩ (moments 80) rfl

end Runs

end GenericAuth
