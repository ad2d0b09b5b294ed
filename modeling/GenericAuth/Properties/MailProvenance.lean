import GenericAuth.Api.Secrecy
import GenericAuth.Properties.OneTimeTokens

/-! What is in the mails, and what their links can do. Each mail carries the link of a
token that its request drew and stored, and goes to the address of the user whom
the token is for. Unless the hash was stored for someone else before, no request
changes another account with that token. -/
namespace GenericAuth

open Interaction Relational

section Mails

variable [External] {state : AppState} {pool : ServerPool} {kind : TokenKind} {k l i : Nat}
    {draw : Draw} {userId : Uuid} {token : String}

/-- Subject and text of the mail with this token. -/
def TokenKind.mail (state : AppState) (token : String) : TokenKind → String × String
  | .emailVerification =>
      ("Confirm your email address", verificationText (verificationLink state token))
  | .passwordReset => ("Reset your password", resetText (resetLink state token))

/-- The token was drawn by this client, in steps before `k`. -/
def DrawnBefore (pool : ServerPool) (k i : Nat) (token : String) : Prop :=
  ∃ first second : Uuid, (∃ m < k, ∃ draw, pool.Executed answer m i draw .newV4 first) ∧
    (∃ m < k, ∃ draw, pool.Executed answer m i draw .newV4 second) ∧
    token = hexEncode first ++ hexEncode second

/-- The account with this id has this address, up to case. -/
def AddressAt (pool : ServerPool) (k : Nat) (userId : Uuid) (toEmail : String) : Prop :=
  ∃ row ∈ (pool.storeAt k).users.rows, row.id = userId ∧ sameEmail row.email (some toEmail) = true

/-- The token that a request presents. -/
def TokenKind.presented (request : Request) : TokenKind → Option String
  | .emailVerification =>
      match request with
      | .verifyEmail q => some q.token
      | _ => none
  | .passwordReset =>
      match request with
      | .resetPassword body => some body.token
      | _ => none

/-- The account that an operation of such a request changes. -/
def Op.changed : Op → Option Uuid
  | .sql (.markEmailVerified userId)
  | .sql (.updatePasswordHash _ userId)
  | .sql (.revokeAllRefreshTokens userId) => some userId
  | _ => none

/-- Whoever presents the token changes this account, if any. -/
def TokenKind.ActsOnlyFor (pool : ServerPool) (token : String) (userId : Uuid)
    (kind : TokenKind) : Prop :=
  ∀ m j request presented draw op reply owner, pool.Serves j request →
    kind.presented request = some presented → sha256Hex presented = sha256Hex token →
    pool.Executed answer m j draw op reply → op.changed = some owner → owner = userId

/-! ### Where a mail comes from -/

theorem ServerRun.drawnBefore (run : ServerRun state migrated pool)
    (drawn : DrawnToken (past answer (pool.log.take k) i) token) : DrawnBefore pool k i token := by
  obtain ⟨first, second, hFirst, hSecond, hToken⟩ := drawn
  exact ⟨first, second, run.executed_of_past hFirst, run.executed_of_past hSecond, hToken⟩

/-- An account keeps its address. -/
theorem AddressAt.later (run : ServerRun state migrated pool) {toEmail : String} (h : k ≤ l)
    (address : AddressAt pool k userId toEmail) : AddressAt pool l userId toEmail := by
  obtain ⟨row, hMem, rfl, hEmail⟩ := address
  obtain ⟨next, hNext, later⟩ := (run.later h).users row hMem
  exact ⟨next, hNext, later.id, by rwa [later.email]⟩

theorem ServerRun.addressAt (run : ServerRun state migrated pool) {toEmail : String}
    (address : AddressOf (past answer (pool.log.take k) i) userId toEmail) :
    AddressAt pool k userId toEmail := by
  rcases address with ⟨found, saw, rfl⟩ | ⟨found, saw, hEmail⟩
  · obtain ⟨m, hm, draw, step⟩ := run.did_of_saw saw
    obtain ⟨row, hMem, hSame, hColumns, _⟩ := findByEmail_reply step.effect
    exact AddressAt.later run hm.le ⟨row, hMem, congrArg UserColumns.id hColumns.symm, hSame⟩
  · obtain ⟨m, hm, draw, step⟩ := run.did_of_saw saw
    obtain ⟨row, hMem, hId, hColumns⟩ := findById_reply step.effect
    have hRow : row.email = some toEmail := (congrArg UserColumns.email hColumns).symm.trans hEmail
    exact AddressAt.later run hm.le ⟨row, hMem, hId, by simp [hRow, sameEmail]⟩

/-! ### What a link can do -/

/-- What the request with a token changes is the account that the token was first
stored for. -/
theorem ServerRun.stored_of_changed (run : ServerRun state migrated pool) {request : Request}
    {presented : String} {op : Op} {reply : op.Reply} {owner : Uuid} (serves : pool.Serves i request)
    (hPresented : kind.presented request = some presented)
    (step : pool.Executed answer k i draw op reply) (hChanged : op.changed = some owner) :
    ∃ l j expiresAt, kind.Stored pool l j owner (sha256Hex presented) expiresAt ∧
      ∀ m < l, ∀ j' userId' expiresAt',
        ¬kind.Stored pool m j' userId' (sha256Hex presented) expiresAt' := by
  obtain ⟨request', serves', allowed⟩ := Runs.allowed (handle_obeys state) run step
  obtain rfl := serves.unique serves'
  have first {l : Nat} {draw' : Draw}
      (consumed : kind.Consumed pool l i draw' (sha256Hex presented) owner) :
      ∃ l j expiresAt, kind.Stored pool l j owner (sha256Hex presented) expiresAt ∧ ∀ m < l,
        ∀ j' userId' expiresAt', ¬kind.Stored pool m j' userId' (sha256Hex presented) expiresAt' := by
    obtain ⟨expiresAt, _, m, _, j, stored⟩ := consumed.provenance run
    exact ⟨m, j, expiresAt, stored⟩
  unfold Op.changed at hChanged
  split at hChanged <;> cases hChanged
  · obtain ⟨q, rfl, saw⟩ := allowed
    cases kind with
    | emailVerification =>
        obtain rfl := Option.some.inj hPresented
        obtain ⟨_, _, _, consumed⟩ := run.executed_of_past saw
        exact first consumed
    | passwordReset => cases hPresented
  · obtain ⟨body, rfl, saw, _⟩ := allowed
    cases kind with
    | emailVerification => cases hPresented
    | passwordReset =>
        obtain rfl := Option.some.inj hPresented
        obtain ⟨_, _, _, consumed⟩ := run.executed_of_past saw
        exact first consumed
  · obtain ⟨body, phc, rfl, saw, _⟩ := allowed
    cases kind with
    | emailVerification => cases hPresented
    | passwordReset =>
        obtain rfl := Option.some.inj hPresented
        obtain ⟨_, _, _, consumed⟩ := run.executed_of_past saw
        exact first consumed

theorem TokenKind.Stored.owner_eq {j : Nat} {userId' : Uuid} {tokenHash tokenHash' : String}
    {expiresAt expiresAt' : OffsetDateTime} (stored : kind.Stored pool l i userId tokenHash expiresAt)
    (stored' : kind.Stored pool l j userId' tokenHash' expiresAt') : userId' = userId := by
  cases kind with
  | emailVerification =>
      injection (Did.unique stored stored').2 with hUser
      exact hUser.symm
  | passwordReset =>
      injection (Did.unique stored stored').2 with hUser
      exact hUser.symm

/-- A token that was not stored for another user before acts for its user only. -/
theorem TokenKind.Stored.actsOnlyFor (run : ServerRun state migrated pool)
    {expiresAt : OffsetDateTime}
    (stored : kind.Stored pool l i userId (sha256Hex token) expiresAt)
    (own : ∀ m < l, ∀ j userId' expiresAt',
      kind.Stored pool m j userId' (sha256Hex token) expiresAt' → userId' = userId) :
    kind.ActsOnlyFor pool token userId := by
  intro m j request presented draw op reply owner serves hPresented hHash step hChanged
  obtain ⟨n, j', expiresAt', first, none⟩ := run.stored_of_changed serves hPresented step hChanged
  rw [hHash] at first none
  rcases Nat.lt_trichotomy n l with hBefore | rfl | hAfter
  · exact own n hBefore j' owner expiresAt' first
  · exact stored.owner_eq first
  · exact absurd stored (none l hAfter i userId expiresAt)

/-- Every mail has the link of a token that its client drew and stored, for the user
with the address of the mail. Unless the hash was stored for another user before,
whoever presents the token changes no other account. -/
theorem mail_provenance (run : ServerRun state migrated pool) {toEmail subject text : String}
    {reply : (Op.sendMail toEmail subject text).Reply}
    (mail : pool.Executed answer k i draw (.sendMail toEmail subject text) reply) :
    ∃ (kind : TokenKind) (token : String) (userId : Uuid) (expiresAt : OffsetDateTime),
      (subject, text) = kind.mail state token ∧ DrawnBefore pool k i token ∧
      AddressAt pool k userId toEmail ∧
      ∃ l < k, kind.Stored pool l i userId (sha256Hex token) expiresAt ∧
        ((∀ m < l, ∀ j userId' expiresAt',
          kind.Stored pool m j userId' (sha256Hex token) expiresAt' → userId' = userId) →
          kind.ActsOnlyFor pool token userId) := by
  obtain ⟨request, _, mailed⟩ := Runs.allowed (handle_discreet state) run mail
  cases mailed with
  | @verification token _ userId expiresAt drawn saw address =>
      obtain ⟨l, hl, did⟩ := run.did_of_saw saw
      have stored : TokenKind.emailVerification.Stored pool l i userId (sha256Hex token) expiresAt :=
        did
      exact ⟨.emailVerification, token, userId, expiresAt, rfl, run.drawnBefore drawn,
        run.addressAt address, l, hl, stored, stored.actsOnlyFor run⟩
  | @reset token _ userId expiresAt drawn saw address =>
      obtain ⟨l, hl, did⟩ := run.did_of_saw saw
      have stored : TokenKind.passwordReset.Stored pool l i userId (sha256Hex token) expiresAt := did
      exact ⟨.passwordReset, token, userId, expiresAt, rfl, run.drawnBefore drawn,
        run.addressAt address, l, hl, stored, stored.actsOnlyFor run⟩

end Mails

section Example

attribute [local instance] reference

def resetMail : String × String := TokenKind.passwordReset.mail exampleState resetToken

/-- The mail before two resets with its token. -/
theorem mail_provenance_reset : ∃ (kind : TokenKind) (token : String) (userId : Uuid)
    (expiresAt : OffsetDateTime), resetMail = kind.mail exampleState token ∧
      DrawnBefore resetsAtOnce 19 1 token ∧ AddressAt resetsAtOnce 19 userId "user@example.org" ∧
      ∃ l < 19, kind.Stored resetsAtOnce l 1 userId (External.sha256Hex token) expiresAt ∧
        ((∀ m < l, ∀ j userId' expiresAt', kind.Stored resetsAtOnce m j userId'
          (External.sha256Hex token) expiresAt' → userId' = userId) →
          kind.ActsOnlyFor resetsAtOnce token userId) := by
  have run : ServerRun exampleState migrated resetsAtOnce := Runs.play _
  have hMail : ((resetsAtOnce.log[19]?).any fun event => event.client == 1 &&
      event.op == .sendMail "user@example.org" resetMail.1 resetMail.2) = true := by
    decide +kernel
  obtain ⟨⟨i, draw, before, op⟩, hEvent, hCall⟩ := (Option.any_eq_true _ _).mp hMail
  simp only [Bool.and_eq_true, beq_iff_eq] at hCall
  obtain ⟨rfl, rfl⟩ := hCall
  exact mail_provenance run (run.executed hEvent)

end Example

end GenericAuth
