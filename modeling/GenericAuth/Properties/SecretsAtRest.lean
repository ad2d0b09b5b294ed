import GenericAuth.Api.Chosen
import GenericAuth.Properties.MailProvenance
import GenericAuth.Properties.SessionOrigin

/-! What is stored of passwords and tokens: hashes only. The hash of a password is
that of the request that created the account, or of a request with a reset token that
was asked for with the account's address. The tokens were drawn at random. -/
namespace GenericAuth

open Interaction Relational

section Secrets

variable [External] {state : AppState} {pool : ServerPool} {k l i : Nat} {draw : Draw}
    {userId : Uuid} {phc : String}

/-- The password of a request that creates an account. -/
def Request.newPassword : Request → Option String
  | .register body => some body.password
  | .createAdmin args => some args.password
  | _ => none

/-- The hash was written for this account in a step before `l`, with a password that
the request of the step contains. -/
inductive PasswordFrom (pool : ServerPool) (l : Nat) (userId : Uuid) (phc : String) : Prop where
  | creation {k i : Nat} {request : Request} {password salt : String}
      {email displayName : Option String} {roleId : Nat} {emailVerified : Bool}
      {columns : UserColumns} (earlier : k < l) (serves : pool.Serves i request)
      (submitted : request.newPassword = some password)
      (hashed : External.argon2Hash password salt = .ok phc)
      (created : Did pool k i (.insertUser email (some phc) displayName roleId emailVerified) columns)
      (new : columns.id = userId)
  | reset {k m n i j : Nat} {body : ResetPasswordReq} {asking : ForgotPasswordReq} {draw : Draw}
      {salt : String} {expiresAt : OffsetDateTime} (earlier : k < l)
      (serves : pool.Serves i (.resetPassword body))
      (hashed : External.argon2Hash body.newPassword salt = .ok phc)
      (updated : Did pool k i (.updatePasswordHash phc userId) ())
      (before : m < k)
      (consumed : TokenKind.passwordReset.Consumed pool m i draw (sha256Hex body.token) userId)
      (first : n < m)
      (stored : TokenKind.passwordReset.Stored pool n j userId (sha256Hex body.token) expiresAt)
      (asked : pool.Serves j (.forgotPassword asking)) (address : AddressAt pool n userId asking.email)

/-- The secrets in a store after `l` steps. The client that stored a token had drawn it. -/
structure SecretsKept (pool : ServerPool) (l : Nat) (db : Db) : Prop where
  passwords : ∀ row ∈ db.users.rows, ∀ phc, row.passwordHash = some phc →
    PasswordFrom pool l row.id phc
  sessions : ∀ row ∈ db.refreshTokens.rows, ∃ k < l, ∃ i expiresAt userAgent id,
    Did pool k i (.storeRefreshToken row.userId row.tokenHash expiresAt userAgent) id ∧
      ∃ m < k, ∃ draw bytes, pool.Executed answer m i draw .randomBytes bytes ∧
        row.tokenHash = hashRefreshToken (hexEncode bytes)
  links : ∀ kind : TokenKind, ∀ row ∈ (kind.table db).rows, ∃ k < l, ∃ i token,
    kind.Stored pool k i row.userId row.tokenHash row.expiresAt ∧
      DrawnBefore pool k i token ∧ row.tokenHash = sha256Hex token

/-! ### Passwords -/

/-- Users with their hashes. -/
def passwordHashes (db : Db) : List (Uuid × String) :=
  db.users.rows.filterMap fun row => row.passwordHash.map (row.id, ·)

/-- The call writes this hash for this user. -/
def WritesPassword (op : Op) (reply : op.Reply) (password : Uuid × String) : Prop :=
  (∃ email displayName roleId emailVerified columns, columns.id = password.1 ∧
    (⟨op, reply⟩ : Call Op Op.Reply) = ⟨.sql (.insertUser email (some password.2) displayName roleId
      emailVerified), .ok columns⟩) ∨
  (⟨op, reply⟩ : Call Op Op.Reply) = ⟨.sql (.updatePasswordHash password.2 password.1), .ok ()⟩

theorem mem_passwordHashes {db : Db} {password : Uuid × String} :
    password ∈ passwordHashes db ↔
      ∃ row ∈ db.users.rows, row.id = password.1 ∧ row.passwordHash = some password.2 := by
  simp [passwordHashes, List.mem_filterMap, Prod.ext_iff, and_left_comm]

/-- An update of something else. -/
theorem passwordHashes_of_update {db : Db} {password : Uuid × String} {userId : Uuid}
    {change : UserRow → UserRow} {keeps : Keeps UserRow.clash change}
    (hMem : password ∈ passwordHashes (db.updateUsers userId change keeps))
    (hSame : ∀ row, (change row).id = row.id ∧ (change row).passwordHash = row.passwordHash) :
    ∃ old ∈ passwordHashes db, old = password := by
  obtain ⟨row, hRow, hId, hHash⟩ := mem_passwordHashes.mp hMem
  obtain ⟨old, hOld, rfl⟩ := List.mem_map.mp hRow
  refine ⟨password, mem_passwordHashes.mpr ⟨old, hOld, ?_⟩, rfl⟩
  split at hId
  · next hUser =>
      rw [if_pos hUser] at hHash
      exact ⟨(hSame old).1.symm.trans hId, (hSame old).2.symm.trans hHash⟩
  · next hOther =>
      rw [if_neg hOther] at hHash
      exact ⟨hId, hHash⟩

/-- One step: a stored hash was stored before, or is written. -/
theorem passwordHashes_step (draw : Draw) (db : Db) (op : Op) (password : Uuid × String)
    (hMem : password ∈ passwordHashes (answer draw db op).2) :
    (∃ old ∈ passwordHashes db, old = password) ∨
      WritesPassword op (answer draw db op).1 password := by
  have effect := answer_effect draw db op
  generalize (answer draw db op).1 = reply, (answer draw db op).2 = db' at effect hMem
  have same (hOld : password ∈ passwordHashes db) : ∃ old ∈ passwordHashes db, old = password :=
    ⟨password, hOld, rfl⟩
  cases effect with
  | @insertUser email passwordHash displayName roleId emailVerified _ inserted =>
      obtain ⟨row, hRow, hId, hHash⟩ := mem_passwordHashes.mp hMem
      rcases (Table.mem_insert inserted).mp hRow with hOld | rfl
      · exact .inl (same (mem_passwordHashes.mpr ⟨row, hOld, hId, hHash⟩))
      · exact .inr (.inl ⟨email, displayName, roleId, emailVerified, _, hId, by rw [← hHash]⟩)
  | updateRole =>
      exact .inl (passwordHashes_of_update hMem fun _ => ⟨rfl, rfl⟩)
  | updateActive active userId =>
      exact .inl (passwordHashes_of_update hMem fun _ => ⟨rfl, rfl⟩)
  | markEmailVerified userId =>
      exact .inl (passwordHashes_of_update hMem fun _ => ⟨rfl, rfl⟩)
  | updatePasswordHash passwordHash userId =>
      obtain ⟨row, hRow, hId, hHash⟩ := mem_passwordHashes.mp hMem
      obtain ⟨old, hOld, rfl⟩ := List.mem_map.mp hRow
      by_cases hUser : old.id = userId
      · simp only [hUser, beq_self_eq_true, if_true] at hId hHash
        obtain ⟨owner, phc⟩ := password
        obtain rfl := hId
        obtain rfl := Option.some.inj hHash
        exact .inr (.inr rfl)
      · simp only [hUser, beq_iff_eq, if_false] at hId hHash
        exact .inl (same (mem_passwordHashes.mpr ⟨old, hOld, hId, hHash⟩))
  | _ => exact .inl (same hMem)

/-- A reset token is asked for with the address of its user. -/
theorem TokenKind.Stored.asked (run : ServerRun state migrated pool) {tokenHash : String}
    {expiresAt : OffsetDateTime}
    (stored : TokenKind.passwordReset.Stored pool k i userId tokenHash expiresAt) :
    ∃ asking, pool.Serves i (.forgotPassword asking) ∧ AddressAt pool k userId asking.email := by
  obtain ⟨draw, step⟩ := stored
  obtain ⟨request, serves, chosen⟩ := Runs.allowed (handle_chosen state) run step
  cases request with
  | forgotPassword asking =>
      obtain ⟨found, hUser, saw, _⟩ := chosen
      exact ⟨asking, serves, run.addressAt (.inl ⟨found, saw, hUser⟩)⟩
  | _ => exact chosen.elim

/-- A stored hash comes from a password that was submitted for the account. -/
theorem ServerRun.passwordFrom (run : ServerRun state migrated pool)
    (hMem : (userId, phc) ∈ passwordHashes (pool.storeAt l)) : PasswordFrom pool l userId phc := by
  obtain ⟨k, hk, i, draw, op, reply, written, step, hWrites, rfl⟩ :=
    run.origin passwordHashes Eq (fun _ _ op reply password => WritesPassword op reply password)
      (fun _ => rfl) (fun _ _ _ => Eq.trans) rfl passwordHashes_step hMem
  obtain ⟨request, serves, chosen⟩ := Runs.allowed (handle_chosen state) run step
  obtain ⟨_, serves', allowed⟩ := Runs.allowed (handle_obeys state) run step
  obtain rfl := serves.unique serves'
  rcases hWrites with ⟨email, displayName, roleId, emailVerified, columns, hId, hCall⟩ | hCall
  · cases hCall
    cases request with
    | register body =>
        obtain ⟨_, salt, phc', hHash, hSome⟩ := chosen
        cases hSome
        exact .creation hk serves rfl hHash ⟨draw, step⟩ hId
    | createAdmin args =>
        obtain ⟨_, salt, phc', hHash, hSome⟩ := chosen
        cases hSome
        exact .creation hk serves rfl hHash ⟨draw, step⟩ hId
    | googleCallback q => cases chosen.2
    | _ => exact chosen.elim
  · cases hCall
    obtain ⟨body, rfl, saw, _⟩ := allowed
    obtain ⟨salt, hHash⟩ := chosen
    obtain ⟨m, hm, draw', step'⟩ := run.executed_of_past saw
    have consumed : TokenKind.passwordReset.Consumed pool m i draw' (sha256Hex body.token) userId :=
      step'
    obtain ⟨expiresAt, _, n, hn, j, stored, _⟩ := consumed.provenance run
    obtain ⟨asking, asked, address⟩ := stored.asked run
    exact .reset hk serves hHash ⟨draw, step⟩ hm consumed hn stored asked address

/-! ### Tokens -/

theorem ServerRun.session_drawn (run : ServerRun state migrated pool) {row : RefreshTokenRow}
    (hMem : row ∈ (pool.storeAt l).refreshTokens.rows) : ∃ k < l, ∃ i expiresAt userAgent id,
      Did pool k i (.storeRefreshToken row.userId row.tokenHash expiresAt userAgent) id ∧
        ∃ m < k, ∃ draw bytes, pool.Executed answer m i draw .randomBytes bytes ∧
          row.tokenHash = hashRefreshToken (hexEncode bytes) := by
  obtain ⟨expiresAt, hOpening⟩ := owned_of_row hMem
  obtain ⟨k, hk, i, userAgent, id, draw, step⟩ := run.stored_of_opening hOpening
  obtain ⟨_, _, bytes, drawn, hHash⟩ := Runs.allowed (handle_discreet state) run step
  obtain ⟨m, hm, draw', drawing⟩ := run.executed_of_past drawn
  exact ⟨k, hk, i, expiresAt, userAgent, id, ⟨draw, step⟩, m, hm, draw', bytes, drawing, hHash⟩

theorem TokenKind.Stored.drawn (run : ServerRun state migrated pool) {kind : TokenKind}
    {tokenHash : String} {expiresAt : OffsetDateTime}
    (stored : kind.Stored pool k i userId tokenHash expiresAt) :
    ∃ token, DrawnBefore pool k i token ∧ tokenHash = sha256Hex token := by
  cases kind with
  | emailVerification =>
      obtain ⟨draw, step⟩ := stored
      obtain ⟨_, _, token, drawn, hHash⟩ := Runs.allowed (handle_discreet state) run step
      exact ⟨token, run.drawnBefore drawn, hHash⟩
  | passwordReset =>
      obtain ⟨draw, step⟩ := stored
      obtain ⟨_, _, token, drawn, hHash⟩ := Runs.allowed (handle_discreet state) run step
      exact ⟨token, run.drawnBefore drawn, hHash⟩

/-- In every reachable store, the hash of a password is that of the request that created
the account, or of one with a reset token that was asked for with its address. Tokens
are stored as hashes of random ones. -/
theorem secrets_kept (run : ServerRun state migrated pool) (l : Nat) :
    SecretsKept pool l (pool.storeAt l) where
  passwords row hMem phc hHash := run.passwordFrom (mem_passwordHashes.mpr ⟨row, hMem, rfl, hHash⟩)
  sessions _ hMem := run.session_drawn hMem
  links kind row hMem := by
    obtain ⟨k, hk, i, stored, _⟩ := kind.stored_of_mem run hMem
    obtain ⟨token, drawn, hHash⟩ := stored.drawn run
    exact ⟨k, hk, i, token, stored, drawn, hHash⟩

end Secrets

section Example

attribute [local instance] reference

/-- After two resets with one token. -/
theorem secrets_kept_atOnce : SecretsKept resetsAtOnce 25 (resetsAtOnce.storeAt 25) := by
  have run : ServerRun exampleState migrated resetsAtOnce := Runs.play _
  exact secrets_kept run 25

end Example

end GenericAuth
