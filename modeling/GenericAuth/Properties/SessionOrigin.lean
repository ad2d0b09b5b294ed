import GenericAuth.Interaction.Provenance
import GenericAuth.Properties.RevocationFinal
import GenericAuth.Properties.SessionHistory

/-! Where sessions come from. A finite chain of rotations leads from each session
back to a request that has authenticated its user, whatever else was going on. -/
namespace GenericAuth

open Interaction Relational

/-- A session with this token was stored for this user. -/
def Registry.Owned (registry : Registry) (tokenHash : String) (userId : Uuid) : Prop :=
  ∃ expiresAt, registry.opening tokenHash = some (userId, expiresAt)

/-! ### In the runs of the server -/

section Runs

variable [External] {state : AppState} {start : Db} {pool : ServerPool} {k l i : Nat}

/-- The client has authenticated this user before step `k`, other than by a session. -/
inductive Authenticates (pool : ServerPool) (k i : Nat) (userId : Uuid) : Prop where
  | register {m : Nat} {body : RegisterReq} {email passwordHash displayName : Option String}
      {roleId : Nat} {emailVerified : Bool} {columns : UserColumns}
      (serves : pool.Serves i (.register body)) (earlier : m < k)
      (created : Did pool m i (.insertUser email passwordHash displayName roleId emailVerified) columns)
      (new : columns.id = userId)
  | login {m : Nat} {body : LoginReq} {found : UserSecretRecord} {phc : String}
      (serves : pool.Serves i (.login body)) (earlier : m < k)
      (known : Did pool m i (.findByEmail body.email) (some found)) (user : found.id = userId)
      (password : found.passwordHash = some phc)
      (verified : External.argon2Verify body.password phc = .ok true)
      (active : found.isActive = true)
  | google {m n : Nat} {q : OAuthCallbackQuery} {profile : GoogleProfile} {draw : Draw}
      (serves : pool.Serves i (.googleCallback q)) (earlier : m < k) (before : n < k)
      (exchanged : pool.Executed answer n i draw (.exchangeCode q.code) (.ok profile))
      (bound : Did pool m i
        (.upsertOauthIdentity userId "google" profile.sub profile.email profile) ())

/-- The session was stored before, by a client that had authenticated its user. -/
def Authenticated (pool : ServerPool) (l : Nat) (session : String × Uuid) : Prop :=
  ∃ k < l, ∃ i expiresAt userAgent id,
    Did pool k i (.storeRefreshToken session.2 session.1 expiresAt userAgent) id ∧
    Authenticates pool k i session.2

/-- The session was stored before, by a refresh that found the parent in step `m`, usable
and, by the clock that it read next, in time, and then revoked it. -/
def RotatedFrom (pool : ServerPool) (l : Nat) (session : String × Uuid) (m : Nat)
    (parent : String × Uuid) : Prop :=
  parent.2 = session.2 ∧ ∃ n r k i body, m < n ∧ n < r ∧ r < k ∧ k < l ∧
    pool.Serves i (.refresh body) ∧ parent.1 = hashRefreshToken body.refreshToken ∧
    (∃ expiresAt draw now,
      Did pool m i (.lookupRefreshToken parent.1) (some (parent.2, expiresAt, none)) ∧
      pool.Executed answer n i draw .nowUtc now ∧ now < expiresAt) ∧
    Did pool r i (.revokeRefreshToken parent.1) () ∧
    ∃ expiresAt userAgent id,
      Did pool k i (.storeRefreshToken session.2 session.1 expiresAt userAgent) id

theorem owned_of_row {db : Db} {row : RefreshTokenRow} (hMem : row ∈ db.refreshTokens.rows) :
    db.registry.Owned row.tokenHash row.userId := by
  have hLookup : db.refreshTokens.lookup RefreshTokenRow.tokenHash row.tokenHash = some row :=
    (Table.lookup_eq_some RefreshTokenRow.clash_comm RefreshTokenRow.keyed).mpr ⟨hMem, rfl⟩
  refine ⟨row.expiresAt, ?_⟩
  simp only [Registry.opening, Db.registry, hLookup, Option.map_some]
  rfl

/-- A session that is known was stored by an earlier step. -/
theorem ServerRun.stored_of_opening (run : ServerRun state migrated pool) {tokenHash : String}
    {userId : Uuid} {expiresAt : OffsetDateTime}
    (h : (pool.storeAt l).registry.opening tokenHash = some (userId, expiresAt)) :
    ∃ k < l, ∃ i userAgent id,
      Did pool k i (.storeRefreshToken userId tokenHash expiresAt userAgent) id := by
  obtain ⟨k, hkl, called, _⟩ := ((answer_refines.first run migrated_sound
    (fun registry => registry.opening tokenHash)
    (fun value => storesSession tokenHash value.1 value.2)
    (by rw [migrated_registry]; rfl) (fun _ _ _ _ _ => opening_step) l).2 _).mp h
  exact ⟨k, hkl, called_storesSession.mp called⟩

/-- A refresh goes on with a token that it found usable and in time. -/
theorem ServerRun.rotated (run : ServerRun state start pool) {body : RefreshReq} {userId : Uuid}
    {tokenHash : String} {expiresAt : OffsetDateTime} {userAgent : Option String} {id : Uuid}
    (serves : pool.Serves i (.refresh body))
    (stored : Did pool k i (.storeRefreshToken userId tokenHash expiresAt userAgent) id)
    (hkl : k < l) : ∃ m < l,
      (pool.storeAt m).registry.Owned (hashRefreshToken body.refreshToken) userId ∧
      RotatedFrom pool l (tokenHash, userId) m (hashRefreshToken body.refreshToken, userId) := by
  obtain ⟨owner, _, found, sawLookup, sawRevoke, sawUser, rfl⟩ := run.allowed serves stored
  obtain ⟨r, hrk, drawRevoke, revoke⟩ := run.did_of_saw sawRevoke
  obtain ⟨_, _, _, findUser⟩ := run.did_of_saw sawUser
  obtain ⟨_, _, hId, hColumns⟩ := findById_reply findUser.effect
  have hOwner : found.id = owner := by rw [hColumns, hId]
  obtain ⟨m, hmk, drawLookup, lookup⟩ := run.did_of_saw sawLookup
  have live : SawLive (hashRefreshToken body.refreshToken) (past answer (pool.log.take r) i) := by
    rcases run.refreshAllowed serves revoke with ⟨hOp, _⟩ | ⟨hOp, _⟩ | ⟨_, live⟩
    · cases hOp
    · cases hOp
    · exact live
  -- The token that was in time is the one that was looked up.
  obtain ⟨_, _, now, sawAgain, hNow, hLive⟩ := live
  obtain ⟨_, _, _, again⟩ := run.did_of_saw sawAgain
  obtain rfl := run.lookup_once serves lookup again
  cases lookup.reply_unique again
  obtain ⟨n, hnr, draw, clock⟩ := run.executed_of_past hNow
  obtain ⟨row, hMem, hHash, hUser, _⟩ := lookupRefreshToken_reply lookup.effect
  rw [hOwner] at stored ⊢
  refine ⟨m, by omega, ?_, rfl, n, r, k, i, body, run.clock_after_lookup serves lookup clock, hnr,
    hrk, hkl, serves, rfl, ⟨_, draw, now, ⟨drawLookup, lookup⟩, clock, hLive⟩,
    ⟨drawRevoke, revoke⟩, expiresAt, userAgent, id, stored⟩
  rw [← hHash, ← hUser]
  exact owned_of_row hMem

/-- Each stored session descends, by finitely many rotations for the same user, from
one that was opened by a registration, a password or a sign-in. -/
theorem session_rooted (run : ServerRun state migrated pool) {row : RefreshTokenRow}
    (hMem : row ∈ (pool.storeAt l).refreshTokens.rows) :
    Rooted (Authenticated pool) (RotatedFrom pool) l (row.tokenHash, row.userId) := by
  refine rooted_of_steps
    (fun l session => (pool.storeAt l).registry.Owned session.1 session.2) ?_
    (owned_of_row hMem)
  rintro l ⟨tokenHash, userId⟩ ⟨expiresAt, hOpening⟩
  obtain ⟨k, hkl, i, userAgent, id, stored⟩ := run.stored_of_opening hOpening
  obtain ⟨request, serves⟩ := run.serves stored
  have opens := run.allowed serves stored
  cases request with
  | register body =>
      obtain ⟨_, _, _, _, _, columns, saw, new⟩ := opens
      obtain ⟨m, hmk, created⟩ := run.did_of_saw saw
      exact .inl ⟨k, hkl, i, expiresAt, userAgent, id, stored, .register serves hmk created new⟩
  | login body =>
      obtain ⟨found, phc, saw, user, password, verified, active⟩ := opens
      obtain ⟨m, hmk, known⟩ := run.did_of_saw saw
      exact .inl ⟨k, hkl, i, expiresAt, userAgent, id, stored,
        .login serves hmk known user password verified active⟩
  | googleCallback q =>
      obtain ⟨profile, exchanged, saw⟩ := opens
      obtain ⟨n, hnk, draw, exchange⟩ := run.executed_of_past exchanged
      obtain ⟨m, hmk, bound⟩ := run.did_of_saw saw
      exact .inl ⟨k, hkl, i, expiresAt, userAgent, id, stored,
        .google serves hmk hnk exchange bound⟩
  | refresh body =>
      obtain ⟨m, hml, hParent, rotated⟩ := run.rotated serves stored hkl
      exact .inr ⟨m, hml, _, hParent, rotated⟩
  | _ => exact opens.elim

end Runs

section Example

attribute [local instance] reference

/-- After two refreshes with one token there are two sessions, that of the
registration and the one that has replaced it. -/
theorem session_rooted_in_turn : refreshesInTurn.store.refreshTokens.rows.length = 2 ∧
    ∀ row ∈ refreshesInTurn.store.refreshTokens.rows,
      Rooted (Authenticated refreshesInTurn) (RotatedFrom refreshesInTurn) refreshesInTurn.log.length
        (row.tokenHash, row.userId) := by
  have run : ServerRun exampleState migrated refreshesInTurn := Runs.play _
  refine ⟨by decide +kernel, fun row hMem => session_rooted run ?_⟩
  rwa [Pool.storeAt_end (Nat.le_refl _)]

end Example

end GenericAuth
