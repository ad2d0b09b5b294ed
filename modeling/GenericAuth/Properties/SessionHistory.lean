import GenericAuth.Interaction.Since
import GenericAuth.Properties.RefreshRotation
import GenericAuth.Properties.RegistryRefinement

/-! The history of a session. What a refresh request finds is decided by the
statements that have stored and revoked sessions, in whatever order the clients
came to execute them. -/
namespace GenericAuth

open Interaction Relational

/-! ### In the registry -/

/-- The session can be used, by this user and until this time. -/
def Registry.Live (registry : Registry) (tokenHash : String) (userId : Uuid)
    (expiresAt : OffsetDateTime) : Prop :=
  (registry.session tokenHash).map (fun session =>
    (session.owner, session.expiresAt, session.revokedAt)) = some (userId, expiresAt, none)

/-- The call stores this session. -/
def storesSession (tokenHash : String) (userId : Uuid) (expiresAt : OffsetDateTime) (_ : Draw)
    (_ : Registry) : Call Op Op.Reply → Prop
  | ⟨.sql (.storeRefreshToken userId' tokenHash' expiresAt' _), .ok _⟩ =>
      tokenHash' = tokenHash ∧ userId' = userId ∧ expiresAt' = expiresAt
  | _ => False

/-- The call revokes the session, by its token or with all sessions of its user. -/
def revokesSession (tokenHash : String) (userId : Uuid) (_ : Draw) (_ : Registry) :
    Call Op Op.Reply → Prop
  | ⟨.sql (.revokeRefreshToken tokenHash'), .ok _⟩ => tokenHash' = tokenHash
  | ⟨.sql (.revokeAllRefreshTokens userId'), .ok _⟩ => userId' = userId
  | _ => False

section Steps

variable [External]

theorem live_step {tokenHash : String} {userId : Uuid} {expiresAt : OffsetDateTime} {draw : Draw}
    {before after : Registry} {op : Op} {reply : op.Reply}
    (step : Registry.Step draw before op reply after) :
    after.Live tokenHash userId expiresAt ↔
      storesSession tokenHash userId expiresAt draw before ⟨op, reply⟩ ∨
        before.Live tokenHash userId expiresAt ∧
          ¬revokesSession tokenHash userId draw before ⟨op, reply⟩ := by
  cases op with
  | sql statement =>
      cases reply with
      | error error =>
          obtain rfl := step.1
          cases statement <;> simp [storesSession, revokesSession]
      | ok rows =>
          obtain ⟨_, does⟩ := step
          have kept := does.frame.session
          cases statement with
          | storeRefreshToken userId' tokenHash' expiresAt' userAgent =>
              obtain ⟨_, _, hNew, rfl⟩ := does
              by_cases hHash : tokenHash = tokenHash'
              · subst hHash
                simp [Registry.Live, storesSession, revokesSession, hNew]
              · simp [Registry.Live, storesSession, revokesSession, hHash, Ne.symm hHash]
          | revokeRefreshToken tokenHash' =>
              obtain rfl := does
              by_cases hHash : tokenHash = tokenHash'
              · subst hHash
                simp [Registry.Live, Registry.revoke, storesSession, revokesSession]
              · simp [Registry.Live, Registry.revoke, storesSession, revokesSession, hHash,
                  Ne.symm hHash]
          | revokeAllRefreshTokens userId' =>
              obtain rfl := does
              simp only [Registry.Live, Registry.revokeAll, storesSession, revokesSession,
                false_or]
              cases before.session tokenHash with
              | none => simp
              | some session =>
                  simp only [Option.map_some, Option.some.injEq, Prod.mk.injEq]
                  split <;> grind
          | _ => simp [Registry.Live, kept (by simp [Registry.written]), storesSession, revokesSession]
  | _ =>
      obtain rfl := step
      simp [storesSession, revokesSession]

/-- Owner and expiry of a session. -/
def Registry.opening (registry : Registry) (tokenHash : String) : Option (Uuid × OffsetDateTime) :=
  (registry.session tokenHash).map fun session => (session.owner, session.expiresAt)

/-- A session gets its owner and its expiry when it is stored, and keeps them. -/
theorem opening_step {tokenHash : String} {draw : Draw} {before after : Registry} {op : Op}
    {reply : op.Reply} (step : Registry.Step draw before op reply after)
    (value : Uuid × OffsetDateTime) :
    after.opening tokenHash = some value ↔ before.opening tokenHash = some value ∨
      before.opening tokenHash = none ∧
        storesSession tokenHash value.1 value.2 draw before ⟨op, reply⟩ := by
  unfold Registry.opening
  cases op with
  | sql statement =>
      cases reply with
      | error error =>
          obtain rfl := step.1
          cases statement <;> simp [storesSession]
      | ok rows =>
          obtain ⟨_, does⟩ := step
          have kept := does.frame.session
          cases statement with
          | storeRefreshToken userId' tokenHash' expiresAt' userAgent =>
              obtain ⟨_, _, hNew, rfl⟩ := does
              by_cases hHash : tokenHash = tokenHash'
              · subst hHash
                simp [storesSession, hNew, Prod.ext_iff]
              · simp [storesSession, hHash, Ne.symm hHash]
          | revokeRefreshToken tokenHash' =>
              obtain rfl := does
              by_cases hHash : tokenHash = tokenHash'
              · subst hHash
                simp [Registry.revoke, storesSession]
              · simp [Registry.revoke, storesSession, hHash]
          | revokeAllRefreshTokens userId' =>
              obtain rfl := does
              simp only [Registry.revokeAll, storesSession, and_false, or_false, Option.map_map]
              rw [show ((fun session : UserSession => (session.owner, session.expiresAt)) ∘ _) =
                fun session => (session.owner, session.expiresAt) from
                  funext fun session => by simp only [Function.comp_apply]; split <;> rfl]
          | _ => simp [kept (by simp [Registry.written]), storesSession]
  | _ =>
      obtain rfl := step
      simp [storesSession]

end Steps

/-! ### In the runs of the server -/

section Runs

variable [External] {state : AppState} {pool : ServerPool} {k l i : Nat}

theorem called_storesSession {tokenHash : String} {userId : Uuid} {expiresAt : OffsetDateTime} :
    pool.Called answer Db.registry k (storesSession tokenHash userId expiresAt) ↔
      ∃ j userAgent id, Did pool k j (.storeRefreshToken userId tokenHash expiresAt userAgent) id := by
  constructor
  · rintro ⟨j, draw, op, reply, step, h⟩
    unfold storesSession at h
    split at h
    · next hCall =>
        obtain ⟨rfl, rfl, rfl⟩ := h
        exact ⟨j, _, _, draw, step.of_call hCall⟩
    · cases h
  · rintro ⟨j, userAgent, id, draw, step⟩
    exact ⟨j, draw, _, _, step, rfl, rfl, rfl⟩

theorem called_revokesSession {tokenHash : String} {userId : Uuid} :
    pool.Called answer Db.registry k (revokesSession tokenHash userId) ↔
      ∃ j, Did pool k j (.revokeRefreshToken tokenHash) () ∨
        Did pool k j (.revokeAllRefreshTokens userId) () := by
  constructor
  · rintro ⟨j, draw, op, reply, step, h⟩
    unfold revokesSession at h
    split at h
    · next hCall =>
        subst h
        exact ⟨j, .inl ⟨draw, step.of_call hCall⟩⟩
    · next hCall =>
        subst h
        exact ⟨j, .inr ⟨draw, step.of_call hCall⟩⟩
    · cases h
  · rintro ⟨j, ⟨draw, step⟩ | ⟨draw, step⟩⟩
    · exact ⟨j, draw, _, _, step, rfl⟩
    · exact ⟨j, draw, _, _, step, rfl⟩

/-- A lookup that succeeds finds no session exactly when none with this token was
stored before. It finds one that can be used exactly when one was stored and
neither its token nor all sessions of its user have been revoked since. -/
theorem session_history (run : ServerRun state migrated pool) {tokenHash : String}
    {found : Option (Uuid × OffsetDateTime × Option OffsetDateTime)}
    (lookup : Did pool l i (.lookupRefreshToken tokenHash) found) :
    (found = none ↔ ∀ k < l, ∀ j userId expiresAt userAgent id,
      ¬Did pool k j (.storeRefreshToken userId tokenHash expiresAt userAgent) id) ∧
    ∀ userId expiresAt, found = some (userId, expiresAt, none) ↔
      ∃ k < l, (∃ j userAgent id,
          Did pool k j (.storeRefreshToken userId tokenHash expiresAt userAgent) id) ∧
        ∀ m, k < m → m < l → ∀ j, ¬Did pool m j (.revokeRefreshToken tokenHash) () ∧
          ¬Did pool m j (.revokeAllRefreshTokens userId) () := by
  obtain ⟨draw, step⟩ := lookup
  obtain ⟨_, _, hFound⟩ := answer_refines.executed run migrated_sound step
  rw [hFound]
  constructor
  · have unknown := (answer_refines.first run migrated_sound
      (fun registry => registry.opening tokenHash)
      (fun value => storesSession tokenHash value.1 value.2)
      (by rw [migrated_registry]; rfl) (fun _ _ _ _ _ => opening_step) l).1
    simp only [Registry.opening, Option.map_eq_none_iff, called_storesSession, Prod.forall,
      not_exists] at unknown
    rw [Option.map_eq_none_iff, unknown]
    constructor
    · intro h k hk j userId expiresAt userAgent id
      exact h k hk userId expiresAt j userAgent id
    · intro h k hk userId expiresAt j userAgent id
      exact h k hk j userId expiresAt userAgent id
  · intro userId expiresAt
    have live := answer_refines.since run migrated_sound
      (fun registry => registry.Live tokenHash userId expiresAt)
      (storesSession tokenHash userId expiresAt) (revokesSession tokenHash userId)
      (by rw [migrated_registry]; simp [Registry.empty, Registry.Live])
      (fun _ _ _ _ _ => live_step) l
    simp only [called_storesSession, called_revokesSession, not_exists, not_or] at live
    exact live

end Runs

section Example

attribute [local instance] reference

/-- The first of two refreshes finds the session that the registration stored. -/
theorem session_history_in_turn : ∃ userId expiresAt, ∃ k < 14, (∃ j userAgent id,
      Did refreshesInTurn k j
        (.storeRefreshToken userId (hashRefreshToken firstToken) expiresAt userAgent) id) ∧
    ∀ m, k < m → m < 14 → ∀ j,
      ¬Did refreshesInTurn m j (.revokeRefreshToken (hashRefreshToken firstToken)) () ∧
        ¬Did refreshesInTurn m j (.revokeAllRefreshTokens userId) () := by
  have run : ServerRun exampleState migrated refreshesInTurn := Runs.play _
  obtain ⟨found, lookup, hLive⟩ := run.did_of_didWith 14 1
    (.lookupRefreshToken (hashRefreshToken firstToken))
    (fun found => found.any fun session => session.2.2.isNone) (by decide +kernel)
  obtain ⟨⟨userId, expiresAt, revokedAt⟩, rfl, hRevoked⟩ := (Option.any_eq_true _ _).mp hLive
  obtain rfl := Option.isNone_iff_eq_none.mp hRevoked
  exact ⟨userId, expiresAt, ((session_history run lookup).2 userId expiresAt).mp rfl⟩

end Example

end GenericAuth
