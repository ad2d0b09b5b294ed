import GenericAuth.Auth.Reference

/-! What a password reset does to the sessions of its user. The revoking
statement sees the rows that are there, while a login and a refresh insert their
row several statements after the check that justified it. The reset cuts off
every earlier session in the runs where no such row arrives late. -/
namespace GenericAuth

open Interaction

section Cutoff

variable [External] {state : AppState} {start : Db} {pool : ServerPool} {a b k l r : Nat}
    {userId : Uuid}

def Db.passwordOf (db : Db) (userId : Uuid) : Option String :=
  (db.users.find fun row => row.id == userId).bind UserRow.passwordHash

/-- Client `r` is a reset that updates the password in step `a` and revokes the
sessions in step `b`. -/
structure ResetSteps (pool : ServerPool) (r : Nat) (userId : Uuid) (a b : Nat) : Prop where
  order : a < b
  update : ∃ phc, Did pool a r (.updatePasswordHash phc userId) ()
  revoke : Did pool b r (.revokeAllRefreshTokens userId) ()

/-- Step `k` stores a token for a login that had read the password hash which
step `a` replaces. -/
def StoredByLogin (pool : ServerPool) (a k : Nat) (userId : Uuid) (tokenHash : String) : Prop :=
  ∃ i body found l expiresAt userAgent id, pool.Serves i (.login body) ∧
    Did pool l i (.findByEmail body.email) (some found) ∧ l < a ∧ found.id = userId ∧
    found.passwordHash = (pool.storeAt a).passwordOf userId ∧
    Did pool k i (.storeRefreshToken userId tokenHash expiresAt userAgent) id

/-- Step `k` stores a token for a refresh that had looked up another one in
step `l`. -/
def StoredByRefresh (pool : ServerPool) (l k : Nat) (parent tokenHash : String) : Prop :=
  ∃ i body owner owner' expiresAt expiresAt' userAgent id, pool.Serves i (.refresh body) ∧
    hashRefreshToken body.refreshToken = parent ∧
    Did pool l i (.lookupRefreshToken parent) (some (owner, expiresAt, none)) ∧
    Did pool k i (.storeRefreshToken owner' tokenHash expiresAt' userAgent) id

/-- The sessions that the reset is meant to end: those that existed before step
`a`, those of logins with the replaced password, and their rotations. -/
inductive Descends (pool : ServerPool) (a : Nat) (userId : Uuid) : String → Prop where
  | existed {row : RefreshTokenRow} (hMem : row ∈ (pool.storeAt a).refreshTokens.rows)
      (hUser : row.userId = userId) : Descends pool a userId row.tokenHash
  | login {k : Nat} {tokenHash : String} (stored : StoredByLogin pool a k userId tokenHash) :
      Descends pool a userId tokenHash
  | refresh {l k : Nat} {parent tokenHash : String} (descends : Descends pool a userId parent)
      (stored : StoredByRefresh pool l k parent tokenHash) : Descends pool a userId tokenHash

/-- No login that read the replaced hash, and no refresh that looked up a
descending token before step `b`, stores its token after step `b`. -/
structure InTime (pool : ServerPool) (a b : Nat) (userId : Uuid) : Prop where
  login : ∀ k tokenHash, StoredByLogin pool a k userId tokenHash → k ≤ b
  refresh : ∀ l k parent tokenHash, Descends pool a userId parent →
    StoredByRefresh pool l k parent tokenHash → l < b → k ≤ b

/-- A reset that returned made both steps. -/
theorem ServerRun.resetSteps (run : ServerRun state start pool) {body : ResetPasswordReq}
    {payload : Payload} (returned : pool.Returned r (.resetPassword body) (.ok payload)) :
    ∃ userId a b, ResetSteps pool r userId a b := by
  have finished : ∃ userId, Saw (past answer pool.log r) (.revokeAllRefreshTokens userId) () := by
    have h := run.finished returned
    cases payload with
    | tokenPair pair =>
        obtain ⟨_, _, _, _, opens, _⟩ := h
        exact opens.elim
    | _ =>
        obtain ⟨userId, _, _, _, _, saw⟩ := h
        exact ⟨userId, saw⟩
  obtain ⟨userId, saw⟩ := finished
  obtain ⟨b, revoke⟩ := run.did_of_saw_full saw
  obtain ⟨_, phc, _, _, sawUpdate⟩ := run.allowed returned.serves revoke
  obtain ⟨a, hab, update⟩ := run.did_of_saw sawUpdate
  exact ⟨userId, a, b, hab, ⟨phc, update⟩, revoke⟩

/-- A token of the user that is stored up to step `b` is revoked by step `b`. -/
theorem ServerRun.revoked_of_stored (run : ServerRun state start pool)
    (revoke : Did pool b r (.revokeAllRefreshTokens userId) ()) {row : RefreshTokenRow}
    (hMem : row ∈ (pool.storeAt k).refreshTokens.rows) (hUser : row.userId = userId)
    (h : k ≤ b + 1) :
    ∃ revoked ∈ (pool.storeAt (b + 1)).refreshTokens.rows, revoked.tokenHash = row.tokenHash ∧
      revoked.userId = userId ∧ revoked.revokedAt.isSome := by
  obtain ⟨revoked, hRevoked, later⟩ := (run.later h).refreshTokens row hMem
  obtain ⟨draw, step⟩ := revoke
  have hRevokedUser := later.userId.trans hUser
  exact ⟨revoked, hRevoked, later.tokenHash, hRevokedUser,
    revokeAllRefreshTokens_reply step.effect revoked hRevoked hRevokedUser⟩

/-- A refresh stores its token for the user of the token that it looked up. -/
theorem ServerRun.rotation_owner (run : ServerRun state start pool) {i : Nat} {body : RefreshReq}
    {owner : Uuid} {tokenHash : String} {expiresAt : OffsetDateTime} {userAgent : Option String}
    {id : Uuid} (serves : pool.Serves i (.refresh body))
    (stored : Did pool k i (.storeRefreshToken owner tokenHash expiresAt userAgent) id) :
    ∃ l < k, ∃ row ∈ (pool.storeAt l).refreshTokens.rows,
      row.tokenHash = hashRefreshToken body.refreshToken ∧ row.userId = owner ∧
      row.revokedAt = none := by
  obtain ⟨owner', _, found, sawLookup, _, sawUser, rfl⟩ := run.allowed serves stored
  obtain ⟨l, hlk, drawLookup, lookup⟩ := run.did_of_saw sawLookup
  obtain ⟨_, _, drawUser, findUser⟩ := run.did_of_saw sawUser
  obtain ⟨row, hRow, hHash, hOwner, _, hLive⟩ := lookupRefreshToken_reply lookup.effect
  obtain ⟨user, _, hId, hColumns⟩ := findById_reply findUser.effect
  refine ⟨l, hlk, row, hRow, hHash, ?_, hLive⟩
  rw [hOwner, hColumns, hId]

/-- Under the condition every descending token is revoked after step `b`. -/
theorem ServerRun.descends_revoked (run : ServerRun state start pool)
    (steps : ResetSteps pool r userId a b) (inTime : InTime pool a b userId) {tokenHash : String}
    (descends : Descends pool a userId tokenHash) :
    ∃ row ∈ (pool.storeAt (b + 1)).refreshTokens.rows, row.tokenHash = tokenHash ∧
      row.userId = userId ∧ row.revokedAt.isSome := by
  induction descends with
  | existed hMem hUser =>
      have hab := steps.order
      exact run.revoked_of_stored steps.revoke hMem hUser (by omega)
  | @login k tokenHash stored =>
      have hkb := inTime.login k tokenHash stored
      obtain ⟨_, _, _, _, _, _, _, _, _, _, _, _, draw, step⟩ := stored
      obtain ⟨row, hRow, hUser, hHash, _⟩ := storeRefreshToken_reply step.effect
      rw [← hHash]
      exact run.revoked_of_stored steps.revoke hRow hUser (by omega)
  | @refresh l k parent tokenHash descends stored ih =>
      obtain ⟨revoked, hRevoked, hParent, hUser, hSome⟩ := ih
      have hInTime := inTime.refresh l k parent tokenHash descends stored
      obtain ⟨i, body, owner, owner', _, _, _, _, serves, rfl, ⟨_, lookup⟩, did⟩ := stored
      obtain ⟨live, hLive, hLiveHash, _, _, hNone⟩ := lookupRefreshToken_reply lookup.effect
      -- A lookup after the revocation finds the parent revoked.
      rcases Nat.lt_or_ge b l with hbl | hlb
      · have later := run.refreshToken_later hbl hRevoked hLive (hLiveHash.trans hParent.symm)
        simpa [hNone] using later.revokedAt hSome
      have hlb' : l < b := by
        apply Nat.lt_of_le_of_ne hlb
        intro hEq
        obtain ⟨_, step⟩ := steps.revoke
        cases (lookup.unique (hEq ▸ step)).2
      have hkb := hInTime hlb'
      obtain ⟨l', hlk', row, hRow, hRowHash, hOwner, _⟩ := run.rotation_owner serves did
      have parentLater := run.refreshToken_later (by omega) hRow hRevoked
        (hParent.trans hRowHash.symm)
      obtain ⟨_, step⟩ := did
      obtain ⟨new, hNew, hNewUser, hNewHash, _⟩ := storeRefreshToken_reply step.effect
      rw [← hNewHash]
      refine run.revoked_of_stored steps.revoke hNew ?_ (by omega)
      rw [hNewUser, ← hOwner, ← parentLater.userId, hUser]

/-- Once a reset has returned, the tokens that descend from earlier sessions of
its user are all revoked, provided that none of them was stored late. -/
theorem reset_cutsOff (run : ServerRun state start pool) {body : ResetPasswordReq}
    {payload : Payload} (returned : pool.Returned r (.resetPassword body) (.ok payload)) :
    ∃ userId a b, ResetSteps pool r userId a b ∧
      (InTime pool a b userId → ∀ row ∈ pool.store.refreshTokens.rows,
        Descends pool a userId row.tokenHash → row.revokedAt.isSome) := by
  obtain ⟨userId, a, b, steps⟩ := run.resetSteps returned
  refine ⟨userId, a, b, steps, fun inTime row hMem descends => ?_⟩
  obtain ⟨revoked, hRevoked, hHash, _, hSome⟩ := run.descends_revoked steps inTime descends
  have hEnd : b + 1 ≤ pool.log.length := steps.revoke.lt_length
  rw [← Pool.storeAt_end (Nat.le_refl pool.log.length)] at hMem
  exact (run.refreshToken_later hEnd hRevoked hMem hHash.symm).revokedAt hSome

end Cutoff

/-! ### Runs of the reference instance -/

section Runs

attribute [local instance] reference

/-- A login reads the old hash, the whole reset follows, and then the login
stores its token. -/
def loginDuringReset : ServerPool :=
  Pool.play answer (handle exampleState) migrated (resetRequested ++
    [.arrive (.login ⟨"user@example.org", "password"⟩),
      .arrive (.resetPassword ⟨resetToken, "new password"⟩)] ++
    steps 2 30 1 ++ steps 3 40 4 ++ steps 2 50 5)

/-- The session of that login survives the reset. -/
theorem login_survives_reset : ∃ pool : ServerPool, ServerRun exampleState migrated pool ∧
    FreshDraws pool ∧ ∃ r body userId a b,
      pool.Returned r (.resetPassword body) (.ok .empty) ∧ ResetSteps pool r userId a b ∧
      ∃ row ∈ pool.store.refreshTokens.rows, row.userId = userId ∧
        Descends pool a userId row.tokenHash ∧ row.revokedAt = none ∧
        ∀ event ∈ pool.log, event.draw.now < row.expiresAt := by
  have run : ServerRun exampleState migrated loginDuringReset := Runs.play _
  let tokenHash := hashRefreshToken (hexEncode (moment 52).bytes)
  have returned : loginDuringReset.finished 3 =
      some (.resetPassword ⟨resetToken, "new password"⟩, .ok .empty) := by decide +kernel
  have serves : loginDuringReset.clients[2]?.map Client.request =
      some (.login ⟨"user@example.org", "password"⟩) := by decide +kernel
  obtain ⟨_, update, _⟩ := run.did_of_didWith 23 3
    (.updatePasswordHash "0000000000000029$new password" firstUser) (fun _ => true)
    (by decide +kernel)
  obtain ⟨_, revoke, _⟩ := run.did_of_didWith 24 3 (.revokeAllRefreshTokens firstUser)
    (fun _ => true) (by decide +kernel)
  obtain ⟨read, did, hRead⟩ := run.did_of_didWith 20 2 (.findByEmail "user@example.org")
    (fun read => read.any fun found => found.id == firstUser &&
      found.passwordHash == (loginDuringReset.storeAt 23).passwordOf firstUser) (by decide +kernel)
  obtain ⟨found, rfl, hFound⟩ := (Option.any_eq_true _ _).mp hRead
  simp only [Bool.and_eq_true, beq_iff_eq] at hFound
  obtain ⟨id, stored, _⟩ := run.did_of_didWith 29 2
    (.storeRefreshToken firstUser tokenHash 1752592000000053 none) (fun _ => true)
    (by decide +kernel)
  have last : (loginDuringReset.store.refreshTokens.rows.any fun row =>
      row.userId == firstUser && row.tokenHash == tokenHash && row.revokedAt.isNone &&
        loginDuringReset.log.all fun event => decide (event.draw.now < row.expiresAt)) = true := by
    decide +kernel
  obtain ⟨row, hMem, hRow⟩ := List.any_eq_true.mp last
  simp only [Bool.and_eq_true, beq_iff_eq, Option.isNone_iff_eq_none, List.all_eq_true,
    decide_eq_true_eq] at hRow
  obtain ⟨⟨⟨hUser, hHash⟩, hLive⟩, hTime⟩ := hRow
  refine ⟨loginDuringReset, run, by decide +kernel, 3, _, firstUser, 23, 24,
    Pool.finished_iff.mp returned, ⟨by decide, ⟨_, update⟩, revoke⟩, row, hMem, hUser, ?_, hLive,
    hTime⟩
  rw [hHash]
  exact .login ⟨2, _, found, 20, _, none, id, serves, did, by decide, hFound.1, hFound.2, stored⟩

/-- A reset that nobody overlaps. -/
def undisturbedReset : ServerPool :=
  Pool.play answer (handle exampleState) migrated (resetRequested ++
    [.arrive (.resetPassword ⟨resetToken, "new password"⟩)] ++ steps 2 30 4)

def revokesSessions (event : Event Db Draw Op) : Bool :=
  match event.op with
  | .sql (.revokeAllRefreshTokens _) => true
  | _ => false

/-- Its last step is the revocation, so the condition holds and the session of
the registration is cut off. -/
theorem reset_cutsOff_undisturbed :
    ∃ userId a b, ResetSteps undisturbedReset 2 userId a b ∧ InTime undisturbedReset a b userId ∧
      ∀ row ∈ undisturbedReset.store.refreshTokens.rows,
        Descends undisturbedReset a userId row.tokenHash → row.revokedAt.isSome := by
  have returned : undisturbedReset.finished 2 =
      some (.resetPassword ⟨resetToken, "new password"⟩, .ok .empty) := by decide +kernel
  have run : ServerRun exampleState migrated undisturbedReset := Runs.play _
  obtain ⟨userId, a, b, steps, cutsOff⟩ := reset_cutsOff run (Pool.finished_iff.mp returned)
  have only : ((List.range 24).all fun k =>
      (undisturbedReset.log[k]?).all fun event => !revokesSessions event || k == 23) = true := by
    decide +kernel
  have hLength : undisturbedReset.log.length = 24 := by decide +kernel
  have hLast : b = 23 := by
    obtain ⟨draw, step⟩ := steps.revoke
    have hb : b < undisturbedReset.log.length := step.lt_length
    rw [hLength] at hb
    have hEvent := List.all_eq_true.mp only b (List.mem_range.mpr hb)
    simpa [step.event, revokesSessions] using hEvent
  have inTime : InTime undisturbedReset a b userId := by
    constructor
    · rintro k tokenHash ⟨_, _, _, _, _, _, _, _, _, _, _, _, stored⟩
      have hk : k < undisturbedReset.log.length := stored.lt_length
      omega
    · rintro _ k _ tokenHash _ ⟨_, _, _, _, _, _, _, _, _, _, _, stored⟩ _
      have hk : k < undisturbedReset.log.length := stored.lt_length
      omega
  exact ⟨userId, a, b, steps, inTime, cutsOff inTime⟩

end Runs

end GenericAuth
