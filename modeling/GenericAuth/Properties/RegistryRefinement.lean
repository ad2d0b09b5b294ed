import GenericAuth.Db.Simulation
import GenericAuth.Properties.UserPaging

/-! The server over its tables refines the server over a registry. -/
namespace GenericAuth

open Interaction Relational

section Steps

variable [External] {draw : Draw} {db db' : Db}

/-- The users of a query, in its order. -/
def Db.listing (db : Db) (draw : Draw) : List UserRecord :=
  (db.ordered draw).map fun row => (UserAccount.ofRow row).record row.id

theorem filterMap_record (sound : db.Sound) (draw : Draw) :
    (db.ordered draw).filterMap db.record = db.listing draw := by
  rw [Db.listing, ← List.filterMap_eq_map]
  apply List.filterMap_congr
  intro row hMem
  exact record_eq sound ((ordered_perm db draw).mem_iff.mp hMem)

theorem listing_of_query (db : Db) (draw : Draw) : db.registry.Listing (db.listing draw) where
  newest := List.pairwise_map.mpr (ordered_descending db draw)
  once := by
    rw [Db.listing, List.map_map]
    exact ((ordered_perm db draw).map _).nodup_iff.mpr (users_nodup db)
  all record := by
    simp only [Db.listing, List.mem_map, registry_account]
    constructor
    · rintro ⟨row, hMem, rfl⟩
      exact ⟨.ofRow row, ⟨row, (ordered_perm db draw).mem_iff.mp hMem, rfl, rfl⟩, rfl⟩
    · rintro ⟨_, ⟨row, hMem, hId, rfl⟩, hRecord⟩
      exact ⟨row, (ordered_perm db draw).mem_iff.mpr hMem, by rw [hRecord, hId]⟩

theorem listUsers_does (sound : db.Sound) {limit offset : Int64} {rows : List UserRecord}
    (h : db.listUsers draw limit offset = .ok rows) :
    db.registry.Does draw (.listUsers limit offset) rows db.registry := by
  simp only [Db.listUsers] at h
  split at h
  · cases h
  · next hOffset =>
      split at h
      · cases h
      · next hLimit =>
          refine ⟨rfl, Int64.not_lt.mp hLimit, Int64.not_lt.mp hOffset, db.listing draw,
            listing_of_query db draw, ?_⟩
          rw [← filterMap_record sound draw]
          exact (Except.ok.inj h).symm

/-- A statement that succeeds on the tables does what the registry allows. -/
theorem exec_does {statement : Statement} {rows : statement.Rows} (sound : db.Sound)
    (h : db.exec draw statement = (.ok rows, db')) :
    db.registry.Does draw statement rows db'.registry := by
  cases statement with
  | roleIdFor name =>
      obtain ⟨hRows, rfl⟩ := Prod.mk.inj h
      exact ⟨rfl, (Except.ok.inj hRows).symm.trans (roleIdFor_eq sound name)⟩
  | insertUser => exact insertUser_does sound h
  | findByEmail email =>
      obtain ⟨hRows, rfl⟩ := Prod.mk.inj h
      obtain rfl := Except.ok.inj hRows
      exact ⟨rfl, findByEmail_iff sound email⟩
  | findById userId =>
      obtain ⟨hRows, rfl⟩ := Prod.mk.inj h
      exact ⟨rfl, (Except.ok.inj hRows).symm.trans (findById_eq sound userId)⟩
  | listUsers limit offset =>
      obtain ⟨hRows, rfl⟩ := Prod.mk.inj h
      exact listUsers_does sound hRows
  | updateRole => exact updateRole_does sound h
  | updateActive =>
      obtain ⟨-, rfl⟩ := Prod.mk.inj h
      exact registry_updateUsers (fun _ => rfl) fun _ => rfl
  | permissionsFor userId =>
      obtain ⟨hRows, rfl⟩ := Prod.mk.inj h
      obtain rfl := Except.ok.inj hRows
      exact ⟨rfl, permissionsFor_nodup db userId, fun name => mem_permissionsFor_iff sound⟩
  | upsertOauthIdentity => exact upsertOauthIdentity_does h
  | findUserByOauth provider subject =>
      obtain ⟨hRows, rfl⟩ := Prod.mk.inj h
      exact ⟨rfl, (Except.ok.inj hRows).symm.trans (findUserByOauth_eq sound provider subject)⟩
  | storeRefreshToken => exact storeRefreshToken_does h
  | revokeRefreshToken tokenHash =>
      obtain ⟨-, rfl⟩ := Prod.mk.inj h
      exact registry_revokeRefreshToken draw db tokenHash
  | lookupRefreshToken tokenHash =>
      obtain ⟨hRows, rfl⟩ := Prod.mk.inj h
      exact ⟨rfl, (Except.ok.inj hRows).symm.trans (lookupRefreshToken_eq db tokenHash)⟩
  | storeEmailVerificationToken userId tokenHash expiresAt =>
      obtain ⟨hRows, rfl⟩ := Prod.mk.inj h
      obtain ⟨hUser, hLinks⟩ := links_store (Prod.ext hRows rfl)
      exact ⟨fun hNone => (registry_hasUser db userId).trans (hUser hNone),
        congrArg (fun verification => { db.registry with verification }) hLinks⟩
  | consumeEmailVerificationToken tokenHash =>
      obtain ⟨hRows, rfl⟩ := Prod.mk.inj h
      exact ⟨(Except.ok.inj hRows).symm.trans (find_consumable draw _ tokenHash),
        congrArg (fun verification => { db.registry with verification })
          (links_consume draw _ tokenHash)⟩
  | markEmailVerified =>
      obtain ⟨-, rfl⟩ := Prod.mk.inj h
      exact registry_updateUsers (fun _ => rfl) fun _ => rfl
  | storePasswordResetToken userId tokenHash expiresAt =>
      obtain ⟨hRows, rfl⟩ := Prod.mk.inj h
      obtain ⟨hUser, hLinks⟩ := links_store (Prod.ext hRows rfl)
      exact ⟨fun hNone => (registry_hasUser db userId).trans (hUser hNone),
        congrArg (fun reset => { db.registry with reset }) hLinks⟩
  | consumePasswordResetToken tokenHash =>
      obtain ⟨hRows, rfl⟩ := Prod.mk.inj h
      exact ⟨(Except.ok.inj hRows).symm.trans (find_consumable draw _ tokenHash),
        congrArg (fun reset => { db.registry with reset }) (links_consume draw _ tokenHash)⟩
  | updatePasswordHash =>
      obtain ⟨-, rfl⟩ := Prod.mk.inj h
      exact registry_updateUsers (fun _ => rfl) fun _ => rfl
  | revokeAllRefreshTokens userId =>
      obtain ⟨-, rfl⟩ := Prod.mk.inj h
      exact registry_revokeAllRefreshTokens draw db userId
  | grantPermission => exact grantPermission_does sound h

/-- One that fails on the tables has a reason for it in the registry. -/
theorem exec_refuses {statement : Statement} {error : SqlxError} (sound : db.Sound)
    (h : db.exec draw statement = (.error error, db')) :
    db' = db ∧ db.registry.Refuses draw statement := by
  cases statement with
  | insertUser => exact insertUser_refuses sound h
  | updateRole => exact updateRole_refuses sound h
  | listUsers limit offset =>
      obtain ⟨hRows, rfl⟩ := Prod.mk.inj h
      refine ⟨rfl, ?_⟩
      simp only [Db.listUsers] at hRows
      split at hRows
      · next hOffset => exact .inr hOffset
      · split at hRows
        · next hLimit => exact .inl hLimit
        · cases hRows
  | grantPermission => exact grantPermission_refuses sound h
  | upsertOauthIdentity => exact upsertOauthIdentity_refuses h
  | storeRefreshToken => exact storeRefreshToken_refuses h
  | storeEmailVerificationToken userId tokenHash expiresAt =>
      obtain ⟨hRows, rfl⟩ := Prod.mk.inj h
      obtain ⟨hTable, hNone, hReason⟩ := storeOneTimeToken_refuses (Prod.ext hRows rfl)
      exact ⟨congrArg (fun emailVerificationTokens => { db with emailVerificationTokens }) hTable,
        hNone, hReason⟩
  | storePasswordResetToken userId tokenHash expiresAt =>
      obtain ⟨hRows, rfl⟩ := Prod.mk.inj h
      obtain ⟨hTable, hNone, hReason⟩ := storeOneTimeToken_refuses (Prod.ext hRows rfl)
      exact ⟨congrArg (fun passwordResetTokens => { db with passwordResetTokens }) hTable,
        hNone, hReason⟩
  | _ => cases (Prod.mk.inj h).1

/-- Operation by operation, the tables do what the registry allows. -/
theorem answer_refines : Refines answer Db.Sound Db.registry Registry.Step where
  kept := answer_sound
  step draw db op sound := by
    cases op with
    | sql statement =>
        simp only [answer]
        cases hFault : draw.fault with
        | some error => exact ⟨rfl, .inl (by rw [hFault]; rfl)⟩
        | none =>
            cases hExec : db.exec draw statement with
            | mk reply after =>
                cases reply with
                | ok rows => exact ⟨hFault, exec_does sound hExec⟩
                | error error =>
                    obtain ⟨rfl, hReason⟩ := exec_refuses sound hExec
                    exact ⟨rfl, .inr hReason⟩
    | _ => rfl

end Steps

section Runs

variable [External] {state : AppState} {pool : ServerPool}

theorem ServerRun.registry_sound (run : ServerRun state migrated pool) (l : Nat) :
    (pool.storeAt l).registry.Sound :=
  answer_refines.always run migrated_sound (migrated_registry ▸ Registry.empty_sound)
    (fun _ _ _ _ _ step sound => sound.step step) l

/-- In every interleaving the clients of the server have the conversations that
clients of the registry could have had, and the tables end as that registry,
which is sound. -/
theorem server_refines_registry (run : ServerRun state migrated pool) :
    Interleaving Registry.Step (handle state) Registry.empty pool.clients
      (pool.log.map (Event.answer answer)) pool.store.registry ∧ pool.store.registry.Sound := by
  have reached := answer_refines.interleaving run migrated_sound
  rw [migrated_registry] at reached
  exact ⟨reached, reached.invariant Registry.empty_sound
    fun _ _ _ _ _ step sound => sound.step step⟩

end Runs

section Example

attribute [local instance] reference

/-- The registration of the first user, seen as a run of the registry. -/
theorem server_refines_registry_registered :
    (registered.store.registry.account firstUser).isSome = true ∧
      Interleaving Registry.Step (handle exampleState) Registry.empty registered.clients
        (registered.log.map (Event.answer answer)) registered.store.registry :=
  ⟨by decide +kernel, (server_refines_registry registered_run).1⟩

end Example

end GenericAuth
