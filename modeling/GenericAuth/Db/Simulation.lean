import GenericAuth.Db.View

/-! The tables do what the registry allows, statement by statement. -/
namespace GenericAuth

open Relational Interaction

variable [External] {draw : Draw} {db db' : Db}

/-! ### Queries -/

/-- The join with `roles` finds a role for every row, because the foreign key holds
and the role table is the migrated one. -/
theorem record_eq (sound : db.Sound) {row : UserRow} (hMem : row ∈ db.users.rows) :
    db.record row = some ((UserAccount.ofRow row).record row.id) := by
  obtain ⟨role, hNumber⟩ := sound.role (sound.references.roles row hMem)
  simp only [Db.record, sound.roles, migrated, UserAccount.record, UserAccount.columns,
    UserAccount.ofRow, ← hNumber, Registry.roleOf_number]
  cases role <;> simp [Registry.number, Role.asStr]

/-- The accounts of the registry are the stored rows, without their keys. -/
theorem registry_account {userId : Uuid} {account : UserAccount} :
    db.registry.account userId = some account ↔
      ∃ row ∈ db.users.rows, row.id = userId ∧ UserAccount.ofRow row = account := by
  simp only [Db.registry, Option.map_eq_some_iff, user_eq_some, and_assoc]

theorem account_eq_none {userId : Uuid} (h : ¬db.hasUser userId = true) :
    db.registry.account userId = none := by
  rwa [← registry_hasUser, Option.isSome_iff_ne_none, not_not] at h

theorem identity_isSome (db : Db) (provider subject : String) :
    (db.registry.identity (provider, subject)).isSome =
      db.oauthIdentities.rows.any fun row => row.provider == provider && row.subject == subject := by
  simp only [Db.registry, Option.isSome_map, Table.lookup, Table.find, List.isSome_find?]
  refine congrArg (List.any _) (funext fun row => ?_)
  rw [Bool.eq_iff_iff]
  simp

/-- The lookups by key are lookups in the view. The following lemmas say so for each
of them. -/
theorem findById_eq (sound : db.Sound) (userId : Uuid) :
    db.findById userId = (db.registry.account userId).map fun account =>
      account.record userId := by
  change (db.user userId).bind db.record = ((db.user userId).map UserAccount.ofRow).map _
  cases h : db.user userId with
  | none => rfl
  | some row =>
      obtain ⟨hMem, rfl⟩ := user_eq_some.mp h
      exact record_eq sound hMem

/-- Addresses are compared without regard to case, so this is no lookup by key. It is
unique all the same, by the constraint on addresses. -/
theorem findByEmail_iff (sound : db.Sound) (email : String) (record : UserSecretRecord) :
    db.findByEmail email = some record ↔ ∃ account,
      db.registry.account record.id = some account ∧
        sameEmail account.email (some email) = true ∧ record = account.secretRecord record.id := by
  constructor
  · intro h
    obtain ⟨row, hRow, hRecord⟩ := Option.bind_eq_some_iff.mp h
    obtain ⟨hMem, hEmail⟩ := Table.mem_of_find hRow
    rw [record_eq sound hMem, Option.map_some, Option.some.injEq] at hRecord
    subst hRecord
    exact ⟨.ofRow row, registry_account.mpr ⟨row, hMem, rfl, rfl⟩, hEmail, rfl⟩
  · rintro ⟨account, hAccount, hEmail, hRecord⟩
    obtain ⟨row, hMem, hId, rfl⟩ := registry_account.mp hAccount
    obtain ⟨found, hFound, _, hHash, hJoined⟩ := sound.references.findByEmail hMem hEmail
    rw [record_eq sound hMem, Option.some.injEq] at hJoined
    rw [hFound, hRecord, ← hId, UserAccount.secretRecord, hJoined]
    cases found
    exact congrArg some (congrArg _ hHash)

/-- Two lookups in a row: the identity, then the account of its owner. -/
theorem findUserByOauth_eq (sound : db.Sound) (provider subject : String) :
    db.findUserByOauth provider subject =
      (db.registry.identity (provider, subject)).bind fun identity =>
        (db.registry.account identity.owner).map fun account => account.record identity.owner := by
  have hFind : (db.oauthIdentities.find fun row =>
      row.provider == provider && row.subject == subject) =
        db.oauthIdentities.lookup (fun row => (row.provider, row.subject)) (provider, subject) := by
    simp only [Table.lookup]
    refine congrArg db.oauthIdentities.find (funext fun row => ?_)
    rw [Bool.eq_iff_iff]
    simp
  simp only [Db.findUserByOauth, hFind, Db.registry, Option.bind_map]
  refine congrArg (Option.bind _) (funext fun row => ?_)
  exact findById_eq sound row.userId

/-- The view keeps everything that the query returns, so no invariant is needed. -/
theorem lookupRefreshToken_eq (db : Db) (tokenHash : String) :
    db.lookupRefreshToken tokenHash = (db.registry.session tokenHash).map fun session =>
      (session.owner, session.expiresAt, session.revokedAt) := by
  simp only [Db.lookupRefreshToken, Db.registry, Option.map_map]
  rfl

theorem roleIdFor_eq (sound : db.Sound) (name : String) :
    db.roleIdFor name = (Role.parse name).map Registry.number := by
  simp only [Db.roleIdFor, sound.roles, migrated]
  unfold Role.parse
  split
  · rfl
  · rfl
  · rfl
  · next hAdmin hModerator hUser =>
      simp [Ne.symm hAdmin, Ne.symm hModerator, Ne.symm hUser]

/-! ### Writes -/

/-- A new account is an update of the view at a key that was free. -/
theorem insertUser_does (sound : db.Sound) {email passwordHash displayName : Option String}
    {roleId : Nat} {emailVerified : Bool} {columns : UserColumns}
    (h : db.insertUser draw email passwordHash displayName roleId emailVerified =
      (.ok columns, db')) :
    db.registry.Does draw (.insertUser email passwordHash displayName roleId emailVerified)
      columns db'.registry := by
  simp only [Db.insertUser] at h
  split at h
  · cases h
  · next users inserted =>
      split at h
      · next hRole =>
          obtain ⟨hColumns, rfl⟩ := Prod.mk.inj h
          obtain rfl := Except.ok.inj hColumns
          have free := Table.free_of_insert inserted
          obtain ⟨role, hNumber⟩ := sound.role hRole
          refine ⟨?_, ?_, role, hNumber, rfl, ?_⟩
          · have hNone := Table.lookup_of_insert UserRow.keyed inserted
            exact congrArg (Option.map UserAccount.ofRow) hNone
          · intro userId account hAccount
            obtain ⟨row, hMem, _, rfl⟩ := registry_account.mp hAccount
            have hFree := free row hMem
            simp only [UserRow.clash, Bool.or_eq_false_iff] at hFree
            exact hFree.2
          · rw [registry_insertUser inserted]
            simp [UserAccount.ofRow, UserAccount.opened, ← hNumber]
      · cases h

/-- A user that is not stored has no account to change, and the view stays. -/
theorem updateRole_does (sound : db.Sound) {roleId : Nat} {userId : Uuid}
    (h : db.updateRole draw roleId userId = (.ok (), db')) :
    db.registry.Does draw (.updateRole roleId userId) () db'.registry := by
  simp only [Db.updateRole] at h
  split at h
  · cases h
  · next hRole =>
      obtain ⟨-, rfl⟩ := Prod.mk.inj h
      have changed : (db.updateUsers userId
          (fun row => { row with roleId, updatedAt := draw.dbNow })
          fun _ _ => ⟨rfl, rfl⟩).registry = db.registry.changeAccount userId fun account =>
            { account with role := Registry.roleOf roleId, updatedAt := draw.dbNow } :=
        registry_updateUsers (fun _ => rfl) fun _ => rfl
      simp only [Registry.Does]
      cases hAccount : db.registry.account userId with
      | none =>
          simp only [changed, Registry.changeAccount, hAccount, Option.map_none]
          rw [← hAccount, Function.update_eq_self]
      | some account =>
          have hUser : db.hasUser userId = true := by
            rw [← registry_hasUser, hAccount]
            rfl
          obtain ⟨role, rfl⟩ := sound.role (by simpa [hUser] using hRole)
          exact ⟨role, rfl, by simpa using changed⟩

/-- The permission is selected by its name. An unknown name stores nothing, and an older
entry of the user is replaced. -/
theorem grantPermission_does (sound : db.Sound) {userId : Uuid} {name : String} {granted : Bool}
    (h : db.grantPermission userId name granted = (.ok (), db')) :
    db.registry.Does draw (.grantPermission userId name granted) () db'.registry := by
  simp only [Registry.Does]
  by_cases hKnown : name ∈ Registry.catalogue
  · rw [if_pos hKnown]
    obtain ⟨permission, hMem, rfl, hFind⟩ := sound.permission_of_known hKnown
    simp only [Db.grantPermission, hFind] at h
    split at h
    · next refused =>
        obtain ⟨-, rfl⟩ := Prod.mk.inj h
        obtain ⟨stored, hStored, hClash⟩ := Table.clash_of_refused refused
        simp only [UserPermissionRow.clash, Bool.and_eq_true, beq_iff_eq] at hClash
        refine ⟨?_, registry_setOverride sound.catalogued hMem ?_⟩
        · rw [registry_hasUser, ← hClash.1]
          exact sound.granted stored hStored
        · have hLookup : db.userPermissions.lookup (fun row => (row.userId, row.permissionId))
              (userId, permission.id) = some stored := by
            apply (Table.lookup_eq_some UserPermissionRow.clash_comm
              UserPermissionRow.keyed).mpr
            exact ⟨hStored, by rw [hClash.1, hClash.2]⟩
          rw [Table.lookup_update (fun row : UserPermissionRow => (row.userId, row.permissionId))
            (k := (userId, permission.id)) rfl (by intro row; rfl)
            (by simp [UserPermissionRow.clash]), hLookup, Option.map_some, ← hClash.1, ← hClash.2]
    · next userPermissions inserted =>
        split at h
        · next hUser =>
            obtain ⟨-, rfl⟩ := Prod.mk.inj h
            refine ⟨(registry_hasUser db userId).trans hUser, ?_⟩
            exact registry_setOverride sound.catalogued hMem
              (Table.lookup_insert UserPermissionRow.keyed inserted)
        · cases h
  · rw [if_neg hKnown]
    have hNone : (db.permissions.find? fun row => row.name == name) = none := by
      apply List.find?_eq_none.mpr
      intro permission hMem hName
      rw [beq_iff_eq] at hName
      exact hKnown (hName ▸ sound.known_of_permission hMem)
    simp only [Db.grantPermission, hNone] at h
    rw [(Prod.mk.inj h).2]

/-- A free subject is bound, and a bound one keeps its owner. -/
theorem upsertOauthIdentity_does {userId : Uuid} {provider subject : String}
    {email : Option String} {rawProfile : GoogleProfile}
    (h : db.upsertOauthIdentity draw userId provider subject email rawProfile = (.ok (), db')) :
    db.registry.Does draw (.upsertOauthIdentity userId provider subject email rawProfile) ()
      db'.registry := by
  simp only [Db.upsertOauthIdentity] at h
  split at h
  · next hBound =>
      obtain ⟨-, rfl⟩ := Prod.mk.inj h
      obtain ⟨identity, hIdentity⟩ := Option.isSome_iff_exists.mp
        ((identity_isSome db provider subject).trans hBound)
      refine ⟨{ identity with email, rawProfile }, by rw [hIdentity], ?_⟩
      rw [registry_reprofile, hIdentity, Option.map_some]
  · next hFree =>
      split at h
      · cases h
      · next oauthIdentities inserted =>
          split at h
          · next hUser =>
              obtain ⟨-, rfl⟩ := Prod.mk.inj h
              have hNone : db.registry.identity (provider, subject) = none := by
                rwa [← identity_isSome, Option.isSome_iff_ne_none, not_not] at hFree
              refine ⟨_, ?_, registry_upsertNew inserted⟩
              rw [hNone]
              exact ⟨(registry_hasUser db userId).trans hUser, rfl⟩
          · cases h

theorem storeRefreshToken_does {userId : Uuid} {tokenHash : String} {expiresAt : OffsetDateTime}
    {userAgent : Option String} {id : Uuid}
    (h : db.storeRefreshToken draw userId tokenHash expiresAt userAgent = (.ok id, db')) :
    db.registry.Does draw (.storeRefreshToken userId tokenHash expiresAt userAgent) id
      db'.registry := by
  simp only [Db.storeRefreshToken] at h
  split at h
  · cases h
  · next refreshTokens inserted =>
      split at h
      · next hUser =>
          obtain ⟨hId, rfl⟩ := Prod.mk.inj h
          have hNone := Table.lookup_of_insert RefreshTokenRow.keyed inserted
          exact ⟨(Except.ok.inj hId).symm, (registry_hasUser db userId).trans hUser,
            congrArg (Option.map UserSession.ofRow) hNone, registry_storeRefreshToken inserted⟩
      · cases h

/-! ### Refusals -/

/-- A failed statement has changed nothing, and it had a reason that the view shows:
a key in use, an address in use, or a role that is missing. -/
theorem insertUser_refuses (sound : db.Sound) {email passwordHash displayName : Option String}
    {roleId : Nat} {emailVerified : Bool} {error : SqlxError}
    (h : db.insertUser draw email passwordHash displayName roleId emailVerified =
      (.error error, db')) :
    db' = db ∧ db.registry.Refuses draw
      (.insertUser email passwordHash displayName roleId emailVerified) := by
  simp only [Db.insertUser] at h
  split at h
  · next refused =>
      obtain ⟨-, rfl⟩ := Prod.mk.inj h
      obtain ⟨stored, hMem, hClash⟩ := Table.clash_of_refused refused
      have hStored := registry_account.mpr ⟨stored, hMem, rfl, rfl⟩
      simp only [UserRow.clash, Bool.or_eq_true, beq_iff_eq] at hClash
      refine ⟨rfl, hClash.imp (fun hId => ?_) fun hEmail => .inl ⟨_, _, hStored, hEmail⟩⟩
      rw [← hId, hStored]
      rfl
  · split at h
    · cases h
    · next hRole =>
        obtain ⟨-, rfl⟩ := Prod.mk.inj h
        refine ⟨rfl, .inr (.inr fun role hNumber => hRole ?_)⟩
        exact hNumber ▸ sound.role_exists role

/-- An unknown role number violates the foreign key, but only if there is a row to
update. -/
theorem updateRole_refuses (sound : db.Sound) {roleId : Nat} {userId : Uuid} {error : SqlxError}
    (h : db.updateRole draw roleId userId = (.error error, db')) :
    db' = db ∧ db.registry.Refuses draw (.updateRole roleId userId) := by
  simp only [Db.updateRole] at h
  split at h
  · next hRefused =>
      obtain ⟨-, rfl⟩ := Prod.mk.inj h
      simp only [Bool.and_eq_true, Bool.not_eq_true'] at hRefused
      refine ⟨rfl, (registry_hasUser db userId).trans hRefused.1, fun role hNumber => ?_⟩
      rw [← hNumber, sound.role_exists role] at hRefused
      cases hRefused.2
  · cases h

theorem grantPermission_refuses (sound : db.Sound) {userId : Uuid} {name : String}
    {granted : Bool} {error : SqlxError}
    (h : db.grantPermission userId name granted = (.error error, db')) :
    db' = db ∧ db.registry.Refuses draw (.grantPermission userId name granted) := by
  simp only [Db.grantPermission] at h
  split at h
  · cases h
  · next permission hFind =>
      have hKnown := sound.known_of_permission (List.mem_of_find?_eq_some hFind)
      have hName := List.find?_some hFind
      simp only [beq_iff_eq] at hName
      rw [hName] at hKnown
      split at h
      · cases h
      · split at h
        · cases h
        · next hUser =>
            obtain ⟨-, rfl⟩ := Prod.mk.inj h
            exact ⟨rfl, hKnown, account_eq_none hUser⟩

/-- The conflict on provider and subject never fails, so that only the owner or the
identifier is left as a reason. -/
theorem upsertOauthIdentity_refuses {userId : Uuid} {provider subject : String}
    {email : Option String} {rawProfile : GoogleProfile} {error : SqlxError}
    (h : db.upsertOauthIdentity draw userId provider subject email rawProfile =
      (.error error, db')) :
    db' = db ∧ db.registry.Refuses draw
      (.upsertOauthIdentity userId provider subject email rawProfile) := by
  simp only [Db.upsertOauthIdentity] at h
  split at h
  · cases h
  · next hFree =>
      have hNone : db.registry.identity (provider, subject) = none := by
        rwa [← identity_isSome, Option.isSome_iff_ne_none, not_not] at hFree
      split at h
      · next refused =>
          obtain ⟨-, rfl⟩ := Prod.mk.inj h
          obtain ⟨stored, hMem, hClash⟩ := Table.clash_of_refused refused
          have hLookup := (Table.lookup_eq_some OAuthIdentityRow.clash_comm
            OAuthIdentityRow.keyed).mpr ⟨hMem, rfl⟩
          refine ⟨rfl, hNone, .inr ⟨_, .ofRow stored, congrArg (Option.map _) hLookup, ?_⟩⟩
          simp only [OAuthIdentityRow.clash, Bool.or_eq_true, beq_iff_eq] at hClash
          refine hClash.resolve_right fun hKey => hFree (List.any_eq_true.mpr ⟨stored, hMem, ?_⟩)
          simpa using hKey
      · split at h
        · cases h
        · next hUser =>
            obtain ⟨-, rfl⟩ := Prod.mk.inj h
            exact ⟨rfl, hNone, .inl (account_eq_none hUser)⟩

theorem storeRefreshToken_refuses {userId : Uuid} {tokenHash : String}
    {expiresAt : OffsetDateTime} {userAgent : Option String} {error : SqlxError}
    (h : db.storeRefreshToken draw userId tokenHash expiresAt userAgent = (.error error, db')) :
    db' = db ∧
      db.registry.Refuses draw (.storeRefreshToken userId tokenHash expiresAt userAgent) := by
  simp only [Db.storeRefreshToken] at h
  split at h
  · next refused =>
      obtain ⟨-, rfl⟩ := Prod.mk.inj h
      obtain ⟨stored, hMem, hClash⟩ := Table.clash_of_refused refused
      have hLookup := (Table.lookup_eq_some RefreshTokenRow.clash_comm
        RefreshTokenRow.keyed).mpr ⟨hMem, rfl⟩
      have hSession := congrArg (Option.map UserSession.ofRow) hLookup
      simp only [RefreshTokenRow.clash, Bool.or_eq_true, beq_iff_eq] at hClash
      refine ⟨rfl, .inr (hClash.symm.imp (fun hHash => ?_) fun hId => ⟨_, _, hSession, hId⟩)⟩
      rw [← hHash]
      exact Option.isSome_iff_exists.mpr ⟨_, hSession⟩
  · split at h
    · cases h
    · next hUser =>
        obtain ⟨-, rfl⟩ := Prod.mk.inj h
        exact ⟨rfl, .inl (account_eq_none hUser)⟩

/-- One lemma for both tables of one-time tokens. -/
theorem storeOneTimeToken_refuses {name : String} {table table' : Table OneTimeTokenRow.clash}
    {userId : Uuid} {tokenHash : String} {expiresAt : OffsetDateTime} {error : SqlxError}
    (h : Db.storeOneTimeToken draw db name table userId tokenHash expiresAt =
      (.error error, table')) :
    table' = table ∧ links table tokenHash = none ∧ (db.registry.account userId = none ∨
      ∃ key link, links table key = some link ∧ link.id = draw.uuid) := by
  simp only [Db.storeOneTimeToken] at h
  split at h
  · cases h
  · next hFree =>
      have hNone : links table tokenHash = none := by
        rw [links, Option.map_eq_none_iff, Table.lookup_eq_none]
        intro row hMem hHash
        exact hFree (List.any_eq_true.mpr ⟨row, hMem, beq_iff_eq.mpr hHash⟩)
      split at h
      · next refused =>
          obtain ⟨-, rfl⟩ := Prod.mk.inj h
          obtain ⟨stored, hMem, hClash⟩ := Table.clash_of_refused refused
          have hLookup := (Table.lookup_eq_some OneTimeTokenRow.clash_comm
            OneTimeTokenRow.keyed).mpr ⟨hMem, rfl⟩
          refine ⟨rfl, hNone, .inr ⟨_, .ofRow stored, congrArg (Option.map _) hLookup, ?_⟩⟩
          simp only [OneTimeTokenRow.clash, Bool.or_eq_true, beq_iff_eq] at hClash
          refine hClash.resolve_right fun hHash => hFree (List.any_eq_true.mpr ⟨stored, hMem, ?_⟩)
          exact beq_iff_eq.mpr hHash
      · split at h
        · cases h
        · next hUser =>
            obtain ⟨-, rfl⟩ := Prod.mk.inj h
            exact ⟨rfl, hNone, .inl (account_eq_none hUser)⟩

end GenericAuth
