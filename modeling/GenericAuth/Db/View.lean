import GenericAuth.Db.Permissions
import GenericAuth.Db.Registry
import GenericAuth.Relational.Keyed

/-! The tables seen as a registry, and what each write makes of the view. -/
namespace GenericAuth

open Relational

namespace Registry

/-- The role with a number. -/
def roleOf : Nat → Role
  | 1 => .admin
  | 2 => .moderator
  | _ => .user

@[simp] theorem roleOf_number (role : Role) : roleOf (number role) = role := by
  cases role <;> rfl

end Registry

/-- The key of the row is the key of the account in the view, so it is not repeated. -/
def UserAccount.ofRow (row : UserRow) : UserAccount :=
  { email := row.email, displayName := row.displayName, passwordHash := row.passwordHash,
    role := Registry.roleOf row.roleId, isActive := row.isActive,
    emailVerified := row.emailVerified, createdAt := row.createdAt, updatedAt := row.updatedAt }

def UserSession.ofRow (row : RefreshTokenRow) : UserSession :=
  { id := row.id, owner := row.userId, issuedAt := row.issuedAt, expiresAt := row.expiresAt,
    revokedAt := row.revokedAt, userAgent := row.userAgent }

def Link.ofRow (row : OneTimeTokenRow) : Link :=
  { id := row.id, owner := row.userId, expiresAt := row.expiresAt, usedAt := row.usedAt,
    createdAt := row.createdAt }

def Identity.ofRow (row : OAuthIdentityRow) : Identity :=
  { id := row.id, owner := row.userId, email := row.email, rawProfile := row.rawProfile,
    createdAt := row.createdAt }

/-! ### Keys -/

/-- Rows with one key clash, so a table holds at most one of them. -/
theorem OAuthIdentityRow.keyed :
    Table.Keyed OAuthIdentityRow.clash fun row => (row.provider, row.subject) := by
  intro first second h
  obtain ⟨hProvider, hSubject⟩ := Prod.mk.inj h
  simp [OAuthIdentityRow.clash, hProvider, hSubject]

theorem RefreshTokenRow.keyed : Table.Keyed RefreshTokenRow.clash RefreshTokenRow.tokenHash := by
  intro first second h
  simp [RefreshTokenRow.clash, h]

theorem OneTimeTokenRow.keyed : Table.Keyed OneTimeTokenRow.clash OneTimeTokenRow.tokenHash := by
  intro first second h
  simp [OneTimeTokenRow.clash, h]

theorem UserPermissionRow.keyed :
    Table.Keyed UserPermissionRow.clash fun row => (row.userId, row.permissionId) := by
  intro first second h
  obtain ⟨hUser, hPermission⟩ := Prod.mk.inj h
  simp [UserPermissionRow.clash, hUser, hPermission]

theorem UserRow.keyed [External] : Table.Keyed UserRow.clash fun row => row.id := by
  intro first second h
  simp [UserRow.clash, h]

/-! ### Links -/

/-- A table of one-time tokens as links. -/
def links (table : Table OneTimeTokenRow.clash) (tokenHash : String) : Option Link :=
  (table.lookup OneTimeTokenRow.tokenHash tokenHash).map Link.ofRow

/-- The update statement selects by hash and by its guards. In the view it touches
at most the one link of that hash. -/
theorem links_consume (draw : Draw) (table : Table OneTimeTokenRow.clash) (tokenHash : String) :
    links (Db.consumeOneTimeToken draw table tokenHash).2 =
      Registry.useLink (links table) draw.dbNow tokenHash := by
  funext other
  have hRows : (Db.consumeOneTimeToken draw table tokenHash).2.lookup OneTimeTokenRow.tokenHash
      other = (table.lookup OneTimeTokenRow.tokenHash other).map fun row =>
        if Db.consumable draw tokenHash row then { row with usedAt := some draw.dbNow } else row :=
    Table.lookup_change OneTimeTokenRow.tokenHash rfl (by intro row; rfl) other
  simp only [links, hRows, Registry.useLink]
  cases h : table.lookup OneTimeTokenRow.tokenHash other with
  | none =>
      by_cases hOther : other = tokenHash
      · subst hOther
        simp [h]
      · simp [Function.update_of_ne hOther, links, h]
  | some row =>
      have hHash : row.tokenHash = other := beq_iff_eq.mp (Table.mem_of_find h).2
      by_cases hOther : other = tokenHash
      · subst hOther
        rw [Function.update_self, Option.map_some, Option.map_some, h, Option.map_some,
          Option.map_some]
        have hOpen : Db.consumable draw other row = (Link.ofRow row).open draw.dbNow := by
          simp only [Db.consumable, hHash, BEq.rfl, Bool.true_and]
          rfl
        rw [hOpen]
        split <;> rfl
      · simp [links, h, Db.consumable, hHash, hOther]

/-- What the statement returns, in terms of the view that it found. -/
theorem find_consumable (draw : Draw) (table : Table OneTimeTokenRow.clash) (tokenHash : String) :
    (Db.consumeOneTimeToken draw table tokenHash).1 =
      (Registry.openLink (links table) draw.dbNow tokenHash).map Link.owner := by
  simp only [links, Db.consumeOneTimeToken, Registry.openLink]
  have hUnique (first second : OneTimeTokenRow) (h : Db.consumable draw tokenHash first = true)
      (h' : Db.consumable draw tokenHash second = true) : first.clash second = true := by
    simp only [Db.consumable, Bool.and_eq_true, beq_iff_eq] at h h'
    exact OneTimeTokenRow.keyed _ _ (h.1.1.trans h'.1.1.symm)
  cases hFind : table.find (Db.consumable draw tokenHash) with
  | none =>
      cases h : table.lookup OneTimeTokenRow.tokenHash tokenHash with
      | none => rfl
      | some row =>
          obtain ⟨hMem, hHash⟩ := Table.mem_of_find h
          have hShut := List.find?_eq_none.mp hFind row hMem
          simp only [Db.consumable, hHash, Bool.true_and] at hShut
          simp [Option.filter, Link.open, Link.ofRow, hShut]
  | some row =>
      obtain ⟨hMem, hOpen⟩ := Table.mem_of_find hFind
      simp only [Db.consumable, Bool.and_eq_true, beq_iff_eq] at hOpen
      have hLookup := (Table.lookup_eq_some OneTimeTokenRow.clash_comm OneTimeTokenRow.keyed).mpr
        ⟨hMem, hOpen.1.1⟩
      simp only [hLookup, Option.map_some, Option.filter, Link.open, Link.ofRow, hOpen.1.2,
        hOpen.2]
      rfl

theorem links_store [External] {draw : Draw} {db : Db} {name : String}
    {table table' : Table OneTimeTokenRow.clash} {userId : Uuid} {tokenHash : String}
    {expiresAt : OffsetDateTime}
    (h : Db.storeOneTimeToken draw db name table userId tokenHash expiresAt = (.ok (), table')) :
    ((links table tokenHash).isNone = true → db.hasUser userId = true) ∧
      links table' = Registry.storeLink (links table) tokenHash
        { id := draw.uuid, owner := userId, expiresAt, usedAt := none,
          createdAt := draw.dbNow } := by
  have taken : (links table tokenHash).isSome =
      table.rows.any fun row => row.tokenHash == tokenHash := by
    simp only [links, Table.lookup, Table.find, Option.isSome_map, List.isSome_find?]
  simp only [Db.storeOneTimeToken] at h
  split at h
  · next hTaken =>
      obtain ⟨-, rfl⟩ := Prod.mk.inj h
      rw [← taken] at hTaken
      refine ⟨fun hNone => ?_, ?_⟩
      · rw [Option.isNone_iff_eq_none.mp hNone] at hTaken
        cases hTaken
      · simp [Registry.storeLink, hTaken]
  · next hFree =>
      rw [← taken] at hFree
      split at h
      · cases h
      · next inserted =>
          split at h
          · next hUser =>
              obtain ⟨-, rfl⟩ := Prod.mk.inj h
              refine ⟨fun _ => hUser, ?_⟩
              rw [Registry.storeLink, if_neg hFree]
              funext other
              simp only [links, Table.lookup_insert OneTimeTokenRow.keyed inserted]
              by_cases hOther : other = tokenHash
              · subst hOther
                simp [Link.ofRow]
              · simp [Function.update_of_ne hOther, links]
          · cases h

/-! ### The whole database -/

section Database

variable [External] {draw : Draw} {db db' : Db}

def Db.registry (db : Db) : Registry where
  account userId := (db.user userId).map UserAccount.ofRow
  session tokenHash :=
    (db.refreshTokens.lookup RefreshTokenRow.tokenHash tokenHash).map UserSession.ofRow
  verification := links db.emailVerificationTokens
  reset := links db.passwordResetTokens
  identity key :=
    (db.oauthIdentities.lookup (fun row => (row.provider, row.subject)) key).map Identity.ofRow
  override key := (db.permissions.find? fun row => row.name == key.2).bind fun permission =>
    (db.userPermissions.lookup (fun row => (row.userId, row.permissionId))
      (key.1, permission.id)).map UserPermissionRow.granted

theorem migrated_registry : (migrated : Db).registry = Registry.empty := by
  simp only [Db.registry, Registry.empty, Registry.mk.injEq]
  refine ⟨rfl, rfl, rfl, rfl, rfl, funext fun key => ?_⟩
  cases (migrated : Db).permissions.find? fun row => row.name == key.2 <;> rfl

/-- The catalogues are those of the migration, and no reference dangles. -/
structure Db.Sound (db : Db) : Prop where
  roles : db.roles = (migrated : Db).roles
  permissions : db.permissions = (migrated : Db).permissions
  rolePermissions : db.rolePermissions = (migrated : Db).rolePermissions
  references : db.References
  granted : db.Granted

theorem migrated_sound : (migrated : Db).Sound :=
  ⟨rfl, rfl, rfl, migrated_references, migrated_granted⟩

theorem answer_sound (draw : Draw) (db : Db) (op : Op) (sound : db.Sound) :
    (answer draw db op).2.Sound where
  roles := (answer_later draw db op).roles.trans sound.roles
  permissions := (answer_later draw db op).permissions.trans sound.permissions
  rolePermissions := (answer_later draw db op).rolePermissions.trans sound.rolePermissions
  references := answer_references draw db op sound.references
  granted := answer_granted draw db op sound.granted

theorem registry_hasUser (db : Db) (userId : Uuid) :
    (db.registry.account userId).isSome = db.hasUser userId := by
  rw [hasUser_eq]
  exact Option.isSome_map

/-! ### Writes to accounts -/

theorem registry_updateUsers {userId : Uuid} {change : UserRow → UserRow}
    {keeps : Keeps UserRow.clash change} {change' : UserAccount → UserAccount}
    (hId : ∀ row, (change row).id = row.id)
    (hChange : ∀ row, UserAccount.ofRow (change row) = change' (.ofRow row)) :
    (db.updateUsers userId change keeps).registry = db.registry.changeAccount userId change' := by
  have hUser : (db.updateUsers userId change keeps).user =
      Function.update db.user userId ((db.user userId).map change) :=
    Table.lookup_update (fun row : UserRow => row.id) rfl hId fun row => beq_iff_eq
  refine congrArg (fun account => { db.registry with account }) (funext fun other => ?_)
  rw [hUser]
  by_cases h : other = userId
  · subst h
    rw [Function.update_self, Function.update_self, Option.map_map, Db.registry, Option.map_map]
    exact congrArg (Option.map · _) (funext hChange)
  · rw [Function.update_of_ne h, Function.update_of_ne h]
    rfl

theorem registry_insertUser {row : UserRow} {users : Table UserRow.clash}
    (inserted : db.users.insert row = some users) :
    ({ db with users } : Db).registry = { db.registry with
      account := Function.update db.registry.account row.id (some (.ofRow row)) } := by
  have hUser : ({ db with users } : Db).user = Function.update db.user row.id (some row) :=
    Table.lookup_insert UserRow.keyed inserted
  refine congrArg (fun account => { db.registry with account }) (funext fun other => ?_)
  rw [hUser]
  exact congrFun (Function.comp_update (Option.map UserAccount.ofRow) db.user row.id (some row)) other

/-! ### Writes to sessions -/

theorem registry_storeRefreshToken {row : RefreshTokenRow}
    {refreshTokens : Table RefreshTokenRow.clash}
    (inserted : db.refreshTokens.insert row = some refreshTokens) :
    ({ db with refreshTokens } : Db).registry = { db.registry with
      session := Function.update db.registry.session row.tokenHash (some (.ofRow row)) } := by
  refine congrArg (fun session => { db.registry with session }) (funext fun other => ?_)
  rw [Table.lookup_insert RefreshTokenRow.keyed inserted]
  exact congrFun (Function.comp_update (Option.map UserSession.ofRow) _ row.tokenHash (some row)) other

theorem registry_revokeRefreshToken (draw : Draw) (db : Db) (tokenHash : String) :
    (db.revokeRefreshToken draw tokenHash).registry = db.registry.revoke draw.dbNow tokenHash := by
  refine congrArg (fun session => { db.registry with session }) (funext fun other => ?_)
  rw [Table.lookup_update RefreshTokenRow.tokenHash (k := tokenHash) rfl
    (by intro row; rfl) fun row => beq_iff_eq]
  by_cases h : other = tokenHash
  · subst h
    rw [Function.update_self, Function.update_self, Option.map_map, Db.registry, Option.map_map]
    rfl
  · rw [Function.update_of_ne h, Function.update_of_ne h]
    rfl

theorem registry_revokeAllRefreshTokens (draw : Draw) (db : Db) (userId : Uuid) :
    (db.revokeAllRefreshTokens draw userId).registry =
      db.registry.revokeAll draw.dbNow userId := by
  refine congrArg (fun session => { db.registry with session }) (funext fun other => ?_)
  rw [Table.lookup_change RefreshTokenRow.tokenHash rfl (by intro row; rfl)]
  simp only [Db.registry, Option.map_map]
  refine congrArg (Option.map · _) (funext fun row => ?_)
  have hRow : (row.userId == userId && row.revokedAt.isNone) = true ↔
      row.userId = userId ∧ row.revokedAt = none := by simp
  by_cases h : row.userId = userId ∧ row.revokedAt = none
  · exact (congrArg UserSession.ofRow (if_pos (hRow.mpr h))).trans (if_pos h).symm
  · exact (congrArg UserSession.ofRow (if_neg (mt hRow.mp h))).trans (if_neg h).symm

/-! ### Writes to identities -/

theorem registry_upsertNew {row : OAuthIdentityRow}
    {oauthIdentities : Table OAuthIdentityRow.clash}
    (inserted : db.oauthIdentities.insert row = some oauthIdentities) :
    ({ db with oauthIdentities } : Db).registry = { db.registry with
      identity := Function.update db.registry.identity (row.provider, row.subject)
        (some (.ofRow row)) } := by
  refine congrArg (fun identity => { db.registry with identity }) (funext fun other => ?_)
  rw [Table.lookup_insert OAuthIdentityRow.keyed inserted]
  exact congrFun (Function.comp_update (Option.map Identity.ofRow) _ _ (some row)) other

theorem registry_reprofile (db : Db) (provider subject : String) (email : Option String)
    (rawProfile : GoogleProfile) :
    ({ db with oauthIdentities := db.reprofile provider subject email rawProfile } : Db).registry =
      { db.registry with
        identity := Function.update db.registry.identity (provider, subject)
          ((db.registry.identity (provider, subject)).map fun identity =>
            { identity with email, rawProfile }) } := by
  refine congrArg (fun identity => { db.registry with identity }) (funext fun other => ?_)
  rw [Table.lookup_update (fun row : OAuthIdentityRow => (row.provider, row.subject))
    (k := (provider, subject)) rfl (by intro row; rfl) (by simp)]
  by_cases h : other = (provider, subject)
  · subst h
    rw [Function.update_self, Function.update_self, Option.map_map, Db.registry, Option.map_map]
    rfl
  · rw [Function.update_of_ne h, Function.update_of_ne h]
    rfl

/-! ### Permissions -/

/-- Each role that a row may refer to has a number. -/
theorem Db.Sound.role (sound : db.Sound) {roleId : Nat}
    (h : (db.roles.any fun role => role.id == roleId) = true) :
    ∃ role, Registry.number role = roleId := by
  simp only [sound.roles, migrated, List.any_cons, List.any_nil, Bool.or_eq_true,
    beq_iff_eq] at h
  rcases h with h | h | h | h
  · exact ⟨.admin, h⟩
  · exact ⟨.moderator, h⟩
  · exact ⟨.user, h⟩
  · cases h

theorem Db.Sound.role_exists (sound : db.Sound) (role : Role) :
    (db.roles.any fun stored => stored.id == Registry.number role) = true := by
  rw [sound.roles]
  cases role <;> rfl

/-- The permission of a known name, which is the only one with its number. -/
theorem Db.Sound.permission_of_known (sound : db.Sound) {name : String}
    (h : name ∈ Registry.catalogue) :
    ∃ permission ∈ db.permissions, permission.name = name ∧
      (db.permissions.find? fun row => row.name == name) = some permission := by
  rw [sound.permissions]
  simp only [Registry.catalogue, List.mem_cons, List.not_mem_nil, or_false] at h
  rcases h with rfl | rfl | rfl
  · exact ⟨⟨1, "users.read"⟩, by simp [migrated], rfl, rfl⟩
  · exact ⟨⟨2, "users.manage"⟩, by simp [migrated], rfl, rfl⟩
  · exact ⟨⟨3, "users.assign_roles"⟩, by simp [migrated], rfl, rfl⟩

theorem Db.Sound.known_of_permission (sound : db.Sound) {permission : PermissionRow}
    (h : permission ∈ db.permissions) : permission.name ∈ Registry.catalogue := by
  rw [sound.permissions] at h
  simp only [migrated, List.mem_cons, List.not_mem_nil, or_false] at h
  rcases h with rfl | rfl | rfl <;> decide

theorem Db.Sound.catalogued (sound : db.Sound) : db.Catalogued := by
  rw [Db.Catalogued, sound.permissions]
  exact migrated_catalogued

theorem mem_permissionNames_known (sound : db.Sound) {permissionId : Nat} {name : String}
    (h : name ∈ db.permissionNames permissionId) : name ∈ Registry.catalogue := by
  obtain ⟨permission, hMem, rfl⟩ := List.mem_map.mp h
  exact sound.known_of_permission (List.mem_filter.mp hMem).1

/-- The override of a known permission is the row of its number. -/
theorem mem_overrides (sound : db.Sound) {userId : Uuid} {name : String} {granted : Bool} :
    name ∈ db.overrides userId granted ↔
      db.registry.override (userId, name) = some granted := by
  constructor
  · intro h
    obtain ⟨row, hRow, hName⟩ := List.mem_flatMap.mp h
    obtain ⟨hMem, hSelected⟩ := List.mem_filter.mp hRow
    simp only [Bool.and_eq_true, beq_iff_eq] at hSelected
    obtain ⟨permission, hPermission, rfl, hFind⟩ :=
      sound.permission_of_known (mem_permissionNames_known sound hName)
    have hId := (sound.catalogued.mem_permissionNames hPermission).mp hName
    have hLookup : db.userPermissions.lookup (fun row => (row.userId, row.permissionId))
        (userId, permission.id) = some row := by
      apply (Table.lookup_eq_some UserPermissionRow.clash_comm UserPermissionRow.keyed).mpr
      exact ⟨hMem, by rw [hSelected.1, hId]⟩
    simp [Db.registry, hFind, hLookup, hSelected.2]
  · intro h
    obtain ⟨permission, hFind, hLookup⟩ := Option.bind_eq_some_iff.mp h
    obtain ⟨row, hRow, rfl⟩ := Option.map_eq_some_iff.mp hLookup
    obtain ⟨hMem, hKey⟩ :=
      (Table.lookup_eq_some UserPermissionRow.clash_comm UserPermissionRow.keyed).mp hRow
    obtain ⟨hUser, hId⟩ := Prod.mk.inj hKey
    have hName := List.find?_some hFind
    simp only [beq_iff_eq] at hName
    refine List.mem_flatMap.mpr ⟨row, List.mem_filter.mpr ⟨hMem, by simp [hUser]⟩, ?_⟩
    rw [← hName, sound.catalogued.mem_permissionNames (List.mem_of_find?_eq_some hFind)]
    exact hId

theorem mem_rolePermissionNames (sound : db.Sound) {row : UserRow} (hMem : row ∈ db.users.rows)
    {name : String} : name ∈ db.rolePermissionNames row.roleId ↔
      Registry.grants (Registry.roleOf row.roleId) name = true := by
  obtain ⟨role, hNumber⟩ := sound.role (sound.references.roles row hMem)
  simp only [Db.rolePermissionNames, Db.permissionNames, sound.rolePermissions, sound.permissions,
    migrated, ← hNumber, Registry.roleOf_number]
  cases role <;>
    simp [Registry.number, Registry.grants, Registry.catalogue, Permission.asStr]

/-- The query over roles and overrides computes the permissions of the registry. -/
theorem mem_permissionsFor_iff (sound : db.Sound) {userId : Uuid} {name : String} :
    name ∈ db.permissionsFor userId ↔ db.registry.permits userId name = true := by
  have hRole : name ∈ db.rolePerms userId ↔
      ((db.registry.account userId).any fun account =>
        Registry.grants account.role name) = true := by
    cases h : db.user userId with
    | none => simp [rolePerms_of_none h, Db.registry, h]
    | some row =>
        rw [rolePerms_of_user h, mem_rolePermissionNames sound (user_eq_some.mp h).1]
        simp [Db.registry, h, UserAccount.ofRow]
  rw [mem_permissionsFor, mem_overrides sound, mem_overrides sound, hRole, Registry.permits]
  cases db.registry.override (userId, name) with
  | none => simp
  | some granted => cases granted <;> simp

theorem registry_setOverride {permission : PermissionRow} {userId : Uuid} {granted : Bool}
    {userPermissions : Table UserPermissionRow.clash} (catalogued : db.Catalogued)
    (hMem : permission ∈ db.permissions)
    (hLookup : userPermissions.lookup (fun row => (row.userId, row.permissionId)) =
      Function.update (db.userPermissions.lookup fun row => (row.userId, row.permissionId))
        (userId, permission.id) (some { userId, permissionId := permission.id, granted })) :
    ({ db with userPermissions } : Db).registry = { db.registry with
      override := Function.update db.registry.override (userId, permission.name)
        (some granted) } := by
  refine congrArg (fun override => { db.registry with override }) (funext fun key => ?_)
  rw [hLookup]
  by_cases h : key = (userId, permission.name)
  · subst h
    simp [(catalogued permission hMem).1]
  · rw [Function.update_of_ne h]
    cases hFind : db.permissions.find? fun row => row.name == key.2 with
    | none => simp [Db.registry, hFind]
    | some found =>
        have hName := List.find?_some hFind
        simp only [beq_iff_eq] at hName
        have hKey : (key.1, found.id) ≠ (userId, permission.id) := by
          intro hSame
          obtain ⟨hUser, hId⟩ := Prod.mk.inj hSame
          have hFound := (catalogued permission hMem).2 found (List.mem_of_find?_eq_some hFind) hId
          exact h (Prod.ext hUser (by rw [← hName, hFound]))
        simp [Db.registry, hFind, Function.update_of_ne hKey]

end Database

end GenericAuth
