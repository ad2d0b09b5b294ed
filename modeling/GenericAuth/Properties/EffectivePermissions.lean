import GenericAuth.Api.Accounts
import GenericAuth.Api.Admin
import GenericAuth.Auth.Reference
import GenericAuth.Interaction.Serial

/-! Effective permissions as a fold over the history: the last explicit setting
of a permission for a user counts, and where there is none the role that the user
was given last. -/
namespace GenericAuth

open Interaction Relational

section Effective

variable [External] {state : AppState} {request : Request} {draws : Stream' Draw} {db : Db}
    {u : Uuid} {name : String}

/-! ### What a request sets -/

/-- The request has succeeded. -/
def succeeds (state : AppState) (db : Db) (request : Request) (draws : Stream' Draw) : Bool :=
  (outcomeOf (handle state request) draws db).toOption.isSome

/-- How a request sets this permission for this user. -/
def grantOf (state : AppState) (u : Uuid) (name : String) (db : Db) (request : Request)
    (draws : Stream' Draw) : Option Bool :=
  match request with
  | .grantPermission _ id body =>
      if id = u ∧ body.permission = name ∧ succeeds state db request draws then some body.granted
      else none
  | _ => none

/-- The role that a request gives this user, as its creator or later. -/
def roleGiven (state : AppState) (u : Uuid) (db : Db) (request : Request) (draws : Stream' Draw) :
    Option Role :=
  match request with
  | .setRole _ id body =>
      if id = u ∧ succeeds state db request draws then some body.role else none
  | request =>
      if !db.hasUser u && (storeAfter (handle state request) draws db).hasUser u then
        (creation request).map Prod.fst
      else none

theorem succeeds_of_ok {payload : Payload}
    (h : outcomeOf (handle state request) draws db = .ok payload) :
    succeeds state db request draws = true := by
  rw [succeeds, h]
  rfl

theorem not_succeeds_of_error {stop : Stop}
    (h : outcomeOf (handle state request) draws db = .error stop) :
    succeeds state db request draws = false := by
  rw [succeeds, h]
  rfl

/-! ### Explicit settings -/

/-- The stored settings of one permission are what was granted last. -/
def GrantAgrees (u : Uuid) (permission : PermissionRow) (db : Db) (given : Option Bool) : Prop :=
  permission ∈ db.permissions ∧ db.Catalogued ∧ ∀ granted,
    given = some granted ↔ ⟨u, permission.id, granted⟩ ∈ db.userPermissions.rows

theorem GrantAgrees.of_same {permission : PermissionRow} {given : Option Bool} {db' : Db}
    (agrees : GrantAgrees u permission db given) (later : db.Later db')
    (same : db'.userPermissions = db.userPermissions) : GrantAgrees u permission db' given := by
  obtain ⟨hMem, catalogued, hGiven⟩ := agrees
  exact ⟨later.permissions ▸ hMem, catalogued.later later, fun granted => by rw [same, hGiven]⟩

/-- A request that was carried out, on a permission of the table. -/
theorem GrantAgrees.grant {permission selected : PermissionRow} {given : Option Bool} {id : Uuid}
    {granted : Bool} {draw : Draw} {db' : Db} (agrees : GrantAgrees u permission db given)
    (hSelected : selected ∈ db.permissions)
    (h : answer draw db (.sql (.grantPermission id selected.name granted)) = (.ok (), db')) :
    GrantAgrees u permission db'
      ((if id = u ∧ selected.name = permission.name then some granted else none).or given) := by
  obtain ⟨hMem, catalogued, hGiven⟩ := agrees
  have later := Db.Later.of_answer h
  refine ⟨later.permissions ▸ hMem, catalogued.later later, fun value => ?_⟩
  rw [grantPermission_reply h (catalogued selected hSelected).1]
  by_cases hKey : id = u ∧ selected.name = permission.name
  · obtain ⟨rfl, hName⟩ := hKey
    have hSame : selected = permission := by
      have hFind := (catalogued selected hSelected).1
      rw [hName, (catalogued permission hMem).1] at hFind
      exact (Option.some.inj hFind).symm
    simp [hSame, eq_comm]
  · have hOther : ¬(u = id ∧ permission.id = selected.id) := by
      rintro ⟨rfl, hId⟩
      exact hKey ⟨rfl, by rw [(catalogued selected hSelected).2 permission hMem hId]⟩
    have hNew : ¬(⟨u, permission.id, value⟩ : UserPermissionRow) = ⟨id, selected.id, granted⟩ := by
      intro h
      obtain ⟨hUser, hId, _⟩ := UserPermissionRow.mk.inj h
      exact hOther ⟨hUser, hId⟩
    simp [hKey, hOther, hNew, hGiven]

theorem grant_step {permission : PermissionRow} (given : Option Bool)
    (agrees : GrantAgrees u permission db given) :
    GrantAgrees u permission (storeAfter (handle state request) draws db)
      ((grantOf state u permission.name db request draws).or given) := by
  have later := later_alone state request draws db
  cases request with
  | grantPermission authorization id body =>
      cases hOutcome : outcomeOf (handle state (.grantPermission authorization id body)) draws db with
      | error stop =>
          rw [admin_error rfl hOutcome]
          simpa [grantOf, not_succeeds_of_error hOutcome] using agrees
      | ok payload =>
          obtain ⟨draw, hAnswer⟩ := storeAfter_of_single (admin_ok rfl hOutcome)
          by_cases hKnown : ∃ selected ∈ db.permissions, selected.name = body.permission
          · obtain ⟨selected, hSelected, hName⟩ := hKnown
            rw [← hName] at hAnswer
            simpa [grantOf, succeeds_of_ok hOutcome, ← hName] using agrees.grant hSelected hAnswer
          · have hUnknown := grantPermission_unknown draw db id body.permission
              body.granted fun row hMem hName => hKnown ⟨row, hMem, hName⟩
            rw [hAnswer] at hUnknown
            have hName : body.permission ≠ permission.name := fun hName =>
              hKnown ⟨permission, agrees.1, hName.symm⟩
            simpa [grantOf, hName, show storeAfter _ draws db = db from hUnknown] using agrees
  | _ => exact agrees.of_same later (userPermissions_alone (by simp))

/-! ### Roles -/

/-- The stored role is the one that was given last. -/
def RoleAgrees (u : Uuid) (db : Db) (given : Option Role) : Prop :=
  ∀ row, db.user u = some row → ∃ role, given = some role ∧
    db.roleIdFor role.asStr = some row.roleId

/-- Other requests give a role only to a user that they create. -/
theorem roleGiven_other (h : ∀ authorization body, request ≠ .setRole authorization u body) :
    roleGiven state u db request draws =
      if !db.hasUser u && (storeAfter (handle state request) draws db).hasUser u then
        (creation request).map Prod.fst
      else none := by
  cases request with
  | setRole authorization id body =>
      have hId : id ≠ u := fun hId => h authorization body (by rw [hId])
      simp [roleGiven, hId, creation]
  | _ => rfl

/-- A role that was set. -/
theorem RoleAgrees.set {authorization : Option String} {body : SetRoleReq} {given : Option Role}
    (agrees : RoleAgrees u db given) :
    RoleAgrees u (storeAfter (handle state (.setRole authorization u body)) draws db)
      ((roleGiven state u db (.setRole authorization u body) draws).or given) := by
  cases hOutcome : outcomeOf (handle state (.setRole authorization u body)) draws db with
  | error stop =>
      rw [admin_error rfl hOutcome]
      simpa [roleGiven, not_succeeds_of_error hOutcome] using agrees
  | ok payload =>
      intro row hRow
      refine ⟨body.role, by simp [roleGiven, succeeds_of_ok hOutcome], ?_⟩
      rw [(later_alone state _ draws db).roleIdFor]
      exact setRole_after hOutcome hRow

theorem role_step (given : Option Role) (agrees : RoleAgrees u db given) :
    RoleAgrees u (storeAfter (handle state request) draws db)
      ((roleGiven state u db request draws).or given) := by
  by_cases hSet : ∃ authorization body, request = .setRole authorization u body
  · obtain ⟨authorization, body, rfl⟩ := hSet
    exact agrees.set
  have hOther (authorization : Option String) (body : SetRoleReq) :
      request ≠ .setRole authorization u body := fun h => hSet ⟨authorization, body, h⟩
  rw [roleGiven_other hOther]
  intro row hRow
  obtain ⟨hMem, rfl⟩ := user_eq_some.mp hRow
  rw [(later_alone state request draws db).roleIdFor]
  cases hOld : db.user row.id with
  | some old =>
      obtain ⟨role, hGiven, hRole⟩ := agrees old hOld
      obtain ⟨hOldMem, hId⟩ := user_eq_some.mp hOld
      refine ⟨role, by simp [hasUser_eq, hOld, hGiven], ?_⟩
      rw [hRole, roleId_alone hOldMem hMem hId.symm (by rwa [hId])]
  | none =>
      have new : db.hasUser row.id = false := by rw [hasUser_eq, hOld]; rfl
      obtain ⟨role, plain, hCreation, hRole, _⟩ := created_alone row hMem new
      refine ⟨role, ?_, hRole⟩
      simp [new, hasUser_iff.mpr ⟨row, hMem, rfl⟩, hCreation]

theorem migrated_user (u : Uuid) : (migrated : Db).user u = none := rfl

/-- The stored role is the one that was assigned last. -/
theorem role_follows_history (state : AppState) (history : List (Request × Stream' Draw)) (u : Uuid) :
    RoleAgrees u (serially answer (handle state) history migrated)
      (latest answer (handle state) (roleGiven state u) history migrated) := by
  apply agrees_latest (RoleAgrees u)
  · intro row hRow
    rw [migrated_user] at hRow
    cases hRow
  · intro db request draws given agrees
    exact role_step given agrees

/-! ### Effective permissions -/

/-- The migration's table gives the permission to the role. -/
def Db.RoleGives (db : Db) (role : Role) (permission : PermissionRow) : Prop :=
  ∃ roleId, db.roleIdFor role.asStr = some roleId ∧ ⟨roleId, permission.id⟩ ∈ db.rolePermissions

theorem Db.Catalogued.mem_rolePermissionNames (catalogued : db.Catalogued)
    {permission : PermissionRow} (hMem : permission ∈ db.permissions) {roleId : Nat} :
    permission.name ∈ db.rolePermissionNames roleId ↔ ⟨roleId, permission.id⟩ ∈ db.rolePermissions := by
  simp only [Db.rolePermissionNames, List.mem_flatMap, List.mem_filter, beq_iff_eq,
    catalogued.mem_permissionNames hMem]
  constructor
  · rintro ⟨⟨_, _⟩, ⟨hEntry, rfl⟩, rfl⟩
    exact hEntry
  · intro hEntry
    exact ⟨_, ⟨hEntry, rfl⟩, rfl⟩

/-- The explicit settings of a permission, as the query collects them. -/
theorem GrantAgrees.mem_overrides {permission : PermissionRow} {given : Option Bool}
    (agrees : GrantAgrees u permission db given) (granted : Bool) :
    permission.name ∈ db.overrides u granted ↔ given = some granted := by
  obtain ⟨hMem, catalogued, hGiven⟩ := agrees
  simp only [hGiven, Db.overrides, List.mem_flatMap, List.mem_filter, Bool.and_eq_true, beq_iff_eq,
    catalogued.mem_permissionNames hMem]
  constructor
  · rintro ⟨⟨_, _, _⟩, ⟨hRow, rfl, rfl⟩, rfl⟩
    exact hRow
  · intro hRow
    exact ⟨_, ⟨hRow, rfl, rfl⟩, rfl⟩

/-- A store that agrees with what was granted and assigned last. -/
theorem GrantAgrees.mem_permissionsFor {permission : PermissionRow} {given : Option Bool}
    {role : Option Role} (agrees : GrantAgrees u permission db given) (agrees' : RoleAgrees u db role)
    (hUser : db.hasUser u = true) :
    permission.name ∈ db.permissionsFor u ↔
      given = some true ∨ given = none ∧ ∃ last, role = some last ∧ db.RoleGives last permission := by
  rw [hasUser_eq] at hUser
  obtain ⟨row, hRow⟩ := Option.isSome_iff_exists.mp hUser
  obtain ⟨last, rfl, hRole⟩ := agrees' row hRow
  have hGives : db.RoleGives last permission ↔ permission.name ∈ db.rolePerms u := by
    rw [rolePerms_of_user hRow, agrees.2.1.mem_rolePermissionNames agrees.1]
    constructor
    · rintro ⟨roleId, hRoleId, hEntry⟩
      rw [hRole] at hRoleId
      rwa [Option.some.inj hRoleId]
    · exact fun hEntry => ⟨row.roleId, hRole, hEntry⟩
  rw [GenericAuth.mem_permissionsFor, agrees.mem_overrides, agrees.mem_overrides]
  cases given with
  | none => simp [hGives]
  | some granted => cases granted <;> simp

/-- After any history a user has each permission at most once, and has it exactly
if it was granted last, or was neither granted nor revoked and belongs to the role
that was assigned last. -/
theorem permissions_follow_history (state : AppState) (history : List (Request × Stream' Draw))
    (hUser : (serially answer (handle state) history migrated).hasUser u = true)
    (permission : PermissionRow)
    (hMem : permission ∈ (serially answer (handle state) history migrated).permissions) :
    let db := serially answer (handle state) history migrated
    let granted := latest answer (handle state) (grantOf state u permission.name) history migrated
    let role := latest answer (handle state) (roleGiven state u) history migrated
    (db.permissionsFor u).count permission.name ≤ 1 ∧
    (permission.name ∈ db.permissionsFor u ↔ granted = some true ∨
      granted = none ∧ ∃ last, role = some last ∧ db.RoleGives last permission) ∧
    ∀ authorization id (body : GrantPermReq) draws,
      (∀ row ∈ db.permissions, row.name ≠ body.permission) →
      storeAfter (handle state (.grantPermission authorization id body)) draws db = db := by
  intro db granted role
  have later : migrated.Later db := later_serially state history migrated
  have hPermissions : db.permissions = migrated.permissions := later.permissions
  have agrees : GrantAgrees u permission db granted := by
    apply agrees_latest (GrantAgrees u permission)
    · exact ⟨hPermissions ▸ hMem, migrated_catalogued, fun granted => by simp [migrated, Table.empty]⟩
    · intro db request draws given agrees
      exact grant_step given agrees
  refine ⟨List.nodup_iff_count_le_one.mp (permissionsFor_nodup db u) _,
    agrees.mem_permissionsFor (role_follows_history state history u) hUser, ?_⟩
  intro authorization id body draws hUnknown
  cases hOutcome : outcomeOf (handle state (.grantPermission authorization id body)) draws db with
  | error stop => exact admin_error rfl hOutcome
  | ok payload =>
      obtain ⟨draw, hAnswer⟩ := storeAfter_of_single (admin_ok rfl hOutcome)
      have same := grantPermission_unknown draw db id body.permission body.granted hUnknown
      rwa [hAnswer] at same

end Effective

/-! ### A run of the reference instance -/

section Runs

attribute [local instance] reference

/-- The header with the access token from the administrator's login. -/
def managerHeader : String := headerFor firstAdmin .admin 41

def managedUser : Uuid := (moment 22).uuid

/-- An administrator grants a permission to a new user, makes it a moderator, and
revokes the permission again. -/
def management : List (Request × Stream' Draw) :=
  [(.createAdmin ⟨"admin@example.org", "password"⟩, moments 0),
    (.register ⟨"user@example.org", "password", none⟩, moments 20),
    (.login ⟨"admin@example.org", "password"⟩, moments 40),
    (.grantPermission (some managerHeader) managedUser ⟨"users.read", true⟩, moments 60),
    (.setRole (some managerHeader) managedUser ⟨.moderator⟩, moments 80),
    (.grantPermission (some managerHeader) managedUser ⟨"users.read", false⟩, moments 100)]

def managed : Db := serially answer (handle exampleState) management migrated

/-- The revocation counts, although the role has the permission. -/
theorem permissions_follow_management :
    latest answer (handle exampleState) (roleGiven exampleState managedUser) management migrated =
      some .moderator ∧ managed.RoleGives .moderator ⟨1, "users.read"⟩ ∧
    ("users.read" ∈ managed.permissionsFor managedUser ↔
      latest answer (handle exampleState) (grantOf exampleState managedUser "users.read") management
          migrated = some true ∨
        latest answer (handle exampleState) (grantOf exampleState managedUser "users.read")
            management migrated = none ∧
          ∃ last, latest answer (handle exampleState) (roleGiven exampleState managedUser) management
            migrated = some last ∧ managed.RoleGives last ⟨1, "users.read"⟩) := by
  have hUser : managed.hasUser managedUser = true := by decide +kernel
  have hMem : ⟨1, "users.read"⟩ ∈ managed.permissions := by decide +kernel
  refine ⟨by decide +kernel, ⟨2, by decide +kernel, by decide +kernel⟩, ?_⟩
  exact (permissions_follow_history exampleState management hUser ⟨1, "users.read"⟩ hMem).2.1

end Runs

end GenericAuth
