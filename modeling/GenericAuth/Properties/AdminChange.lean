import GenericAuth.Api.Admin
import GenericAuth.Api.Run
import GenericAuth.Auth.Reference
import GenericAuth.Db.Permissions

/-! Whether a change that an administrator was told to be done is done. No handler
looks at the number of rows that its statement has reached. -/
namespace GenericAuth

open Interaction Relational

section Changes

variable [External] {state : AppState} {authorization : Option String} {draws : Stream' Draw}
    {db : Db} {id sub : Uuid}

/-- Success means that the change is stored, anything else is the client's fault
and changes nothing. -/
def Honest (state : AppState) (db : Db) (request : Request) (draws : Stream' Draw)
    (stored : Db → Prop) : Prop :=
  match outcomeOf (handle state request) draws db with
  | .ok _ => stored (storeAfter (handle state request) draws db)
  | .error (.err e) => 400 ≤ e.intoResponse.status ∧ e.intoResponse.status < 500 ∧
      storeAfter (handle state request) draws db = db
  | .error (.panic _) => False

/-! ### Columns of a user -/

/-- An update of a user is seen exactly if there is such a user. -/
theorem updateUsers_stored {change : UserRow → UserRow} {keeps : Keeps UserRow.clash change}
    (test : UserRow → Prop) (hId : ∀ row, (change row).id = row.id) (hTest : ∀ row, test (change row)) :
    (∃ row ∈ (db.updateUsers id change keeps).users.rows, row.id = id ∧ test row) ↔
      db.hasUser id = true := by
  rw [hasUser_iff]
  constructor
  · rintro ⟨row, hMem, hRow, _⟩
    obtain ⟨old, hOld, rfl⟩ := (Table.mem_update keeps).mp hMem
    refine ⟨old, hOld, ?_⟩
    split at hRow
    · next h => exact beq_iff_eq.mp h
    · exact hRow
  · rintro ⟨old, hOld, rfl⟩
    refine ⟨change old, (Table.mem_update keeps).mpr ⟨old, hOld, ?_⟩, hId old, hTest old⟩
    simp

/-! ### The requests of an entitled caller -/

theorem setRole_done (id : Uuid) {body : SetRoleReq} {roleId : Nat}
    (hFaults : ∀ n, (draws.get n).fault = none)
    (refs : db.References)
    (entitled : Entitled state db authorization .usersAssignRoles (draws.get 0).now sub)
    (hRole : db.roleIdFor body.role.asStr = some roleId) :
    outcomeOf (handle state (.setRole authorization id body)) draws db = .ok .empty ∧
    storeAfter (handle state (.setRole authorization id body)) draws db =
      db.updateUsers id (fun row => { row with roleId, updatedAt := (draws.get 4).dbNow })
        fun _ _ => ⟨rfl, rfl⟩ := by
  have known : (db.roles.any fun role => role.id == roleId) = true := by
    obtain ⟨role, hFind, rfl⟩ := Option.map_eq_some_iff.mp hRole
    exact List.any_eq_true.mpr ⟨role, List.mem_of_find?_eq_some hFind, beq_self_eq_true _⟩
  have hUpdate : db.updateRole (draws.get 4) roleId id =
      (.ok (), db.updateUsers id (fun row => { row with roleId, updatedAt := (draws.get 4).dbNow })
        fun _ _ => ⟨rfl, rfl⟩) := by
    simp [Db.updateRole, known]
  rw [outcomeOf, storeAfter, entitled.exec rfl hFaults refs]
  simp [adminWork, answer_sql, hFaults, Db.exec, hRole, hUpdate]

theorem setActive_done (id : Uuid) (body : SetActiveReq)
    (hFaults : ∀ n, (draws.get n).fault = none)
    (refs : db.References)
    (entitled : Entitled state db authorization .usersManage (draws.get 0).now sub) :
    outcomeOf (handle state (.setActive authorization id body)) draws db = .ok .empty ∧
    storeAfter (handle state (.setActive authorization id body)) draws db =
      db.updateActive (draws.get 3) body.active id := by
  rw [outcomeOf, storeAfter, entitled.exec rfl hFaults refs]
  simp [adminWork, answer_sql, hFaults, Db.exec]

/-- The statement's error is the handler's. -/
theorem grantPermission_done (id : Uuid) (body : GrantPermReq)
    (hFaults : ∀ n, (draws.get n).fault = none)
    (refs : db.References)
    (entitled : Entitled state db authorization .usersAssignRoles (draws.get 0).now sub) :
    outcomeOf (handle state (.grantPermission authorization id body)) draws db =
      ((db.grantPermission id body.permission body.granted).1.map fun _ => Payload.empty).mapError
        (fun e => .err (.database e.display)) ∧
    storeAfter (handle state (.grantPermission authorization id body)) draws db =
      (db.grantPermission id body.permission body.granted).2 := by
  rw [outcomeOf, storeAfter, entitled.exec rfl hFaults refs]
  rcases hGrant : db.grantPermission id body.permission body.granted with ⟨error | rows, after⟩ <;>
    simp [adminWork, query, answer_sql, hFaults, Db.exec, hGrant]

/-- The permission is stored for the user as asked. -/
def Db.Grants (db : Db) (id : Uuid) (body : GrantPermReq) : Prop :=
  ∃ permission ∈ db.permissions, permission.name = body.permission ∧
    ⟨id, permission.id, body.granted⟩ ∈ db.userPermissions.rows

theorem grantPermission_none (id : Uuid) {body : GrantPermReq}
    (unknown : ∀ permission ∈ db.permissions, permission.name ≠ body.permission) :
    db.grantPermission id body.permission body.granted = (.ok (), db) ∧ ¬db.Grants id body := by
  constructor
  · have hNone : (db.permissions.find? fun row => row.name == body.permission) = none := by
      simpa using unknown
    simp [Db.grantPermission, hNone]
  · rintro ⟨permission, hMem, hName, _⟩
    exact unknown permission hMem hName

/-- A known permission of an unknown user violates the foreign key. -/
theorem grantPermission_foreign {body : GrantPermReq} {selected : PermissionRow}
    (granted : db.Granted) (hUser : db.hasUser id = false)
    (hSelected : (db.permissions.find? fun row => row.name == body.permission) = some selected) :
    db.grantPermission id body.permission body.granted =
      (.error (foreignKey "user_permissions" "user_permissions_user_id_fkey"), db) := by
  simp only [Db.grantPermission, hSelected]
  split
  · next refused =>
      obtain ⟨stored, hStored, hClash⟩ := Table.clash_of_refused refused
      have hOwner := granted stored hStored
      simp only [UserPermissionRow.clash, Bool.and_eq_true, beq_iff_eq] at hClash
      rw [hClash.1, hUser] at hOwner
      cases hOwner
  · simp [hUser]

theorem grantPermission_stored {body : GrantPermReq} {selected : PermissionRow}
    (hUser : db.hasUser id = true)
    (hSelected : (db.permissions.find? fun row => row.name == body.permission) = some selected) :
    ∃ after, db.grantPermission id body.permission body.granted = (.ok (), after) ∧
      after.Grants id body := by
  have done : ∃ userPermissions, db.grantPermission id body.permission body.granted =
      (.ok (), { db with userPermissions }) := by
    simp only [Db.grantPermission, hSelected]
    split
    · exact ⟨_, rfl⟩
    · exact ⟨_, if_pos hUser⟩
  obtain ⟨userPermissions, hAfter⟩ := done
  have hName : selected.name = body.permission := by simpa using List.find?_some hSelected
  exact ⟨_, hAfter, selected, List.mem_of_find?_eq_some hSelected, hName,
    (grantPermission_db hAfter hSelected _).mpr (.inl rfl)⟩

/-- For an entitled caller and a reachable store, when no statement fails: setting a
role or an activation is honest exactly for a stored user, and granting a permission
exactly for a stored user and a known permission. -/
theorem change_stored_iff {pool : ServerPool} (run : ServerRun state migrated pool)
    (hFaults : ∀ n, (draws.get n).fault = none) (authorization : Option String) (id sub : Uuid) :
    (∀ body, Entitled state pool.store authorization .usersAssignRoles (draws.get 0).now sub →
      (Honest state pool.store (.setRole authorization id body) draws (fun after =>
          ∃ row ∈ after.users.rows, row.id = id ∧ after.roleIdFor body.role.asStr = some row.roleId) ↔
        pool.store.hasUser id = true)) ∧
    (∀ body, Entitled state pool.store authorization .usersManage (draws.get 0).now sub →
      (Honest state pool.store (.setActive authorization id body) draws (fun after =>
          ∃ row ∈ after.users.rows, row.id = id ∧ row.isActive = body.active) ↔
        pool.store.hasUser id = true)) ∧
    ∀ body, Entitled state pool.store authorization .usersAssignRoles (draws.get 0).now sub →
      (Honest state pool.store (.grantPermission authorization id body) draws
          (fun after => after.Grants id body) ↔
        pool.store.hasUser id = true ∧
          ∃ permission ∈ pool.store.permissions, permission.name = body.permission) := by
  have refs := run.references
  refine ⟨?_, ?_, ?_⟩
  · intro body entitled
    obtain ⟨roleId, hRole⟩ := run.roleIdFor_some body.role
    obtain ⟨hOutcome, hAfter⟩ := setRole_done id hFaults refs entitled hRole
    simp only [Honest, hOutcome, hAfter]
    exact updateUsers_stored (fun row => pool.store.roleIdFor body.role.asStr = some row.roleId)
      (fun _ => rfl) fun _ => hRole
  · intro body entitled
    obtain ⟨hOutcome, hAfter⟩ := setActive_done id body hFaults refs entitled
    simp only [Honest, hOutcome, hAfter]
    exact updateUsers_stored (fun row => row.isActive = body.active) (fun _ => rfl) fun _ => rfl
  · intro body entitled
    obtain ⟨hOutcome, hAfter⟩ := grantPermission_done id body hFaults refs entitled
    simp only [Honest, hOutcome, hAfter]
    cases hSelected : pool.store.permissions.find? fun row => row.name == body.permission with
    | none =>
        have unknown : ∀ permission ∈ pool.store.permissions, permission.name ≠ body.permission := by
          simpa using hSelected
        obtain ⟨hGrant, ungranted⟩ := grantPermission_none id unknown
        rw [hGrant]
        refine iff_of_false ungranted ?_
        rintro ⟨_, permission, hMem, hName⟩
        exact unknown permission hMem hName
    | some selected =>
        have hKnown : ∃ permission ∈ pool.store.permissions, permission.name = body.permission :=
          ⟨selected, List.mem_of_find?_eq_some hSelected, by simpa using List.find?_some hSelected⟩
        cases hUser : pool.store.hasUser id with
        | true =>
            obtain ⟨after, hGrant, grants⟩ := grantPermission_stored hUser hSelected
            rw [hGrant]
            exact iff_of_true grants ⟨rfl, hKnown⟩
        | false =>
            rw [grantPermission_foreign run.granted hUser hSelected]
            simp [AppError.intoResponse]

end Changes

/-! ### Requests of the reference instance -/

section Runs

attribute [local instance] reference

theorem staffed_entitled {p : Permission} (h : p.asStr ∈ staffed.store.permissionsFor firstAdmin) :
    Entitled exampleState staffed.store (some (headerFor firstAdmin .admin 41)) p (moment 60).now
      firstAdmin := by
  have accepted : acceptedAt (headerFor firstAdmin .admin 41) (moment 60).now = some firstAdmin := by
    decide +kernel
  exact ⟨presents_of_acceptedAt accepted, by decide +kernel, h⟩

/-- Nobody gets a role, and a permission that does not exist is granted; both are
reported as done. -/
theorem change_not_stored : ∃ (pool : ServerPool) (authorization : Option String)
      (draws : Stream' Draw) (sub id : Uuid) (role : SetRoleReq) (permission : GrantPermReq),
    ServerRun exampleState migrated pool ∧ (∀ n, (draws.get n).fault = none) ∧
    Entitled exampleState pool.store authorization .usersAssignRoles (draws.get 0).now sub ∧
    outcomeOf (handle exampleState (.setRole authorization id role)) draws pool.store = .ok .empty ∧
    (storeAfter (handle exampleState (.setRole authorization id role)) draws pool.store).hasUser id =
      false ∧
    outcomeOf (handle exampleState (.grantPermission authorization sub permission)) draws
      pool.store = .ok .empty ∧
    (storeAfter (handle exampleState (.grantPermission authorization sub permission)) draws
      pool.store).userPermissions.rows = [] :=
  ⟨staffed, some (headerFor firstAdmin .admin 41), moments 60, firstAdmin, 99, ⟨.moderator⟩,
    ⟨"users.delete", true⟩, staffed_run, fun _ => rfl, staffed_entitled (by decide +kernel),
    by decide +kernel, by decide +kernel, by decide +kernel, by decide +kernel⟩

/-- A change of a stored user is stored. -/
theorem change_stored_staffed :
    Honest exampleState staffed.store
      (.setActive (some (headerFor firstAdmin .admin 41)) firstAdmin ⟨false⟩) (moments 60)
      fun after => ∃ row ∈ after.users.rows, row.id = firstAdmin ∧ row.isActive = false := by
  have entitled : Entitled exampleState staffed.store (some (headerFor firstAdmin .admin 41))
      .usersManage ((moments 60).get 0).now firstAdmin := staffed_entitled (by decide +kernel)
  have hUser : staffed.store.hasUser firstAdmin = true := by decide +kernel
  have noFaults : ∀ n, ((moments 60).get n).fault = none := fun _ => rfl
  obtain ⟨_, active, _⟩ := change_stored_iff staffed_run noFaults
    (some (headerFor firstAdmin .admin 41)) firstAdmin firstAdmin
  exact (active ⟨false⟩ entitled).mpr hUser

end Runs

end GenericAuth
