import GenericAuth.Db.Rows

/-! The effective permissions of a user, read off the user's role and the user's
explicit permissions. -/
namespace GenericAuth

open Relational Interaction

variable [External] {draw : Draw} {db db' : Db} {op : Op} {reply : op.Reply} {u : Uuid}

/-- The names of the permissions of a role. -/
def Db.rolePermissionNames (db : Db) (roleId : Nat) : List String :=
  (db.rolePermissions.filter fun entry => entry.roleId == roleId).flatMap fun entry =>
    db.permissionNames entry.permissionId

/-- The explicit permissions of a user. -/
def Db.explicit (db : Db) (u : Uuid) : List UserPermissionRow :=
  db.userPermissions.rows.filter fun row => row.userId == u

theorem filter_user (db : Db) (u : Uuid) :
    (db.users.rows.filter fun row => row.id == u) = (db.user u).toList :=
  db.users.filter_eq_find fun first second h h' => by simp_all [UserRow.clash]

theorem rolePerms_of_user {row : UserRow} (h : db.user u = some row) :
    db.rolePerms u = db.rolePermissionNames row.roleId := by
  simp [Db.rolePerms, filter_user, h, Db.rolePermissionNames]

theorem rolePerms_of_none (h : db.user u = none) : db.rolePerms u = [] := by
  simp [Db.rolePerms, filter_user, h]

theorem overrides_eq (db : Db) (u : Uuid) (granted : Bool) :
    db.overrides u granted =
      ((db.explicit u).filter fun row => row.granted == granted).flatMap fun row =>
        db.permissionNames row.permissionId := by
  simp only [Db.overrides, Db.explicit, List.filter_filter, Bool.and_comm]

theorem permissionsFor_nodup (db : Db) (u : Uuid) : (db.permissionsFor u).Nodup :=
  (List.nodup_dedup _).filter _

theorem mem_permissionsFor {name : String} :
    name ∈ db.permissionsFor u ↔
      (name ∈ db.rolePerms u ∨ name ∈ db.overrides u true) ∧ name ∉ db.overrides u false := by
  simp [Db.permissionsFor]

/-- Permissions depend on the role and on the explicit permissions alone. -/
theorem permissionsFor_congr (hPermissions : db'.permissions = db.permissions)
    (hRoles : db'.rolePermissions = db.rolePermissions)
    (hUser : (db'.user u).map (fun row => row.roleId) = (db.user u).map fun row => row.roleId)
    (hExplicit : db'.explicit u = db.explicit u) : db'.permissionsFor u = db.permissionsFor u := by
  have hNames : db'.permissionNames = db.permissionNames := by
    funext permissionId
    simp only [Db.permissionNames, hPermissions]
  have hOverrides (granted : Bool) : db'.overrides u granted = db.overrides u granted := by
    simp only [overrides_eq, hExplicit, hNames]
  have hRole : db'.rolePerms u = db.rolePerms u := by
    cases h : db.user u with
    | none =>
        rw [h] at hUser
        rw [rolePerms_of_none h, rolePerms_of_none (Option.map_eq_none_iff.mp hUser)]
    | some row =>
        rw [h] at hUser
        obtain ⟨row', hRow', hSame⟩ := Option.map_eq_some_iff.mp hUser
        rw [rolePerms_of_user h, rolePerms_of_user hRow', hSame]
        simp only [Db.rolePermissionNames, hRoles, hNames]
  simp only [Db.permissionsFor, hRole, hOverrides]

/-! ### References of explicit permissions -/

/-- Explicit permissions belong to stored users. -/
def Db.Granted (db : Db) : Prop := ∀ row ∈ db.userPermissions.rows, db.hasUser row.userId = true

theorem migrated_granted : (migrated : Db).Granted := by
  intro row hMem
  cases hMem

theorem Effect.granted (effect : Effect draw db op reply db') (granted : db.Granted) :
    db'.Granted := by
  have later := effect.later
  intro row hMem
  have kept (hOld : row ∈ db.userPermissions.rows) : db'.hasUser row.userId = true :=
    later.hasUser (granted row hOld)
  cases effect with
  | grantNew hSelected inserted hUser =>
      rcases (Table.mem_insert inserted).mp hMem with hOld | rfl
      · exact kept hOld
      · exact later.hasUser hUser
  | grantAgain hSelected =>
      obtain ⟨old, hOld, rfl⟩ := List.mem_map.mp hMem
      split <;> exact granted old hOld
  | _ => exact kept hMem

theorem answer_granted (draw : Draw) (db : Db) (op : Op) (granted : db.Granted) :
    (answer draw db op).2.Granted :=
  (answer_effect draw db op).granted granted

theorem explicit_of_none (granted : db.Granted) (h : db.hasUser u = false) : db.explicit u = [] := by
  apply List.filter_eq_nil_iff.mpr
  intro row hMem hOwner
  rw [← beq_iff_eq.mp hOwner, granted row hMem] at h
  cases h

theorem user_eq_none (h : db.hasUser u = false) : db.user u = none := by
  rwa [hasUser_eq, Option.isSome_eq_false_iff, Option.isNone_iff_eq_none] at h

/-- Without a role that gives any, and without explicit ones, there are none. -/
theorem permissionsFor_eq_nil (hRole : db.rolePerms u = []) (hExplicit : db.explicit u = []) :
    db.permissionsFor u = [] := by
  simp [Db.permissionsFor, hRole, overrides_eq, hExplicit]

/-- Who is not a user has no permission. -/
theorem permissionsFor_of_none (granted : db.Granted) (h : db.hasUser u = false) :
    db.permissionsFor u = [] :=
  permissionsFor_eq_nil (rolePerms_of_none (user_eq_none h)) (explicit_of_none granted h)

/-! ### Granting a permission -/

/-- Names and ids of the permissions determine each other. -/
def Db.Catalogued (db : Db) : Prop :=
  ∀ permission ∈ db.permissions,
    (db.permissions.find? fun row => row.name == permission.name) = some permission ∧
      ∀ other ∈ db.permissions, other.id = permission.id → other = permission

theorem migrated_catalogued : (migrated : Db).Catalogued := by
  simp [Db.Catalogued, migrated]

theorem Db.Catalogued.later (catalogued : db.Catalogued) (later : db.Later db') :
    db'.Catalogued := by
  rw [Db.Catalogued, later.permissions]
  exact catalogued

/-- A permission row names one permission. -/
theorem Db.Catalogued.mem_permissionNames (catalogued : db.Catalogued) {permission : PermissionRow}
    (hMem : permission ∈ db.permissions) {permissionId : Nat} :
    permission.name ∈ db.permissionNames permissionId ↔ permissionId = permission.id := by
  simp only [Db.permissionNames, List.mem_map, List.mem_filter, beq_iff_eq]
  constructor
  · rintro ⟨other, ⟨hOther, rfl⟩, hName⟩
    have hFind := (catalogued other hOther).1
    rw [hName, (catalogued permission hMem).1] at hFind
    rw [Option.some.inj hFind]
  · rintro rfl
    exact ⟨permission, ⟨hMem, rfl⟩, rfl⟩

/-- A known permission is set as asked, and no other one is touched. -/
theorem grantPermission_db {id : Uuid} {permission : String} {granted : Bool} {rows : Unit}
    (h : db.grantPermission id permission granted = (.ok rows, db'))
    {selected : PermissionRow}
    (hSelected : (db.permissions.find? fun row => row.name == permission) = some selected)
    (row : UserPermissionRow) :
    row ∈ db'.userPermissions.rows ↔ row = ⟨id, selected.id, granted⟩ ∨
      row ∈ db.userPermissions.rows ∧ ¬(row.userId = id ∧ row.permissionId = selected.id) := by
  have hFree (stored : UserPermissionRow) : stored.clash ⟨id, selected.id, granted⟩ = false ↔
      ¬(stored.userId = id ∧ stored.permissionId = selected.id) := by
    simp [UserPermissionRow.clash, Bool.eq_false_iff]
  simp only [Db.grantPermission, hSelected] at h
  split at h
  · next refused =>
      obtain ⟨-, rfl⟩ := Prod.mk.inj h
      rw [Table.mem_overwrite refused _ rfl, hFree]
      intro old hClash
      simp only [UserPermissionRow.clash, Bool.and_eq_true, beq_iff_eq] at hClash
      rw [← hClash.1, ← hClash.2]
  · next userPermissions inserted =>
      split at h
      · obtain ⟨-, rfl⟩ := Prod.mk.inj h
        have free (hOld : row ∈ db.userPermissions.rows) :
            ¬(row.userId = id ∧ row.permissionId = selected.id) :=
          (hFree row).mp (Table.free_of_insert inserted row hOld)
        rw [Table.mem_insert inserted, or_comm]
        exact or_congr_right ⟨fun hOld => ⟨hOld, free hOld⟩, And.left⟩
      · simp at h

theorem grantPermission_reply {id : Uuid} {permission : String} {granted : Bool} {rows : Unit}
    (h : answer draw db (.sql (.grantPermission id permission granted)) = (.ok rows, db'))
    {selected : PermissionRow}
    (hSelected : (db.permissions.find? fun row => row.name == permission) = some selected)
    (row : UserPermissionRow) :
    row ∈ db'.userPermissions.rows ↔ row = ⟨id, selected.id, granted⟩ ∨
      row ∈ db.userPermissions.rows ∧ ¬(row.userId = id ∧ row.permissionId = selected.id) :=
  grantPermission_db (exec_of_answer h) hSelected row

/-- An unknown permission is not set. -/
theorem grantPermission_unknown (draw : Draw) (db : Db) (id : Uuid) (permission : String)
    (granted : Bool) (hUnknown : ∀ row ∈ db.permissions, row.name ≠ permission) :
    (answer draw db (.sql (.grantPermission id permission granted))).2 = db := by
  have hNone : (db.permissions.find? fun row => row.name == permission) = none := by
    simpa using hUnknown
  simp only [answer]
  split
  · rfl
  · simp [Db.exec, Db.grantPermission, hNone]

end GenericAuth
