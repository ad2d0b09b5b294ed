import GenericAuth.Api.Admin
import GenericAuth.Api.Steps
import GenericAuth.Db.Permissions

/-! What a request that is executed alone makes of the accounts: which requests
create one, with which role and password, and which change a stored one. -/
namespace GenericAuth

open Interaction Relational

variable [External] {state : AppState} {request : Request} {draws : Stream' Draw} {db : Db}

/-! ### Stored accounts -/

/-- The role of a stored user is changed by a request to set it, and by no other. -/
theorem roleId_alone {row row' : UserRow} (hMem : row ∈ db.users.rows)
    (hMem' : row' ∈ (storeAfter (handle state request) draws db).users.rows)
    (hId : row'.id = row.id)
    (hOther : ∀ authorization body, request ≠ .setRole authorization row.id body) :
    row'.roleId = row.roleId := by
  refine column_alone (fun row => row.roleId) (fun earlier found draw op step other hSame => ?_)
    hMem hMem' hId
  apply UserRow.after_roleId
  intro roleId hOp
  have allowed := step.allowed
  rw [show op = .sql (.updateRole roleId other.id) from hOp, hSame] at allowed
  obtain ⟨authorization, body, hRequest, _⟩ := allowed
  exact hOther authorization body hRequest

theorem isActive_alone {row row' : UserRow} (hMem : row ∈ db.users.rows)
    (hMem' : row' ∈ (storeAfter (handle state request) draws db).users.rows)
    (hId : row'.id = row.id)
    (hOther : ∀ authorization body, request ≠ .setActive authorization row.id body) :
    row'.isActive = row.isActive := by
  refine column_alone (fun row => row.isActive) (fun earlier found draw op step other hSame => ?_)
    hMem hMem' hId
  apply UserRow.after_isActive
  intro active hOp
  have allowed := step.allowed
  rw [show op = .sql (.updateActive active other.id) from hOp, hSame] at allowed
  obtain ⟨authorization, hRequest, _⟩ := allowed
  exact hOther authorization ⟨active⟩ hRequest

theorem passwordHash_alone {row row' : UserRow} (hMem : row ∈ db.users.rows)
    (hMem' : row' ∈ (storeAfter (handle state request) draws db).users.rows)
    (hId : row'.id = row.id) (hOther : ∀ body, request ≠ .resetPassword body) :
    row'.passwordHash = row.passwordHash := by
  refine column_alone (fun row => row.passwordHash)
    (fun earlier found draw op step other hSame => ?_) hMem hMem' hId
  apply UserRow.after_passwordHash
  intro phc hOp
  have allowed := step.allowed
  rw [show op = .sql (.updatePasswordHash phc other.id) from hOp, hSame] at allowed
  obtain ⟨body, hRequest, _⟩ := allowed
  exact hOther body hRequest

/-- Explicit permissions are changed by a request to grant one, and by no other. -/
theorem userPermissions_alone
    (hOther : ∀ authorization id body, request ≠ .grantPermission authorization id body) :
    (storeAfter (handle state request) draws db).userPermissions = db.userPermissions := by
  apply keeps_alone (fun found => found.userPermissions = db.userPermissions) rfl
  intro earlier found draw op step same
  refine ((answer_effect draw found op).userPermissions fun id permission granted hOp => ?_).trans same
  have allowed := step.allowed
  rw [hOp] at allowed
  obtain ⟨authorization, rfl, _⟩ := allowed
  exact hOther authorization id ⟨permission, granted⟩ rfl

/-! ### New accounts -/

/-- The role and the password of an account that a request may create. -/
def creation : Request → Option (Role × Option String)
  | .register body => some (.user, some body.password)
  | .createAdmin args => some (.admin, some args.password)
  | .googleCallback _ => some (.user, none)
  | _ => none

/-- The stored hash was made from this password, or there is neither. -/
def Hashes (plain : Option String) (passwordHash : Option String) : Prop :=
  match plain with
  | none => passwordHash = none
  | some plain => ∃ salt phc, External.argon2Hash plain salt = .ok phc ∧ passwordHash = some phc

/-- A row as the request creates it. -/
def CreatedBy (request : Request) (db : Db) (row : UserRow) : Prop :=
  ∃ role plain, creation request = some (role, plain) ∧
    db.roleIdFor role.asStr = some row.roleId ∧ Hashes plain row.passwordHash

theorem Db.Later.roleIdFor {db' : Db} (later : db.Later db') : db'.roleIdFor = db.roleIdFor := by
  funext name
  simp only [Db.roleIdFor, later.roles]

/-- A role that was looked up is the role of this name. -/
theorem StepOf.roleIdFor {earlier : Calls} {found : Db} {draw : Draw} {op : Op} {name : String}
    {roleId : Nat} (step : StepOf state request draws db earlier found draw op)
    (saw : Saw earlier (.roleIdFor name) (some roleId)) : db.roleIdFor name = some roleId := by
  obtain ⟨draw', store, later, hReply, _⟩ := step.saw saw
  have hExec := Except.ok.inj (congrArg Prod.fst (exec_of_answer (Prod.ext hReply rfl)))
  rw [← later.roleIdFor]
  exact hExec

theorem StepOf.createdBy {earlier : Calls} {found : Db} {draw : Draw} {op : Op} {row : UserRow}
    (step : StepOf state request draws db earlier found draw op)
    (hMem : row ∈ UserRow.inserted draw ⟨op, (answer draw found op).1⟩) :
    CreatedBy request db row := by
  obtain ⟨rfl, _⟩ : op = _ ∧ _ := UserRow.mem_inserted hMem
  have chosen := step.chosen
  cases request with
  | register body =>
      obtain ⟨saw, hash⟩ := chosen
      exact ⟨.user, some body.password, rfl, step.roleIdFor saw, hash⟩
  | createAdmin args =>
      obtain ⟨saw, hash⟩ := chosen
      exact ⟨.admin, some args.password, rfl, step.roleIdFor saw, hash⟩
  | googleCallback q =>
      obtain ⟨saw, hash⟩ := chosen
      exact ⟨.user, none, rfl, step.roleIdFor saw, hash⟩
  | _ => exact chosen.elim

/-- A new account has the role and the password that its request gives it. -/
theorem created_alone : ∀ row ∈ (storeAfter (handle state request) draws db).users.rows,
    db.hasUser row.id = false → CreatedBy request db row := by
  refine keeps_alone (fun found => ∀ row ∈ found.users.rows, db.hasUser row.id = false →
    CreatedBy request db row) ?_ ?_
  · intro row hMem new
    rw [hasUser_iff.mpr ⟨row, hMem, rfl⟩] at new
    cases new
  intro earlier found draw op step created row hMem new
  rw [answer_users, List.mem_append] at hMem
  rcases hMem with hKept | hNew
  · obtain ⟨old, hOld, rfl⟩ := List.mem_map.mp hKept
    rw [UserRow.after_id] at new
    obtain ⟨role, plain, hCreation, hRole, hHash⟩ := created old hOld new
    refine ⟨role, plain, hCreation, ?_, ?_⟩
    -- no request that creates an account changes one
    · rw [UserRow.after_roleId]
      · exact hRole
      · intro roleId hOp
        have allowed := step.allowed
        rw [show op = .sql (.updateRole roleId old.id) from hOp] at allowed
        obtain ⟨authorization, body, rfl, _⟩ := allowed
        cases hCreation
    · rw [UserRow.after_passwordHash]
      · exact hHash
      · intro phc hOp
        have allowed := step.allowed
        rw [show op = .sql (.updatePasswordHash phc old.id) from hOp] at allowed
        obtain ⟨body, rfl, _⟩ := allowed
        cases hCreation
  · exact step.createdBy hNew

/-! ### Changes by administrators -/

section Changes

variable {u : Uuid} {authorization : Option String} {payload : Payload}

/-- An accepted change of a role has given it to the user. -/
theorem setRole_after {body : SetRoleReq} {row : UserRow}
    (h : outcomeOf (handle state (.setRole authorization u body)) draws db = .ok payload)
    (hRow : (storeAfter (handle state (.setRole authorization u body)) draws db).user u = some row) :
    db.roleIdFor body.role.asStr = some row.roleId := by
  obtain ⟨roleId, saw, single⟩ := admin_ok rfl h
  obtain ⟨draw, hAnswer⟩ := storeAfter_of_single single
  obtain ⟨draw', found, later, hReply, _⟩ := reply_alone saw
  have hRole := Except.ok.inj (congrArg Prod.fst (exec_of_answer (Prod.ext hReply rfl)))
  have hUser := answer_user draw db (.sql (.updateRole roleId u)) u
  rw [hAnswer, hRow] at hUser
  cases hOld : db.user u with
  | none => simp [hOld, UserRow.inserted] at hUser
  | some old =>
      have hId := (user_eq_some.mp hOld).2
      simp [hOld, UserRow.after, hId] at hUser
      rw [hUser, ← later.roleIdFor]
      exact hRole

/-- An accepted setting of a known permission is stored, and no other one of the
permission for the user. -/
theorem grantPermission_after {body : GrantPermReq} {selected : PermissionRow}
    (h : outcomeOf (handle state (.grantPermission authorization u body)) draws db = .ok payload)
    (hSelected : (db.permissions.find? fun row => row.name == body.permission) = some selected)
    (row : UserPermissionRow) :
    row ∈ (storeAfter (handle state (.grantPermission authorization u body)) draws
        db).userPermissions.rows ↔
      row = ⟨u, selected.id, body.granted⟩ ∨
        row ∈ db.userPermissions.rows ∧ ¬(row.userId = u ∧ row.permissionId = selected.id) := by
  obtain ⟨draw, hAnswer⟩ := storeAfter_of_single (admin_ok rfl h)
  exact grantPermission_reply hAnswer hSelected row

end Changes

end GenericAuth
