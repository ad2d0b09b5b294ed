import GenericAuth.Api.Run
import GenericAuth.Properties.EffectivePermissions

/-! The role in an access token. Both extractors read it and no handler asks for
it, so two tokens of one user are worth the same, and a change of the user's role
or permissions decides the next request whichever token it carries. -/
namespace GenericAuth

open Interaction Relational

/-- The same request with another header. -/
def Request.withAuthorization (authorization : Option String) : Request → Request
  | .resendVerification _ => .resendVerification authorization
  | .me _ => .me authorization
  | .myPermissions _ => .myPermissions authorization
  | .listUsers _ page => .listUsers authorization page
  | .setRole _ id body => .setRole authorization id body
  | .setActive _ id body => .setActive authorization id body
  | .grantPermission _ id body => .grantPermission authorization id body
  | request => request

section Tokens

variable [External] {state : AppState} {authorization authorization' : Option String}
    {p : Permission} {draws : Stream' Draw} {db : Db} {sub : Uuid}

/-- What follows the extractor sees the subject of the token only. -/
theorem exec_behind {Value : Type} (rest : AuthUser → AppResult Value) (db : Db)
    (presents : Presents state authorization draws.head.now sub)
    (presents' : Presents state authorization' draws.head.now sub)
    (same : ∀ role role', rest ⟨sub, role⟩ = rest ⟨sub, role'⟩) :
    (liftM (authUser state authorization) >>= rest).run.exec answer draws db =
      (liftM (authUser state authorization') >>= rest).run.exec answer draws db := by
  obtain ⟨role, hAuth⟩ := exec_authUser db presents
  obtain ⟨role', hAuth'⟩ := exec_authUser db presents'
  simp [ExceptT.run_bind, Program.exec_bind, hAuth, hAuth', same role role']

theorem exec_authorize_same
    (presents : Presents state authorization draws.head.now sub)
    (presents' : Presents state authorization' draws.head.now sub) :
    (authorize state authorization p).run.exec answer draws db =
      (authorize state authorization' p).run.exec answer draws db := by
  obtain ⟨role, hAuth⟩ := exec_authUser db presents
  obtain ⟨role', hAuth'⟩ := exec_authUser db presents'
  simp only [authorize, verifiedUser, ExceptT.run_bind, run_liftAppError]
  simp [Program.exec_bind, hAuth, hAuth']
  rcases answer (draws.get 1) db (.sql (.findById sub)) with ⟨error | _ | found, db'⟩
  · rfl
  · rfl
  · cases hVerified : found.emailVerified <;> simp [UserRecord.toUser, hVerified]

theorem exec_admin_same {request request' : Request}
    (hCall : adminCall request = some (authorization, p))
    (hCall' : adminCall request' = some (authorization', p))
    (hWork : adminWork request = adminWork request')
    (presents : Presents state authorization draws.head.now sub)
    (presents' : Presents state authorization' draws.head.now sub) :
    (handle state request).exec answer draws db =
      (handle state request').exec answer draws db := by
  rw [handle_admin hCall, handle_admin hCall', hWork, ExceptT.run_bind, ExceptT.run_bind,
    Program.exec_bind, Program.exec_bind, exec_authorize_same presents presents']

theorem exec_same {request : Request} (hCall : authorizationOf request = some authorization)
    (presents : Presents state authorization draws.head.now sub)
    (presents' : Presents state authorization' draws.head.now sub) :
    (handle state request).exec answer draws db =
      (handle state (request.withAuthorization authorization')).exec answer draws db := by
  cases request with
  | resendVerification header =>
      obtain rfl := Option.some.inj hCall
      simp only [handle, Request.withAuthorization, ExceptT.run_map, Program.exec_map,
        resendVerification]
      rw [exec_behind _ db presents presents' fun _ _ => rfl]
  | me header =>
      obtain rfl := Option.some.inj hCall
      simp only [handle, Request.withAuthorization, ExceptT.run_map, Program.exec_map, me]
      rw [exec_behind _ db presents presents' fun _ _ => rfl]
  | myPermissions header =>
      obtain rfl := Option.some.inj hCall
      simp only [handle, Request.withAuthorization, ExceptT.run_map, Program.exec_map, myPermissions]
      rw [exec_behind _ db presents presents' fun _ _ => rfl]
  | listUsers header page | setRole header id body | setActive header id body
  | grantPermission header id body =>
      obtain rfl := Option.some.inj hCall
      exact exec_admin_same rfl rfl rfl presents presents'
  | _ => cases hCall

theorem adminWork_not_forbidden {request : Request}
    (hCall : adminCall request = some (authorization, p)) (draws : Stream' Draw) (db : Db) :
    ((adminWork request).run.exec answer draws db).1 ≠ .error (.err .forbidden) := by
  have databaseError (e : SqlxError) : AppError.ofDbError (.sqlx e) ≠ .forbidden := by
    cases e <;> simp [AppError.ofDbError]
  cases request with
  | listUsers header page =>
      simp [adminWork]
      rcases answer draws.head db (.sql (.listUsers (min page.limit 200) page.offset)) with
        ⟨error | users, db'⟩ <;> simp [databaseError]
  | setRole header id body =>
      simp [adminWork]
      rcases answer draws.head db (.sql (.roleIdFor body.role.asStr)) with ⟨error | _ | roleId, db'⟩
      · simp [databaseError]
      · simp [databaseError]
      · rcases hUpdate : answer (draws.get 1) db' (.sql (.updateRole roleId id)) with
          ⟨error | rows, db''⟩ <;> simp [hUpdate, databaseError]
  | setActive header id body =>
      simp [adminWork]
      rcases answer draws.head db (.sql (.updateActive body.active id)) with
        ⟨error | rows, db'⟩ <;> simp [databaseError]
  | grantPermission header id body =>
      simp [adminWork, query]
      rcases answer draws.head db (.sql (.grantPermission id body.permission body.granted)) with
        ⟨error | rows, db'⟩ <;> simp
  | _ => cases hCall

/-- What a handler answers after the extractor, other than that the caller may not. -/
theorem forbidden_iff {request : Request} (hCall : adminCall request = some (authorization, p))
    (refs : db.References) (presents : Presents state authorization draws.head.now sub)
    (hVerified : ∃ row ∈ db.users.rows, row.id = sub ∧ row.emailVerified = true)
    (hFind : (draws.get 1).fault = none) (hLoad : (draws.get 2).fault = none) :
    outcomeOf (handle state request) draws db = .error (.err .forbidden) ↔
      p.asStr ∉ db.permissionsFor sub := by
  rw [outcomeOf, handle_admin hCall, ExceptT.run_bind, Program.exec_bind,
    exec_authorize refs presents hVerified hFind hLoad]
  by_cases hPermitted : p.asStr ∈ db.permissionsFor sub
  · simp only [hPermitted, if_true, not_true_eq_false, iff_false]
    exact adminWork_not_forbidden hCall _ _
  · simp [hPermitted]

/-! ### The next request after a change -/

/-- A role of this name has a permission of this name. -/
def Db.RolePermits (db : Db) (role : Role) (name : String) : Prop :=
  ∃ roleId, db.roleIdFor role.asStr = some roleId ∧ name ∈ db.rolePermissionNames roleId

instance (db : Db) (role : Role) (name : String) : Decidable (db.RolePermits role name) :=
  decidable_of_iff (∃ roleId ∈ db.roleIdFor role.asStr, name ∈ db.rolePermissionNames roleId) Iff.rfl

/-- The role counts, as far as no explicit permission says otherwise. -/
theorem permitted_of_role {u : Uuid} {role : Role} {row : UserRow} {name : String}
    (hRow : db.user u = some row) (hRole : db.roleIdFor role.asStr = some row.roleId) :
    name ∈ db.permissionsFor u ↔
      (db.RolePermits role name ∨ name ∈ db.overrides u true) ∧ name ∉ db.overrides u false := by
  have hPermits : db.RolePermits role name ↔ name ∈ db.rolePerms u := by
    rw [rolePerms_of_user hRow]
    constructor
    · rintro ⟨roleId, hRoleId, hName⟩
      rw [hRole] at hRoleId
      rwa [Option.some.inj hRoleId]
    · exact fun hName => ⟨row.roleId, hRole, hName⟩
  rw [mem_permissionsFor, hPermits]

/-- An explicit permission that was set last is all that counts. -/
theorem permitted_of_grant {header : Option String} {u : Uuid} {body : GrantPermReq}
    {payload : Payload} {selected : PermissionRow} (catalogued : db.Catalogued)
    (hMem : selected ∈ db.permissions) (hName : selected.name = body.permission)
    (h : outcomeOf (handle state (.grantPermission header u body)) draws db = .ok payload) :
    body.permission ∈ (storeAfter (handle state (.grantPermission header u body)) draws
      db).permissionsFor u ↔ body.granted = true := by
  have later := later_alone state (.grantPermission header u body) draws db
  have hSelected := (catalogued selected hMem).1
  rw [hName] at hSelected
  have agrees : GrantAgrees u selected
      (storeAfter (handle state (.grantPermission header u body)) draws db) (some body.granted) := by
    refine ⟨later.permissions ▸ hMem, catalogued.later later, fun granted => ?_⟩
    rw [grantPermission_after h hSelected]
    simp [eq_comm]
  rw [mem_permissionsFor, ← hName, agrees.mem_overrides, agrees.mem_overrides]
  cases body.granted <;> simp

/-- A confirmed user calls an admin route with a token that is accepted. -/
structure NextCall (state : AppState) (db : Db) (request : Request) (draws : Stream' Draw)
    (u : Uuid) (p : Permission) : Prop where
  presents : ∃ authorization, adminCall request = some (authorization, p) ∧
    Presents state authorization (draws.get 0).now u
  confirmed : ∃ row ∈ db.users.rows, row.id = u ∧ row.emailVerified = true
  find : (draws.get 1).fault = none
  load : (draws.get 2).fault = none

/-- The answer that the caller may not do this. -/
def Forbidden (state : AppState) (db : Db) (request : Request) (draws : Stream' Draw) : Prop :=
  outcomeOf (handle state request) draws db = .error (.err .forbidden)

theorem NextCall.forbidden_iff_not {request : Request} {u : Uuid}
    (call : NextCall state db request draws u p) (refs : db.References) :
    Forbidden state db request draws ↔ p.asStr ∉ db.permissionsFor u := by
  obtain ⟨authorization, hCall, presents⟩ := call.presents
  exact forbidden_iff hCall refs presents call.confirmed call.find call.load

/-- Every admin route asks for a permission of the migration's table. -/
theorem permission_of_adminCall {request : Request}
    (hCall : adminCall request = some (authorization, p)) :
    ∃ selected ∈ (migrated : Db).permissions, selected.name = p.asStr := by
  cases request with
  | listUsers | setRole | setActive | grantPermission =>
      obtain ⟨rfl, rfl⟩ := Prod.mk.inj (Option.some.inj hCall)
      simp [migrated, Permission.asStr]
  | _ => cases hCall

/-- Requests that differ only in the access token, whose subject is the same, have
the same answer and the same effect. An accepted change of a user's role or
permissions decides the user's next request, with any token. -/
theorem authorization_from_store (state : AppState) :
    (∀ db draws request authorization authorization' sub,
      authorizationOf request = some authorization →
      Presents state authorization (draws.get 0).now sub →
      Presents state authorization' (draws.get 0).now sub →
      outcomeOf (handle state request) draws db =
          outcomeOf (handle state (request.withAuthorization authorization')) draws db ∧
        storeAfter (handle state request) draws db =
          storeAfter (handle state (request.withAuthorization authorization')) draws db) ∧
    ∀ pool, ServerRun state migrated pool → ∀ change draws payload,
      outcomeOf (handle state change) draws pool.store = .ok payload →
      let db := storeAfter (handle state change) draws pool.store
      ∀ next draws' u p, NextCall state db next draws' u p →
        (∀ header body, change = .setRole header u body →
          (Forbidden state db next draws' ↔
            ¬((db.RolePermits body.role p.asStr ∨ p.asStr ∈ db.overrides u true) ∧
              p.asStr ∉ db.overrides u false))) ∧
        ∀ header body, change = .grantPermission header u body → body.permission = p.asStr →
          (Forbidden state db next draws' ↔ body.granted = false) := by
  constructor
  · intro db draws request authorization authorization' sub hCall presents presents'
    have same : (handle state request).exec answer draws db =
        (handle state (request.withAuthorization authorization')).exec answer draws db :=
      exec_same hCall presents presents'
    exact ⟨congrArg Prod.fst same, congrArg (fun result => result.2.2) same⟩
  · intro pool run change draws payload hOutcome db next draws' u p call
    have refs : db.References := references_alone state change draws run.references
    have later : migrated.Later pool.store := run.later_start
    rw [call.forbidden_iff_not refs]
    constructor
    · rintro header body rfl
      obtain ⟨row, hMem, hId, _⟩ := call.confirmed
      have hRow : db.user u = some row := user_eq_some.mpr ⟨hMem, hId⟩
      rw [permitted_of_role hRow]
      rw [(later_alone state _ draws pool.store).roleIdFor]
      exact setRole_after hOutcome hRow
    · rintro header body rfl hName
      obtain ⟨authorization, hCall, _⟩ := call.presents
      obtain ⟨selected, hMem, hSelected⟩ := permission_of_adminCall hCall
      rw [← hName, permitted_of_grant (migrated_catalogued.later later) (later.permissions ▸ hMem)
        (hSelected.trans hName.symm) hOutcome]
      simp

end Tokens

/-! ### Runs of the reference instance -/

section Runs

attribute [local instance] reference

/-- A header with a token of the administrator, issued as for an ordinary user. -/
def plainHeader : String := headerFor firstAdmin .user 45

/-- The administrator makes itself an ordinary user. -/
def resigned : Request := .setRole (some managerHeader) firstAdmin ⟨.user⟩

/-- Both tokens list the users. After the resignation neither does, whatever role
it was issued for. -/
theorem authorization_from_store_resigned :
    outcomeOf (handle exampleState (.listUsers (some managerHeader) ⟨50, 0⟩)) (moments 60)
        staffed.store =
      outcomeOf (handle exampleState (.listUsers (some plainHeader) ⟨50, 0⟩)) (moments 60)
        staffed.store ∧
    Forbidden exampleState (storeAfter (handle exampleState resigned) (moments 60) staffed.store)
      (.listUsers (some managerHeader) ⟨50, 0⟩) (moments 80) := by
  obtain ⟨alike, decided⟩ := authorization_from_store exampleState
  have accepted : acceptedAt managerHeader (moment 60).now = some firstAdmin := by decide +kernel
  have accepted' : acceptedAt plainHeader (moment 60).now = some firstAdmin := by decide +kernel
  have later : acceptedAt managerHeader (moment 80).now = some firstAdmin := by decide +kernel
  have done : outcomeOf (handle exampleState resigned) (moments 60) staffed.store = .ok .empty := by
    decide +kernel
  have call : NextCall exampleState (storeAfter (handle exampleState resigned) (moments 60)
      staffed.store) (.listUsers (some managerHeader) ⟨50, 0⟩) (moments 80) firstAdmin .usersRead :=
    ⟨⟨_, rfl, presents_of_acceptedAt later⟩, by decide +kernel, rfl, rfl⟩
  have same := alike staffed.store (moments 60) (.listUsers (some managerHeader) ⟨50, 0⟩) _
    (some plainHeader) firstAdmin rfl (presents_of_acceptedAt accepted)
    (presents_of_acceptedAt accepted')
  have verdict := (decided staffed staffed_run resigned (moments 60) .empty done _ (moments 80)
    firstAdmin .usersRead call).1 _ _ rfl
  exact ⟨same.1, verdict.mpr (by decide +kernel)⟩

end Runs

end GenericAuth
