import GenericAuth.Api.Accounts
import GenericAuth.Api.Admin
import GenericAuth.Auth.Reference
import GenericAuth.Interaction.Serial
import Mathlib.Data.Set.Insert

/-! No privilege escalation. People who may not assign roles cannot change what
anybody may do, however many accounts they open: roles and explicit permissions
change through two guarded requests only, and new accounts have the ordinary role. -/
namespace GenericAuth

open Interaction Relational

section Escalation

variable [External] {state : AppState} {pool : ServerPool} {start db : Db} {request : Request}
    {draws : Stream' Draw} {members : Set Uuid}

/-- The create-admin command is no HTTP request. -/
def overHttp : Request → Bool
  | .createAdmin _ => false
  | _ => true

/-- An HTTP request whose access token, if it carries one, belongs to a member or
to an account that was not there at the start. -/
structure FromCoalition (state : AppState) (start : Db) (members : Set Uuid) (request : Request)
    (draws : Stream' Draw) : Prop where
  http : overHttp request = true
  bearer : ∀ authorization sub, authorizationOf request = some authorization →
    Presents state authorization (draws.get 0).now sub → sub ∈ members ∨ start.hasUser sub = false

/-- Nobody of the start has gained or lost a permission, and nobody else has one. -/
structure Contained (start db : Db) : Prop where
  later : start.Later db
  granted : db.Granted
  stored : ∀ u, start.hasUser u = true → db.permissionsFor u = start.permissionsFor u
  new : ∀ u, start.hasUser u = false → db.permissionsFor u = []

theorem Contained.refl (granted : start.Granted) : Contained start start :=
  ⟨.refl start, granted, fun _ _ => rfl, fun _ => permissionsFor_of_none granted⟩

/-- The ordinary role gives no permission. -/
def Db.Ordinary (db : Db) : Prop :=
  ∀ roleId, db.roleIdFor Role.user.asStr = some roleId → db.rolePermissionNames roleId = []

theorem Db.Ordinary.later (ordinary : start.Ordinary) (later : start.Later db) : db.Ordinary := by
  intro roleId hRole
  rw [later.roleIdFor] at hRole
  rw [← ordinary roleId hRole]
  simp only [Db.rolePermissionNames, Db.permissionNames, later.rolePermissions, later.permissions]

/-- No member of the coalition may assign roles, so the permission check refuses them. -/
theorem Contained.unchanged (contained : Contained start db)
    (hMembers : ∀ u ∈ members, Permission.usersAssignRoles.asStr ∉ start.permissionsFor u)
    (coalition : FromCoalition state start members request draws) {authorization : Option String}
    (hCall : adminCall request = some (authorization, .usersAssignRoles)) :
    storeAfter (handle state request) draws db = db := by
  by_contra changed
  obtain ⟨sub, entitled⟩ := entitled_of_change hCall changed
  have hPermitted := entitled.permitted
  cases hSub : start.hasUser sub with
  | false =>
      rw [contained.new sub hSub] at hPermitted
      cases hPermitted
  | true =>
      rw [contained.stored sub hSub] at hPermitted
      rcases coalition.bearer authorization sub (authorizationOf_of_adminCall hCall)
        entitled.presents with member | hNew
      · exact hMembers sub member hPermitted
      · rw [hNew] at hSub
        cases hSub

/-- A request other than the two guarded ones changes nobody's permissions. -/
theorem permissionsFor_alone (granted : db.Granted) (ordinary : db.Ordinary)
    (hHttp : overHttp request = true)
    (hRole : ∀ authorization id body, request ≠ .setRole authorization id body)
    (hGrant : ∀ authorization id body, request ≠ .grantPermission authorization id body) (u : Uuid) :
    (storeAfter (handle state request) draws db).permissionsFor u = db.permissionsFor u := by
  have later := later_alone state request draws db
  have hExplicit : (storeAfter (handle state request) draws db).explicit u = db.explicit u := by
    rw [Db.explicit, userPermissions_alone hGrant, Db.explicit]
  cases hOld : db.user u with
  | some row =>
      obtain ⟨hMem, rfl⟩ := user_eq_some.mp hOld
      obtain ⟨row', hMem', same⟩ := later.users row hMem
      refine permissionsFor_congr later.permissions later.rolePermissions ?_ hExplicit
      rw [hOld, user_eq_some.mpr ⟨hMem', same.id⟩, Option.map_some, Option.map_some,
        roleId_alone hMem hMem' same.id fun authorization body => hRole authorization row.id body]
  | none =>
      have hNone : db.hasUser u = false := by rw [hasUser_eq, hOld, Option.isSome_none]
      rw [permissionsFor_of_none granted hNone]
      refine permissionsFor_eq_nil ?_ (hExplicit.trans (explicit_of_none granted hNone))
      cases hNew : (storeAfter (handle state request) draws db).user u with
      | none => exact rolePerms_of_none hNew
      | some row =>
          obtain ⟨hMem, hId⟩ := user_eq_some.mp hNew
          obtain ⟨role, plain, hCreation, hRoleId, _⟩ := created_alone _ hMem (by rwa [hId])
          rw [rolePerms_of_user hNew]
          apply ordinary.later later row.roleId
          rw [later.roleIdFor]
          cases request with
          | register | googleCallback =>
              cases hCreation
              exact hRoleId
          | createAdmin => cases hHttp
          | _ => cases hCreation

theorem Contained.step (contained : Contained start db) (ordinary : start.Ordinary)
    (hMembers : ∀ u ∈ members, Permission.usersAssignRoles.asStr ∉ start.permissionsFor u)
    (coalition : FromCoalition state start members request draws) :
    Contained start (storeAfter (handle state request) draws db) := by
  by_cases same : storeAfter (handle state request) draws db = db
  · rwa [same]
  have hRole (authorization id body) : request ≠ .setRole authorization id body := by
    rintro rfl
    exact same (contained.unchanged hMembers coalition rfl)
  have hGrant (authorization id body) : request ≠ .grantPermission authorization id body := by
    rintro rfl
    exact same (contained.unchanged hMembers coalition rfl)
  have kept (u : Uuid) : (storeAfter (handle state request) draws db).permissionsFor u =
      db.permissionsFor u :=
    permissionsFor_alone contained.granted (ordinary.later contained.later) coalition.http hRole hGrant u
  refine ⟨contained.later.trans _ _ _ (later_alone state request draws db), ?_,
    fun u hUser => (kept u).trans (contained.stored u hUser),
    fun u hUser => (kept u).trans (contained.new u hUser)⟩
  exact keeps_alone Db.Granted contained.granted
    fun _ _ draw op _ granted => answer_granted draw _ op granted

/-! ### Reachable stores -/

theorem ServerRun.ordinary (run : ServerRun state migrated pool) : pool.store.Ordinary := by
  refine Db.Ordinary.later (fun roleId hRole => ?_) run.later_start
  obtain rfl : 3 = roleId := Option.some.inj hRole
  rfl

/-- Whatever requests a coalition sends that may not assign roles, the users of
the start keep exactly their permissions, and new accounts have none. -/
theorem no_escalation (run : ServerRun state migrated pool)
    (hMembers : ∀ u ∈ members, Permission.usersAssignRoles.asStr ∉ pool.store.permissionsFor u)
    (history : List (Request × Stream' Draw))
    (coalition : ∀ step ∈ history, FromCoalition state pool.store members step.1 step.2) :
    (∀ u, pool.store.hasUser u = true → ∀ name,
      name ∈ (serially answer (handle state) history pool.store).permissionsFor u ↔
        name ∈ pool.store.permissionsFor u) ∧
    ∀ u, pool.store.hasUser u = false →
      (serially answer (handle state) history pool.store).permissionsFor u = [] := by
  have along : Along answer (handle state) (fun _ => FromCoalition state pool.store members) history
      pool.store := along_of_forall (fun step hMem _ => coalition step hMem) pool.store
  have contained := along.keeps (Contained pool.store) (.refl run.granted)
    fun db request draws coalition contained => contained.step run.ordinary hMembers coalition
  exact ⟨fun u hUser name => by rw [contained.stored u hUser], contained.new⟩

end Escalation

/-! ### Runs of the reference instance -/

section Runs

attribute [local instance] reference

/-- The header with the access token from the user's login. -/
def userHeader : String := headerFor firstUser .user 41

/-- A user logs in and asks to become an administrator. -/
def climbing : List (Request × Stream' Draw) :=
  [(.login ⟨"user@example.org", "password"⟩, moments 40),
    (.setRole (some userHeader) firstUser ⟨.admin⟩, moments 60)]

theorem climbing_coalition {start : Db} :
    ∀ step ∈ climbing, FromCoalition exampleState start {firstUser} step.1 step.2 := by
  have hSubject : subjectOf userHeader = some firstUser := by decide +kernel
  rintro step (_ | ⟨_, _ | ⟨_, ⟨⟩⟩⟩)
  · exact ⟨rfl, by rintro authorization sub ⟨⟩⟩
  · refine ⟨rfl, ?_⟩
    rintro authorization sub ⟨⟩ presents
    exact .inl (Option.some.inj ((subjectOf_of_presents presents).symm.trans hSubject))

/-- The user of the registration stays what it was. -/
theorem no_escalation_climbing : registered.store.hasUser firstUser = true ∧ ∀ name,
    name ∈ (serially answer (handle exampleState) climbing registered.store).permissionsFor firstUser ↔
      name ∈ registered.store.permissionsFor firstUser := by
  have hUser : registered.store.hasUser firstUser = true := by decide +kernel
  have powerless : Permission.usersAssignRoles.asStr ∉ registered.store.permissionsFor firstUser := by
    decide +kernel
  refine ⟨hUser, (no_escalation registered_run (fun u member => ?_) climbing
    climbing_coalition).1 firstUser hUser⟩
  rwa [Set.mem_singleton_iff.mp member]

end Runs

end GenericAuth
