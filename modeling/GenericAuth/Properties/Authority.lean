import GenericAuth.Api.Chosen
import GenericAuth.Auth.Reference
import GenericAuth.Interaction.Provenance
import GenericAuth.Properties.AdminSerial
import GenericAuth.Properties.NoEscalation
import GenericAuth.Properties.RegistryRefinement

/-! Where permissions come from. Whoever may do anything owes it to administrators
who were entitled when their requests asked, and the first of these were made by
the create-admin command. Requests may overlap and fail in any way. -/
namespace GenericAuth

open Interaction Relational

/-! ### In the registry -/

theorem number_injective : Function.Injective Registry.number := by
  intro first second h
  rw [← Registry.roleOf_number first, h, Registry.roleOf_number]

/-- The call settles a permission of a user, as far as their role or an override goes. -/
def Decides (userId : Uuid) (name : String) (value : Bool) : Call Op Op.Reply → Prop
  | ⟨.sql (.insertUser _ _ _ roleId _), .ok columns⟩ => columns.id = userId ∧
      ∃ role, Registry.number role = roleId ∧ Registry.grants role name = value
  | ⟨.sql (.updateRole roleId id), .ok _⟩ => id = userId ∧
      ∃ role, Registry.number role = roleId ∧ Registry.grants role name = value
  | ⟨.sql (.grantPermission id name' granted), .ok _⟩ =>
      id = userId ∧ name' = name ∧ granted = value
  | _ => False

theorem permits_changeAccount {registry : Registry} {userId id : Uuid} {name : String}
    {change : UserAccount → UserAccount}
    (h : id ≠ userId ∨ ∀ account, (change account).role = account.role) :
    (registry.changeAccount id change).permits userId name = registry.permits userId name := by
  simp only [Registry.permits, Registry.changeAccount]
  by_cases hId : userId = id
  · subst hId
    have kept := h.resolve_left (fun hNe => hNe rfl)
    cases registry.account userId <;> simp [kept]
  · rw [Function.update_of_ne hId]

theorem permits_of_frame {part : Option Registry.Part} {before after : Registry} {userId : Uuid}
    {name : String} (frame : Registry.Frame part before after) (hAccounts : part ≠ some .accounts)
    (hOverrides : part ≠ some .overrides) :
    after.permits userId name = before.permits userId name := by
  simp only [Registry.permits, frame.account hAccounts, frame.override hOverrides]

section Steps

variable [External] {draw : Draw} {before after : Registry} {op : Op} {reply : op.Reply}
    {userId : Uuid} {name : String}

/-- Each step leaves a permission as it is, or settles it. -/
theorem permits_step (step : Registry.Step draw before op reply after) :
    after.permits userId name = before.permits userId name ∨
      Decides userId name (after.permits userId name) ⟨op, reply⟩ := by
  cases op with
  | sql statement =>
      cases reply with
      | error error => exact .inl (by rw [step.1])
      | ok rows =>
          obtain ⟨_, does⟩ := step
          have frame := does.frame
          cases statement with
          | insertUser email passwordHash displayName roleId emailVerified =>
              obtain ⟨hNew, _, role, hRole, hColumns, rfl⟩ := does
              by_cases hId : userId = draw.uuid
              · subst hId
                simp only [Registry.permits, Function.update_self, hNew, Option.any_none,
                  Option.any_some]
                cases hOverride : before.override (draw.uuid, name) with
                | some granted => exact .inl rfl
                | none => exact .inr ⟨by rw [hColumns]; rfl, role, hRole, rfl⟩
              · exact .inl (by simp only [Registry.permits, Function.update_of_ne hId])
          | updateRole roleId id =>
              simp only [Registry.Does] at does
              split at does
              · exact .inl (by rw [does])
              · next account hAccount =>
                  obtain ⟨role, hRole, rfl⟩ := does
                  by_cases hId : id = userId
                  · subst hId
                    simp only [Registry.permits, Registry.changeAccount, Function.update_self,
                      hAccount, Option.map_some, Option.any_some]
                    cases hOverride : before.override (id, name) with
                    | some granted => exact .inl rfl
                    | none => exact .inr ⟨rfl, role, hRole, rfl⟩
                  · exact .inl (permits_changeAccount (.inl hId))
          | updateActive | markEmailVerified | updatePasswordHash =>
              obtain rfl := does
              exact .inl (permits_changeAccount (.inr fun _ => rfl))
          | grantPermission id name' granted =>
              simp only [Registry.Does] at does
              split at does
              · obtain ⟨_, rfl⟩ := does
                by_cases hKey : (userId, name) = (id, name')
                · obtain ⟨rfl, rfl⟩ := Prod.mk.inj hKey
                  exact .inr ⟨rfl, rfl, by simp [Registry.permits]⟩
                · exact .inl (by simp only [Registry.permits, Function.update_of_ne hKey])
              · exact .inl (by rw [does])
          | _ => exact .inl (permits_of_frame frame (by simp [Registry.written])
              (by simp [Registry.written]))
  | _ => exact .inl (by rw [show after = before from step])

end Steps

/-! ### Who calls -/

section Runs

variable [External] {state : AppState} {start : Db} {pool : ServerPool} {k l m i : Nat}
    {userId : Uuid}

theorem ServerRun.chosen (run : ServerRun state start pool) {request : Request}
    (serves : pool.Serves i request) {statement : Statement} {rows : statement.Rows}
    (did : Did pool k i statement rows) :
    Chosen state request (past answer (pool.log.take k) i) (.sql statement) := by
  obtain ⟨draw, step⟩ := did
  obtain ⟨request', serves', chosen⟩ := Runs.allowed (handle_chosen state) run step
  rwa [serves.unique serves']

/-- What a statement of a run does, on the store as it was found. -/
theorem ServerRun.does (run : ServerRun state start pool) (sound : start.Sound)
    {statement : Statement} {rows : statement.Rows} (did : Did pool k i statement rows) :
    ∃ draw, (pool.storeAt k).registry.Does draw statement rows (pool.storeAt (k + 1)).registry := by
  obtain ⟨draw, step⟩ := did
  exact ⟨draw, (answer_refines.executed run sound step).2⟩

theorem ServerRun.sound_at (run : ServerRun state start pool) (sound : start.Sound) (k : Nat) :
    (pool.storeAt k).Sound :=
  run.invariant Db.Sound sound answer_sound k

/-- The number of a role that a client was given. -/
theorem ServerRun.number_of_saw (run : ServerRun state start pool) (sound : start.Sound)
    {role : Role} {roleId : Nat}
    (saw : Saw (past answer (pool.log.take k) i) (.roleIdFor role.asStr) (some roleId)) :
    roleId = Registry.number role := by
  obtain ⟨l, _, did⟩ := run.did_of_saw saw
  obtain ⟨_, _, hRole⟩ := run.does sound did
  rw [Role.parse_asStr] at hRole
  exact Option.some.inj hRole

/-- New accounts are ordinary ones, unless the create-admin command makes them. -/
theorem ServerRun.inserted_by (run : ServerRun state start pool) (sound : start.Sound)
    {email passwordHash displayName : Option String} {roleId : Nat} {emailVerified : Bool}
    {columns : UserColumns}
    (did : Did pool k i (.insertUser email passwordHash displayName roleId emailVerified) columns) :
    roleId = Registry.number .user ∨
      roleId = Registry.number .admin ∧ ∃ args, pool.Serves i (.createAdmin args) := by
  obtain ⟨request, serves⟩ := run.serves did
  have chosen := run.chosen serves did
  cases request with
  | register body => exact .inl (run.number_of_saw sound chosen.1)
  | googleCallback q => exact .inl (run.number_of_saw sound chosen.1)
  | createAdmin args => exact .inr ⟨run.number_of_saw sound chosen.1, args, serves⟩
  | _ => exact chosen.elim

/-- The client presented an access token of this user that was accepted at the time it
read, and in step `m` it found that the user has the permission. -/
structure ActsFor (state : AppState) (pool : ServerPool) (m i : Nat) (sub : Uuid)
    (p : Permission) : Prop where
  presents : ∃ authorization request n draw now, pool.Serves i request ∧
    authorizationOf request = some authorization ∧ pool.Executed answer n i draw .nowUtc now ∧
      Presents state authorization now sub
  loaded : ∃ names, Did pool m i (.permissionsFor sub) names ∧ p.asStr ∈ names

theorem ActsFor.permitted {sub : Uuid} {p : Permission} (acts : ActsFor state pool m i sub p) :
    p.asStr ∈ (pool.storeAt m).permissionsFor sub := by
  obtain ⟨names, ⟨draw, step⟩, hMem⟩ := acts.loaded
  obtain rfl : (pool.storeAt m).permissionsFor sub = names :=
    Except.ok.inj (congrArg Prod.fst (exec_of_answer step.effect))
  exact hMem

theorem ServerRun.actsFor (run : ServerRun state start pool) {authorization : Option String}
    {request : Request} {p : Permission} (serves : pool.Serves i request)
    (hHeader : authorizationOf request = some authorization)
    (authorised : Authorised state (past answer (pool.log.take k) i) authorization p) :
    ∃ m < k, ∃ sub, ActsFor state pool m i sub p := by
  obtain ⟨sub, _, names, bearer, _, _, sawNames, hMem⟩ := authorised
  obtain ⟨now, hNow, presents⟩ := bearer
  obtain ⟨n, _, draw, reading⟩ := run.executed_of_past hNow
  obtain ⟨m, hmk, loaded⟩ := run.did_of_saw sawNames
  exact ⟨m, hmk, sub, ⟨authorization, request, n, draw, now, serves, hHeader, reading, presents⟩,
    names, loaded, by simpa using hMem⟩

/-- Roles change and permissions are granted for those who may assign roles. -/
theorem ServerRun.assigned_by (run : ServerRun state start pool) {statement : Statement}
    {rows : statement.Rows} (did : Did pool k i statement rows)
    (h : (∃ roleId, statement = .updateRole roleId userId) ∨
      ∃ name granted, statement = .grantPermission userId name granted) :
    ∃ m < k, ∃ sub, ActsFor state pool m i sub .usersAssignRoles := by
  obtain ⟨request, serves⟩ := run.serves did
  have allowed := run.allowed serves did
  rcases h with ⟨roleId, rfl⟩ | ⟨name, granted, rfl⟩
  · obtain ⟨authorization, body, rfl, authorised⟩ := allowed
    exact run.actsFor serves rfl authorised
  · obtain ⟨authorization, rfl, authorised⟩ := allowed
    exact run.actsFor serves rfl authorised

/-! ### The chain -/

/-- The step gives the user the permission, by a role or explicitly, as its
client's request says. -/
def Confers (pool : ServerPool) (k i : Nat) (userId : Uuid) (name : String) : Prop :=
  (∃ authorization role, pool.Serves i (.setRole authorization userId ⟨role⟩) ∧
    Did pool k i (.updateRole (Registry.number role) userId) () ∧
    Registry.grants role name = true) ∨
  ∃ authorization, pool.Serves i (.grantPermission authorization userId ⟨name, true⟩) ∧
    Did pool k i (.grantPermission userId name true) ()

/-- The user is an administrator whom the create-admin command has made before. -/
def Appointed (pool : ServerPool) (l : Nat) (held : Uuid × String) : Prop :=
  held.2 ∈ Registry.catalogue ∧ ∃ k < l, ∃ i args email passwordHash displayName emailVerified columns,
    pool.Serves i (.createAdmin args) ∧
    Did pool k i (.insertUser email passwordHash displayName (Registry.number .admin) emailVerified)
      columns ∧ columns.id = held.1

/-- The permission was given before, for someone who could assign roles at
position `m`. -/
def Conferred (state : AppState) (pool : ServerPool) (l : Nat) (held : Uuid × String) (m : Nat)
    (source : Uuid × String) : Prop :=
  source.2 = Permission.usersAssignRoles.asStr ∧ ∃ k i, m < k ∧ k < l ∧
    ActsFor state pool m i source.1 .usersAssignRoles ∧ Confers pool k i held.1 held.2

omit [External] in
theorem grants_known {role : Role} {name : String} (h : Registry.grants role name = true) :
    name ∈ Registry.catalogue := by
  cases role with
  | admin => simpa [Registry.grants] using h
  | moderator =>
      obtain rfl : name = Permission.usersRead.asStr := by simpa [Registry.grants] using h
      decide
  | user => simp [Registry.grants] at h

/-- The step that gives a permission is one of an appointment or of a request that
was let in. -/
theorem ServerRun.conferred_by (run : ServerRun state start pool) (sound : start.Sound)
    {draw : Draw} {op : Op} {reply : op.Reply} {name : String}
    (step : pool.Executed answer k i draw op reply) (h : Decides userId name true ⟨op, reply⟩)
    (hkl : k < l) : Appointed pool l (userId, name) ∨ ∃ m < l, ∃ sub,
      Permission.usersAssignRoles.asStr ∈ (pool.storeAt m).permissionsFor sub ∧
      Conferred state pool l (userId, name) m (sub, Permission.usersAssignRoles.asStr) := by
  unfold Decides at h
  split at h
  · next columns hCall =>
      obtain ⟨hId, role, rfl, hGrants⟩ := h
      have did : Did pool k i _ columns := ⟨draw, step.of_call hCall⟩
      rcases run.inserted_by sound did with hRole | ⟨hRole, args, serves⟩
      · rw [number_injective hRole] at hGrants
        simp [Registry.grants] at hGrants
      · rw [hRole] at did
        exact .inl ⟨grants_known hGrants, k, hkl, i, args, _, _, _, _, columns, serves, did, hId⟩
  · next hCall =>
      obtain ⟨rfl, role, rfl, hGrants⟩ := h
      have did : Did pool k i (.updateRole (Registry.number role) _) () := ⟨draw, step.of_call hCall⟩
      obtain ⟨m, hmk, sub, acts⟩ := run.assigned_by did (.inl ⟨_, rfl⟩)
      obtain ⟨request, serves⟩ := run.serves did
      obtain ⟨authorization, body, rfl, _⟩ := run.allowed serves did
      have hRole := number_injective (run.number_of_saw sound (run.chosen serves did))
      refine .inr ⟨m, by omega, sub, acts.permitted, rfl, k, i, hmk, hkl, acts,
        .inl ⟨authorization, role, ?_, did, hGrants⟩⟩
      rwa [hRole]
  · next hCall =>
      obtain ⟨rfl, rfl, rfl⟩ := h
      have did : Did pool k i (.grantPermission _ _ true) () := ⟨draw, step.of_call hCall⟩
      obtain ⟨m, hmk, sub, acts⟩ := run.assigned_by did (.inr ⟨_, _, rfl⟩)
      obtain ⟨request, serves⟩ := run.serves did
      obtain ⟨authorization, rfl, _⟩ := run.allowed serves did
      exact .inr ⟨m, by omega, sub, acts.permitted, rfl, k, i, hmk, hkl, acts,
        .inr ⟨authorization, serves, did⟩⟩
  · exact h.elim

/-- A permission that is held was given in an appointment, or by someone who could
assign roles before. -/
theorem ServerRun.held_from (run : ServerRun state migrated pool) {name : String}
    (h : name ∈ (pool.storeAt l).permissionsFor userId) :
    Appointed pool l (userId, name) ∨ ∃ m < l, ∃ held : Uuid × String,
      held.2 ∈ (pool.storeAt m).permissionsFor held.1 ∧
      Conferred state pool l (userId, name) m held := by
  have hPermits := (mem_permissionsFor_iff (run.sound_at migrated_sound l)).mp h
  obtain ⟨k, hkl, i, draw, op, reply, step, hBefore, hAfter⟩ := run.brought
    (fun db => db.registry.permits userId name = true)
    (by simp [migrated_registry, Registry.permits, Registry.empty]) hPermits
  have decides := (permits_step (answer_refines.executed run migrated_sound step)).resolve_left
    (fun hSame => hBefore (hSame.symm.trans hAfter))
  rw [hAfter] at decides
  rcases run.conferred_by migrated_sound step decides hkl with appointed |
    ⟨m, hml, sub, hSub, conferred⟩
  · exact .inl appointed
  · exact .inr ⟨m, hml, _, hSub, conferred⟩

/-- Each permission that anybody has was given by a request for someone who could
assign roles when the request asked. These could do so for the same reason, and
at the end of the chain stands an account of the create-admin command. -/
theorem authority_rooted (run : ServerRun state migrated pool) {name : String}
    (h : name ∈ (pool.storeAt l).permissionsFor userId) :
    Rooted (Appointed pool) (Conferred state pool) l (userId, name) :=
  rooted_of_steps (fun l held => held.2 ∈ (pool.storeAt l).permissionsFor held.1)
    (fun _ _ held => run.held_from held) h

/-! ### Without administrators -/

/-- The statements of the guarded requests. -/
def Op.administers : Op → Bool
  | .sql (.updateRole ..) | .sql (.updateActive ..) | .sql (.grantPermission ..) => true
  | _ => false

/-- Without the create-admin command nobody has a permission. -/
theorem ServerRun.powerless (run : ServerRun state migrated pool)
    (hNone : ∀ i args, ¬pool.Serves i (.createAdmin args)) (l : Nat) (userId : Uuid) :
    (pool.storeAt l).permissionsFor userId = [] := by
  apply List.eq_nil_iff_forall_not_mem.mpr
  intro name hMem
  have rooted : Rooted (Appointed pool) (Conferred state pool) l (userId, name) :=
    rooted_of_steps (fun l held => held.2 ∈ (pool.storeAt l).permissionsFor held.1)
      (fun _ _ held => run.held_from held) hMem
  obtain ⟨_, _, _, _, _, _, i, args, _, _, _, _, _, serves, _⟩ := rooted.exists_root
  exact hNone i args serves

theorem ServerRun.not_administers (run : ServerRun state migrated pool)
    (hNone : ∀ i args, ¬pool.Serves i (.createAdmin args)) {k : Nat} {draw : Draw} {op : Op}
    {reply : op.Reply} (step : pool.Executed answer k i draw op reply) : op.administers = false := by
  by_contra hAdministers
  rw [Bool.not_eq_false] at hAdministers
  obtain ⟨request, serves, allowed⟩ := Runs.allowed (handle_obeys state) run step
  obtain ⟨authorization, p, hHeader, authorised⟩ : ∃ authorization p,
      authorizationOf request = some authorization ∧
        Authorised state (past answer (pool.log.take k) i) authorization p := by
    unfold Op.administers at hAdministers
    split at hAdministers
    · obtain ⟨authorization, body, rfl, authorised⟩ := allowed
      exact ⟨authorization, _, rfl, authorised⟩
    · obtain ⟨authorization, rfl, authorised⟩ := allowed
      exact ⟨authorization, _, rfl, authorised⟩
    · obtain ⟨authorization, rfl, authorised⟩ := allowed
      exact ⟨authorization, _, rfl, authorised⟩
    · cases hAdministers
  obtain ⟨_, _, _, acts⟩ := run.actsFor serves hHeader authorised
  have hMem := acts.permitted
  rw [run.powerless hNone] at hMem
  cases hMem

theorem ServerRun.admin_fails (run : ServerRun state migrated pool)
    (hNone : ∀ i args, ¬pool.Serves i (.createAdmin args)) {request : Request}
    {authorization : Option String} {p : Permission} {outcome : Outcome}
    (hCall : adminCall request = some (authorization, p))
    (returned : pool.Returned i request outcome) : ∃ stop, outcome = .error stop := by
  cases outcome with
  | error stop => exact ⟨stop, rfl⟩
  | ok payload =>
      obtain ⟨_, _, _, l, sub, _, _, _, hMem⟩ := run.letIn returned hCall
      rw [run.powerless hNone] at hMem
      cases hMem

/-- As long as the create-admin command is not used, nobody can do anything that
needs a permission: such statements are not even tried. -/
theorem powerless_without_admin (run : ServerRun state migrated pool)
    (hNone : ∀ i args, ¬pool.Serves i (.createAdmin args)) :
    (∀ l userId, (pool.storeAt l).permissionsFor userId = []) ∧
    (∀ k i draw op reply, pool.Executed answer k i draw op reply → op.administers = false) ∧
    ∀ i request authorization p outcome, adminCall request = some (authorization, p) →
      pool.Returned i request outcome → ∃ stop, outcome = .error stop :=
  ⟨run.powerless hNone, fun _ _ _ _ _ step => run.not_administers hNone step,
    fun _ _ _ _ _ hCall returned => run.admin_fails hNone hCall returned⟩

end Runs

/-! ### Runs of the reference instance -/

section Example

attribute [local instance] reference

/-- An administrator makes a new user a moderator. -/
def promotion : ServerPool :=
  Pool.play answer (handle exampleState) migrated
    (.arrive (.createAdmin ⟨"admin@example.org", "password"⟩) :: steps 0 0 4 ++
      .arrive (.register ⟨"user@example.org", "password", none⟩) :: steps 1 20 14 ++
      .arrive (.setRole (some (headerFor firstAdmin .admin 41)) (moment 22).uuid ⟨.moderator⟩) ::
        steps 2 60 6)

theorem authority_rooted_promotion :
    Permission.usersRead.asStr ∈ promotion.store.permissionsFor (moment 22).uuid ∧
      Rooted (Appointed promotion) (Conferred exampleState promotion) promotion.log.length
        ((moment 22).uuid, Permission.usersRead.asStr) := by
  have hMem : Permission.usersRead.asStr ∈ promotion.store.permissionsFor (moment 22).uuid := by
    decide +kernel
  have run : ServerRun exampleState migrated promotion := Runs.play _
  refine ⟨hMem, authority_rooted run ?_⟩
  rwa [Pool.storeAt_end (Nat.le_refl _)]

/-- A new user asks for the list of the users. -/
def listingAttempt : ServerPool :=
  Pool.play answer (handle exampleState) migrated (registration ++
    .arrive (.listUsers (some (headerFor (moment 2).uuid .user 6)) ⟨10, 0⟩) :: steps 1 20 6)

/-- Without an administrator the user, who is known, sees nothing. -/
theorem powerless_without_admin_registered :
    listingAttempt.store.hasUser (moment 2).uuid = true ∧
    (∀ l userId, (listingAttempt.storeAt l).permissionsFor userId = []) ∧
    ∃ (authorization : Option String) (page : Page) (stop : Stop),
      Presents exampleState authorization (moment 20).now (moment 2).uuid ∧
      listingAttempt.Returned 1 (.listUsers authorization page) (.error stop) := by
  have run : ServerRun exampleState migrated listingAttempt := Runs.play _
  have hNone : ∀ i args, ¬listingAttempt.Serves i (.createAdmin args) := by
    intro i args serves
    have hOnly : listingAttempt.clients.map Client.request =
        [.register ⟨"user@example.org", "password", none⟩,
          .listUsers (some (headerFor (moment 2).uuid .user 6)) ⟨10, 0⟩] := by
      decide +kernel
    have hClient : listingAttempt.clients[i]?.map Client.request = some (.createAdmin args) :=
      serves
    rw [← List.getElem?_map, hOnly] at hClient
    rcases i with _ | _ | i <;> simp at hClient
  have answered : (listingAttempt.finished 1).map Prod.fst =
      some (.listUsers (some (headerFor (moment 2).uuid .user 6)) ⟨10, 0⟩) := by
    decide +kernel
  obtain ⟨powerless, _, fails⟩ := powerless_without_admin run hNone
  obtain ⟨⟨request, outcome⟩, hFinished, rfl⟩ := Option.map_eq_some_iff.mp answered
  have returned := Pool.finished_iff.mp hFinished
  obtain ⟨stop, rfl⟩ := fails 1 _ _ _ _ rfl returned
  exact ⟨by decide +kernel, powerless, _, _, stop, presents_of_acceptedAt (by decide +kernel), returned⟩

end Example

end GenericAuth
