import GenericAuth.Properties.Authority
import GenericAuth.Properties.EmailProvenance

/-! No privilege escalation by overlapping requests. People who may not assign
roles change nobody's permissions, in whatever order the operations of their
requests meet, and whichever of these fail. -/
namespace GenericAuth

open Interaction Relational

section Coalition

variable [External] {state : AppState} {start : Db} {pool : ServerPool} {members : Set Uuid}
    {k i : Nat}

/-- An HTTP request whose access token, whenever it is checked, belongs to a member
or to nobody who was there at the start. -/
structure OfCoalition (state : AppState) (start : Db) (members : Set Uuid) (request : Request) :
    Prop where
  http : overHttp request = true
  bearer : ∀ authorization now sub, authorizationOf request = some authorization →
    Presents state authorization now sub → sub ∈ members ∨ start.hasUser sub = false

/-- Nobody acts for someone who may assign roles, as long as the permissions are
those of the start. -/
theorem ActsFor.excluded {m : Nat} {sub : Uuid} (sound : start.Sound)
    (hMembers : ∀ u ∈ members, Permission.usersAssignRoles.asStr ∉ start.permissionsFor u)
    (coalition : ∀ i request, pool.Serves i request → OfCoalition state start members request)
    (hKept : ∀ name, name ∈ (pool.storeAt m).permissionsFor sub ↔ name ∈ start.permissionsFor sub)
    (acts : ActsFor state pool m i sub .usersAssignRoles) : False := by
  have hPermitted := (hKept _).mp acts.permitted
  obtain ⟨authorization, request, _, _, now, serves, hHeader, _, presents⟩ := acts.presents
  rcases (coalition i request serves).bearer authorization now sub hHeader presents with
    member | hAbsent
  · exact hMembers sub member hPermitted
  · rw [permissionsFor_of_none sound.granted hAbsent] at hPermitted
    cases hPermitted

/-- A step settles a permission of a new account only, which then has none. -/
theorem ServerRun.decides_new (run : ServerRun state start pool) (sound : start.Sound)
    (coalition : ∀ i request, pool.Serves i request → OfCoalition state start members request)
    (hIdle : ∀ m < k, ∀ sub, ¬ActsFor state pool m i sub .usersAssignRoles) {draw : Draw} {op : Op}
    {reply : op.Reply} {userId : Uuid} {name : String} {value : Bool}
    (step : pool.Executed answer k i draw op reply) (h : Decides userId name value ⟨op, reply⟩) :
    value = false ∧ (pool.storeAt k).hasUser userId = false := by
  unfold Decides at h
  split at h
  · next columns hCall =>
      obtain ⟨rfl, role, rfl, hGrants⟩ := h
      have did : Did pool k i _ columns := ⟨draw, step.of_call hCall⟩
      rcases run.inserted_by sound did with hRole | ⟨_, args, serves⟩
      · obtain ⟨_, hNew, _, _, _, hColumns, _⟩ := run.does sound did
        rw [number_injective hRole] at hGrants
        refine ⟨hGrants.symm.trans (by rfl), ?_⟩
        rw [← registry_hasUser, hColumns]
        exact Option.isSome_eq_false_iff.mpr (Option.isNone_iff_eq_none.mpr hNew)
      · cases (coalition i _ serves).http
  · next hCall =>
      obtain ⟨m, hmk, sub, acts⟩ := run.assigned_by ⟨draw, step.of_call hCall⟩ (.inl ⟨_, rfl⟩)
      exact absurd acts (hIdle m hmk sub)
  · next hCall =>
      obtain ⟨m, hmk, sub, acts⟩ := run.assigned_by ⟨draw, step.of_call hCall⟩ (.inr ⟨_, _, rfl⟩)
      exact absurd acts (hIdle m hmk sub)
  · exact h.elim

theorem ServerRun.permissions_kept (run : ServerRun state start pool) (sound : start.Sound)
    (hMembers : ∀ u ∈ members, Permission.usersAssignRoles.asStr ∉ start.permissionsFor u)
    (coalition : ∀ i request, pool.Serves i request → OfCoalition state start members request)
    (k : Nat) (userId : Uuid) (name : String) :
    name ∈ (pool.storeAt k).permissionsFor userId ↔ name ∈ start.permissionsFor userId := by
  induction k using Nat.strong_induction_on generalizing userId name with
  | h k ih =>
      cases k with
      | zero => rw [run.storeAt_zero]
      | succ k =>
          rw [← ih k (Nat.lt_succ_self k) userId name]
          cases hEvent : pool.log[k]? with
          | none =>
              have hEnd := List.getElem?_eq_none_iff.mp hEvent
              rw [Pool.storeAt_end (Nat.le_succ_of_le hEnd), Pool.storeAt_end hEnd]
          | some event =>
              have step := run.executed hEvent
              rw [mem_permissionsFor_iff (run.sound_at sound (k + 1)),
                mem_permissionsFor_iff (run.sound_at sound k)]
              rcases permits_step (answer_refines.executed run sound step) with hSame | decides
              · rw [hSame]
              -- Nobody has been let in, so this is the first role of a new account.
              have hIdle (m : Nat) (hm : m < k) (sub : Uuid) :
                  ¬ActsFor state pool m event.client sub .usersAssignRoles :=
                fun acts => acts.excluded sound hMembers coalition (ih m (by omega) sub)
              obtain ⟨hNone, hAbsent⟩ := run.decides_new sound coalition hIdle step decides
              rw [hNone, ← mem_permissionsFor_iff (run.sound_at sound k),
                permissionsFor_of_none (run.sound_at sound k).granted hAbsent]
              simp

/-- Whatever requests a coalition sends that may not assign roles, and however
their operations interleave, at every moment everybody has exactly the permissions
of the start, and new accounts have none. -/
theorem no_escalation_interleaved {earlier : ServerPool}
    (reached : ServerRun state migrated earlier) (run : ServerRun state earlier.store pool)
    (hMembers : ∀ u ∈ members, Permission.usersAssignRoles.asStr ∉ earlier.store.permissionsFor u)
    (coalition : ∀ i request, pool.Serves i request →
      OfCoalition state earlier.store members request) (k : Nat) :
    (∀ userId name, name ∈ (pool.storeAt k).permissionsFor userId ↔
      name ∈ earlier.store.permissionsFor userId) ∧
    ∀ userId, earlier.store.hasUser userId = false →
      (pool.storeAt k).permissionsFor userId = [] := by
  have sound : earlier.store.Sound := reached.invariant_end migrated_sound answer_sound
  have kept := run.permissions_kept sound hMembers coalition k
  refine ⟨kept, fun userId hAbsent => List.eq_nil_iff_forall_not_mem.mpr fun name hMem => ?_⟩
  have hStart := (kept userId name).mp hMem
  rw [permissionsFor_of_none sound.granted hAbsent] at hStart
  cases hStart

end Coalition

/-! ### Runs of the reference instance -/

section Example

attribute [local instance] reference

/-- A user registers another account while they try to become an administrator. -/
def climbers : ServerPool :=
  Pool.play answer (handle exampleState) registered.store
    (.arrive (.setRole (some userHeader) firstUser ⟨.admin⟩) ::
      .arrive (.register ⟨"other@example.org", "password", none⟩) ::
        steps 1 60 5 ++ steps 0 80 4 ++ steps 1 90 9)

theorem no_escalation_climbers : climbers.log.length = 16 ∧
    ∀ userId name, name ∈ (climbers.storeAt 16).permissionsFor userId ↔
      name ∈ registered.store.permissionsFor userId := by
  have hClients : climbers.clients.map Client.request =
      [.setRole (some userHeader) firstUser ⟨.admin⟩,
        .register ⟨"other@example.org", "password", none⟩] := by decide +kernel
  have powerless : Permission.usersAssignRoles.asStr ∉ registered.store.permissionsFor firstUser := by
    decide +kernel
  have hSubject : subjectOf userHeader = some firstUser := by decide +kernel
  have run : ServerRun exampleState registered.store climbers := Runs.play _
  have coalition (i : Nat) (request : Request) (serves : climbers.Serves i request) :
      OfCoalition exampleState registered.store {firstUser} request := by
    have hMem := serves_mem serves
    rw [hClients] at hMem
    rcases hMem with _ | ⟨_, _ | ⟨_, ⟨⟩⟩⟩
    · refine ⟨rfl, ?_⟩
      rintro authorization now sub ⟨⟩ presents
      exact .inl (Option.some.inj ((subjectOf_of_presents presents).symm.trans hSubject))
    · exact ⟨rfl, by rintro authorization now sub ⟨⟩⟩
  refine ⟨by decide +kernel, (no_escalation_interleaved registered_run run (fun u member => ?_)
    coalition 16).1⟩
  rwa [Set.mem_singleton_iff.mp member]

end Example

end GenericAuth
