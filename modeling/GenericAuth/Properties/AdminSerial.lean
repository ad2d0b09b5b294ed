import GenericAuth.Api.Admin
import GenericAuth.Auth.Reference
import GenericAuth.Interaction.Serial
import Mathlib.Data.List.Permutation

/-! Concurrent requests of administrators. The permissions are loaded before the
write and not looked at again, so a request may act on a permission that another
one has taken away. Where this does not happen, the requests might as well have
come one after the other, in the order of their last statements. -/
namespace GenericAuth

open Interaction Relational

section Serial

variable [External] {state : AppState} {start : Db} {pool : ServerPool} {request : Request}
    {authorization : Option String} {p : Permission}

/-! ### The statements of a request -/

/-- The replies after which a request goes on. -/
inductive Proceeds (p : Permission) : (op : Op) → op.Reply → Prop where
  | nowUtc (now : OffsetDateTime) : Proceeds p .nowUtc now
  | caller (id : Uuid) {found : UserRecord} (h : found.emailVerified = true) :
      Proceeds p (.sql (.findById id)) (.ok (some found))
  | names (id : Uuid) {names : List String} (h : names.contains p.asStr = true) :
      Proceeds p (.sql (.permissionsFor id)) (.ok names)
  | role (name : String) (roleId : Nat) : Proceeds p (.sql (.roleIdFor name)) (.ok (some roleId))

/-- Replies after which it goes on in the same way. -/
inductive Alike (p : Permission) : (op : Op) → op.Reply → op.Reply → Prop where
  | same (op : Op) (reply : op.Reply) : Alike p op reply reply
  | caller (id : Uuid) {found found' : UserRecord} (h : found.emailVerified = true)
      (h' : found'.emailVerified = true) :
      Alike p (.sql (.findById id)) (.ok (some found)) (.ok (some found'))
  | names (id : Uuid) {names names' : List String} (h : names.contains p.asStr = true)
      (h' : names'.contains p.asStr = true) :
      Alike p (.sql (.permissionsFor id)) (.ok names) (.ok names')

theorem authUser_stable (state : AppState) (authorization : Option String) :
    (authUser state authorization).run.Stable (Alike p) := by
  unfold authUser
  cases authorization with
  | none => trivial
  | some header =>
      cases hToken : (stripPrefix "Bearer " header).map trim with
      | none => simp [hToken]
      | some token =>
          simp [hToken]
          rintro first _ ⟨⟩
          rfl

theorem authorize_stable (state : AppState) (authorization : Option String) (p : Permission) :
    (authorize state authorization p).run.Stable (Alike p) := by
  simp [authorize, verifiedUser, ExceptT.run_bind]
  apply (authUser_stable state authorization).bind
  intro result
  cases result with
  | error e => trivial
  | ok auth =>
      refine ⟨fun first second alike => ?_, fun reply => ?_⟩
      · cases alike with
        | same => rfl
        | caller id h h' => simp [UserRecord.toUser, h, h']
      · rcases reply with e | (_ | found)
        · trivial
        · trivial
        · by_cases hVerified : found.toUser.emailVerified = true
          · simp only [mapError_ok, map_ok, Option.map_some, hVerified, if_true]
            refine ⟨fun first second alike => ?_, fun reply => ?_⟩
            · cases alike with
              | same => rfl
              | names id h h' => simp [List.contains_iff_mem.mp h, List.contains_iff_mem.mp h']
            · cases reply <;> trivial
          · simp only [mapError_ok, map_ok, Option.map_some, hVerified]
            trivial

theorem admin_stable (hCall : adminCall request = some (authorization, p)) :
    (handle state request).Stable (Alike p) := by
  rw [handle_admin hCall, ExceptT.run_bind]
  apply (authorize_stable state authorization p).bind
  intro result
  cases result with
  | error stop => trivial
  | ok _ =>
      cases request with
      | listUsers authorization page =>
          exact ⟨fun _ _ alike => by cases alike; rfl, fun reply => by cases reply <;> trivial⟩
      | setRole authorization id body =>
          refine ⟨fun _ _ alike => by cases alike; rfl, fun reply => ?_⟩
          rcases reply with e | (_ | roleId)
          · trivial
          · trivial
          · exact ⟨fun _ _ alike => by cases alike; rfl, fun reply => by cases reply <;> trivial⟩
      | setActive authorization id body =>
          exact ⟨fun _ _ alike => by cases alike; rfl, fun reply => by cases reply <;> trivial⟩
      | grantPermission authorization id body =>
          refine ⟨fun _ _ alike => by cases alike; rfl, fun reply => ?_⟩
          rcases reply with e | _ <;> trivial
      | _ => cases hCall

/-- Every call but the last is one of these. -/
def Proceeding (p : Permission) (calls : Calls) (_ : Op) : Prop :=
  ∀ call ∈ calls, Proceeds p call.op call.reply

theorem AuthorizeCourse.proceeds {calls : Calls} {result : Except Stop Unit}
    (course : AuthorizeCourse state authorization p calls result) :
    Asks (Proceeding p) [] calls := by
  cases course with
  | refused user =>
      cases user with
      | refused auth => cases auth <;> simp [Proceeding]
      | _ => simp [Proceeding, Proceeds.nowUtc]
  | @failed now sub presents found verified =>
      simp [Proceeding, Proceeds.nowUtc, Proceeds.caller sub verified]
  | @forbidden now sub presents found verified =>
      simp [Proceeding, passing, Proceeds.nowUtc, Proceeds.caller sub verified]
  | @passed now sub found names passes =>
      simp [Proceeding, passing, Proceeds.nowUtc, Proceeds.caller sub passes.verified]

theorem AdminCourse.proceeds {calls : Calls} {outcome : Outcome}
    (course : AdminCourse state request authorization p calls outcome) :
    Asks (Proceeding p) [] calls := by
  cases course with
  | refused caller => exact caller.proceeds
  | @passed now sub found names passes more outcome work =>
      have proceeding : ∀ call ∈ passing now sub found names, Proceeds p call.op call.reply := by
        simp [passing, Proceeds.nowUtc, Proceeds.caller sub passes.verified,
          Proceeds.names sub passes.permitted]
      refine (asks_append ..).mpr ⟨(AuthorizeCourse.passed passes).proceeds, ?_⟩
      cases work with
      | roleNotSet authorization id body roleId | roleSet authorization id body roleId =>
          refine ⟨proceeding, fun call hMem => ?_, trivial⟩
          rcases List.mem_append.mp hMem with hMem | hMem
          · exact proceeding call hMem
          · rw [List.mem_singleton.mp hMem]
            exact .role _ roleId
      | _ => exact ⟨proceeding, trivial⟩

/-! ### Concurrent requests -/

/-- All clients are requests to admin routes. -/
def AdminOnly (pool : ServerPool) : Prop :=
  ∀ i request, pool.Serves i request → ∃ authorization p, adminCall request = some (authorization, p)

/-- A permission that a request was let in with is still there at its last statement. -/
def Upheld (pool : ServerPool) : Prop :=
  ∀ k l i request authorization p sub names, pool.Ends k i → l < k → pool.Serves i request →
    adminCall request = some (authorization, p) → Did pool l i (.permissionsFor sub) names →
    names.contains p.asStr = true → ((pool.storeAt k).permissionsFor sub).contains p.asStr = true

/-- What is known before each step of a client. -/
def proceedingFor (request : Request) : Calls → Op → Prop :=
  match adminCall request with
  | some (_, p) => Proceeding p
  | none => Unrestricted

/-- Which replies make no difference to a client. -/
def alikeFor (request : Request) : (op : Op) → op.Reply → op.Reply → Prop :=
  match adminCall request with
  | some (_, p) => Alike p
  | none => fun _ first second => first = second

theorem handle_proceeds (state : AppState) (request : Request) :
    (handle state request).Obeys (proceedingFor request) (fun _ _ => True) [] := by
  unfold proceedingFor
  split
  · next hCall =>
      exact (admin_course state hCall).obeys fun _ _ course => ⟨course.proceeds, trivial⟩
  · exact Program.obeys_of_always (fun _ _ => trivial) (fun _ _ => trivial) _ _

/-- Each step of a client but its last is one after which the request goes on. -/
theorem ServerRun.proceeds (run : ServerRun state start pool) {k l i : Nat} {draw draw' : Draw}
    {op op' : Op} {reply : op.Reply} {reply' : op'.Reply} (h : l < k)
    (serves : pool.Serves i request) (hCall : adminCall request = some (authorization, p))
    (first : pool.Executed answer l i draw op reply)
    (second : pool.Executed answer k i draw' op' reply') : Proceeds p op reply := by
  obtain ⟨request', serves', allowed⟩ := Runs.allowed (handle_proceeds state) run second
  rw [serves'.unique serves] at allowed
  simp only [proceedingFor, hCall] at allowed
  exact allowed _ (first.mem_past h)

theorem Proceeds.reads {op : Op} {reply : op.Reply} (proceeds : Proceeds p op reply) (draw : Draw)
    (db : Db) : (answer draw db op).2 = db := by
  cases proceeds <;> exact wrote_quiet draw db _ rfl

/-- A statement that succeeded once finds the tables also at another time. -/
theorem answer_again {draw : Draw} {db after : Db} {statement : Statement} {rows : statement.Rows}
    (h : answer draw db (.sql statement) = (.ok rows, after)) (later : Db) :
    answer draw later (.sql statement) = later.exec draw statement := by
  refine answer_sql ?_ statement
  cases hFault : draw.fault with
  | none => rfl
  | some error => simp [answer_of_fault hFault] at h

/-- In a later store the reply is alike, unless the permission is gone. -/
theorem Proceeds.again {draw : Draw} {db later after : Db} {op : Op} {reply : op.Reply}
    (proceeds : Proceeds p op reply) (h : answer draw db op = (reply, after))
    (hLater : db.Later later) (refs : later.References)
    (upheld : ∀ sub, op = .sql (.permissionsFor sub) →
      (later.permissionsFor sub).contains p.asStr = true) :
    Alike p op reply (answer draw later op).1 := by
  cases proceeds with
  | nowUtc now =>
      obtain ⟨rfl, _⟩ := Prod.mk.inj h
      exact .same _ _
  | @caller id found hVerified =>
      obtain ⟨row, hMem, hId, hColumns⟩ := findById_reply h
      obtain ⟨row', hMem', change⟩ := hLater.users row hMem
      obtain ⟨found', hFound, _⟩ :=
        refs.findById (hasUser_iff.mpr ⟨row', hMem', change.id.trans hId⟩)
      obtain ⟨row'', hMem'', hId'', hColumns'⟩ := findById_db hFound
      obtain rfl := userRow_unique hMem'' hMem' (hId''.trans (change.id.trans hId).symm)
      rw [answer_again h]
      simp only [Db.exec, hFound]
      refine .caller id hVerified ?_
      rw [hColumns] at hVerified
      rw [hColumns']
      exact change.emailVerified hVerified
  | names id hNames =>
      rw [answer_again h]
      exact .names id hNames (upheld id rfl)
  | role name roleId =>
      rw [answer_again h]
      have hExec := congrArg Prod.fst (exec_of_answer h)
      simp only [Db.exec, Db.roleIdFor, hLater.roles] at hExec ⊢
      rw [hExec]
      exact .same _ _

theorem ServerRun.movable (run : ServerRun state start pool) (refs : start.References)
    (admin : AdminOnly pool)
    (finished : ∀ i < pool.clients.length, ∃ request outcome, pool.Returned i request outcome)
    (upheld : Upheld pool) : Movable answer (handle state) alikeFor pool where
  finished := finished
  stable i request serves := by
    obtain ⟨authorization, p, hCall⟩ := admin i request serves
    simp only [alikeFor, hCall]
    exact admin_stable hCall
  quiet k l i draw draw' op op' reply reply' h first second := by
    obtain ⟨request, serves, _⟩ := Runs.allowed (handle_obeys state) run second
    obtain ⟨authorization, p, hCall⟩ := admin i request serves
    rw [← first.after_eq]
    exact (run.proceeds h serves hCall first second).reads draw _
  again k l i request draw op reply ends h serves step := by
    obtain ⟨authorization, p, hCall⟩ := admin i request serves
    obtain ⟨event, hEvent, rfl⟩ := Option.map_eq_some_iff.mp ends.step
    have proceeds := run.proceeds h serves hCall step (run.executed hEvent)
    simp only [alikeFor, hCall]
    refine ⟨proceeds.reads draw _, proceeds.again step.effect (run.later (Nat.le_of_lt h))
      (run.references_at refs k) ?_⟩
    rintro sub rfl
    cases proceeds with
    | names _ hNames =>
        exact upheld k l _ request authorization p sub _ ends h serves hCall ⟨draw, step⟩ hNames

/-- The caller had the permission when the request loaded it. -/
def LetIn (state : AppState) (pool : ServerPool) (i : Nat) (authorization : Option String)
    (p : Permission) : Prop :=
  ∃ m draw now l sub, pool.Executed answer m i draw .nowUtc now ∧
    Presents state authorization now sub ∧
    Did pool l i (.permissionsFor sub) ((pool.storeAt l).permissionsFor sub) ∧
    ((pool.storeAt l).permissionsFor sub).contains p.asStr = true

theorem ServerRun.letIn (run : ServerRun state start pool) {i : Nat} {payload : Payload}
    (returned : pool.Returned i request (.ok payload))
    (hCall : adminCall request = some (authorization, p)) : LetIn state pool i authorization p := by
  have course := (run.course returned).admin hCall
  generalize hCalls : past answer pool.log i = calls at course
  cases course with
  | @passed now sub found names passes more _ work =>
      have own : passing now sub found names ⊆ past answer pool.log i := by
        rw [hCalls]
        exact List.subset_append_left _ _
      obtain ⟨m, draw, hNow⟩ := run.executed_of_past_full (own (by simp [passing] :
        (⟨.nowUtc, now⟩ : Call Op Op.Reply) ∈ _))
      obtain ⟨l, draw', hNames⟩ := run.executed_of_past_full (own (by simp [passing] :
        (⟨.sql (.permissionsFor sub), .ok names⟩ : Call Op Op.Reply) ∈ _))
      have hExec := Except.ok.inj (congrArg Prod.fst (exec_of_answer hNames.effect))
      subst hExec
      exact ⟨m, draw, now, l, sub, hNow, passes.presents, ⟨draw', hNames⟩, passes.permitted⟩

/-! ### Roles set by one request alone -/

/-- A request that succeeds alone had its caller's permission, and set the role. -/
theorem setRole_alone {id : Uuid} {body : SetRoleReq} {draws : Stream' Draw} {db : Db}
    {payload : Payload}
    (h : outcomeOf (handle state (.setRole authorization id body)) draws db = .ok payload) :
    ∃ now sub draw roleId, Presents state authorization now sub ∧
      (db.permissionsFor sub).contains Permission.usersAssignRoles.asStr = true ∧
      db.roleIdFor body.role.asStr = some roleId ∧
      storeAfter (handle state (.setRole authorization id body)) draws db =
        (db.updateRole draw roleId id).2 := by
  have course := course_alone state (.setRole authorization id body) draws db
  have traced := traced_callsOf (handle state (.setRole authorization id body)) draws db
  rw [h] at course
  generalize callsOf (handle state (.setRole authorization id body)) draws db = calls
    at course traced
  cases course with
  | @passed now sub found names passes more _ work =>
      cases work with
      | roleSet _ _ _ roleId =>
          obtain ⟨_, _, traced⟩ := traced.of_cons_quiet wrote_quiet rfl
          obtain ⟨_, _, traced⟩ := traced.of_cons_quiet wrote_quiet rfl
          obtain ⟨_, hNames, traced⟩ := traced.of_cons_quiet wrote_quiet rfl
          obtain ⟨_, hRole, traced⟩ := traced.of_cons_quiet wrote_quiet rfl
          obtain ⟨draw, _, hUpdate, traced⟩ := traced.of_cons
          obtain rfl := traced.eq_of_nil
          have hOwn : db.permissionsFor sub = names :=
            Except.ok.inj (congrArg Prod.fst (exec_of_answer hNames))
          refine ⟨now, sub, draw, roleId, passes.presents, ?_,
            Except.ok.inj (congrArg Prod.fst (exec_of_answer hRole)),
            (congrArg Prod.snd (exec_of_answer hUpdate)).symm⟩
          rw [hOwn]
          exact passes.permitted

/-- The time of an update does not matter for permissions. -/
theorem permissionsFor_updateRole (draw draw' : Draw) (db : Db) (roleId : Nat) (id sub : Uuid) :
    (db.updateRole draw roleId id).2.permissionsFor sub =
      (db.updateRole draw' roleId id).2.permissionsFor sub := by
  unfold Db.updateRole
  split
  · rfl
  · have same : (db.updateUsers id (fun row => { row with roleId, updatedAt := draw.dbNow })
          fun _ _ => ⟨rfl, rfl⟩).rolePerms sub =
        (db.updateUsers id (fun row => { row with roleId, updatedAt := draw'.dbNow })
          fun _ _ => ⟨rfl, rfl⟩).rolePerms sub := by
      change List.flatMap _ (List.filter _ (List.map _ db.users.rows)) =
        List.flatMap _ (List.filter _ (List.map _ db.users.rows))
      rw [List.filter_map, List.filter_map, List.flatMap_map, List.flatMap_map]
      congr 1
      · funext row
        by_cases h : row.id = id
        · simp only [h, beq_self_eq_true, if_true]
          rfl
        · simp only [h, beq_iff_eq, if_false]
          rfl
      · apply List.filter_congr
        intro row _
        by_cases h : row.id = id <;> simp [h]
    simp only [Db.permissionsFor, same]
    rfl

/-! ### Serialisability -/

/-- Both succeed or neither does, and both are answered with 403 or neither is. -/
def SameVerdict (first second : Outcome) : Prop :=
  ((∃ payload, first = .ok payload) ↔ ∃ payload, second = .ok payload) ∧
  ((∃ e : AppError, first = .error (.err e) ∧ e.intoResponse.status = 403) ↔
    ∃ e : AppError, second = .error (.err e) ∧ e.intoResponse.status = 403)

/-- The same users and permissions, but for the times of updates. -/
def SameTables (first second : Db) : Prop :=
  (first.users.rows.map fun row => { row with updatedAt := 0 }) =
    (second.users.rows.map fun row => { row with updatedAt := 0 }) ∧
  first.userPermissions.rows = second.userPermissions.rows

/-- Whoever succeeds was let in with the permission. If permissions are upheld, the
requests might as well have come one after the other. -/
theorem admin_serialisable {earlier : ServerPool} (reached : ServerRun state migrated earlier)
    (run : ServerRun state earlier.store pool) (admin : AdminOnly pool)
    (finished : ∀ i < pool.clients.length, ∃ request outcome, pool.Returned i request outcome) :
    (∀ i request payload authorization p, pool.Returned i request (.ok payload) →
      adminCall request = some (authorization, p) → LetIn state pool i authorization p) ∧
    (Upheld pool → pool.Serialisable answer (handle state) Eq Eq earlier.store) := by
  have : Nonempty Draw := ⟨moment 0⟩
  refine ⟨fun i request payload authorization p returned hCall => run.letIn returned hCall,
    fun upheld => ?_⟩
  exact run.serialisable (run.movable reached.references admin finished upheld)

end Serial

/-! ### Runs of the reference instance -/

section Runs

attribute [local instance] reference

def secondAdmin : Uuid := (moment 12).uuid

/-- Two administrators, who have logged in. -/
def administered : ServerPool :=
  Pool.play answer (handle exampleState) migrated (
    [.arrive (.createAdmin ⟨"first@example.org", "password"⟩)] ++ steps 0 0 3 ++
    [.arrive (.createAdmin ⟨"second@example.org", "password"⟩)] ++ steps 1 10 3 ++
    [.arrive (.login ⟨"first@example.org", "password"⟩)] ++ steps 2 20 6 ++
    [.arrive (.login ⟨"second@example.org", "password"⟩)] ++ steps 3 30 6)

def firstHeader : String := headerFor firstAdmin .admin 21

def secondHeader : String := headerFor secondAdmin .admin 31

/-- Each takes the other's role away, and loads permissions before the other writes. -/
def crossing : ServerPool :=
  Pool.play answer (handle exampleState) administered.store (
    [.arrive (.setRole (some firstHeader) secondAdmin ⟨.user⟩),
      .arrive (.setRole (some secondHeader) firstAdmin ⟨.user⟩)] ++
    steps 0 40 3 ++ steps 1 50 3 ++ steps 0 60 2 ++ steps 1 70 2)

/-- In turn, the second request finds that its caller has lost the permission. -/
theorem not_in_turn {db : Db} {first second : String} {a b : Uuid} {draws draws' : Stream' Draw}
    {payload payload' : Payload} (hSubject : subjectOf second = some b)
    (hRole : db.roleIdFor Role.user.asStr = some 3)
    (hLost : ((db.updateRole (moment 0) 3 b).2.permissionsFor b).contains
      Permission.usersAssignRoles.asStr = false)
    (hFirst : outcomeOf (handle exampleState (.setRole (some first) b ⟨.user⟩)) draws db =
      .ok payload)
    (hSecond : outcomeOf (handle exampleState (.setRole (some second) a ⟨.user⟩)) draws'
      (storeAfter (handle exampleState (.setRole (some first) b ⟨.user⟩)) draws db) =
        .ok payload') : False := by
  obtain ⟨_, _, draw, roleId, _, _, hRoleId, hAfter⟩ := setRole_alone hFirst
  obtain ⟨_, sub, _, _, presents, hHeld, _⟩ := setRole_alone hSecond
  cases hRoleId.symm.trans hRole
  cases (subjectOf_of_presents presents).symm.trans hSubject
  rw [hAfter, permissionsFor_updateRole draw (moment 0), hLost] at hHeld
  cases hHeld

/-- Evaluates whether every client of a pool is a finished request to an admin route. -/
def adminsFinished (pool : ServerPool) : Bool :=
  (List.range pool.clients.length).all fun i =>
    match pool.finished i with
    | some (request, _) => (adminCall request).isSome
    | none => false

theorem finished_of_adminsFinished {pool : ServerPool} (h : adminsFinished pool = true) :
    AdminOnly pool ∧
      ∀ i < pool.clients.length, ∃ request outcome, pool.Returned i request outcome := by
  have clients (i : Nat) (hi : i < pool.clients.length) : ∃ request outcome,
      pool.Returned i request outcome ∧ (adminCall request).isSome = true := by
    have hClient := List.all_eq_true.mp h i (List.mem_range.mpr hi)
    split at hClient
    · next request outcome finished =>
        exact ⟨request, outcome, Pool.finished_iff.mp finished, hClient⟩
    · cases hClient
  refine ⟨fun i request serves => ?_, fun i hi => ?_⟩
  · obtain ⟨client, hClient, _⟩ := Option.map_eq_some_iff.mp serves
    obtain ⟨request', outcome, returned, hCall⟩ :=
      clients i (List.getElem?_eq_some_iff.mp hClient).1
    obtain rfl := returned.serves.unique serves
    obtain ⟨⟨authorization, p⟩, hCall⟩ := Option.isSome_iff_exists.mp hCall
    exact ⟨authorization, p, hCall⟩
  · obtain ⟨request, outcome, returned, _⟩ := clients i hi
    exact ⟨request, outcome, returned⟩

/-- No order allows two administrators to take each other's role away. -/
theorem not_serialisable {db : Db} {pool : ServerPool} {header header' : String} {a b : Uuid}
    (hLength : pool.clients.length = 2)
    (first : pool.Returned 0 (.setRole (some header) b ⟨.user⟩) (.ok .empty))
    (second : pool.Returned 1 (.setRole (some header') a ⟨.user⟩) (.ok .empty))
    (hSubject : subjectOf header = some a) (hSubject' : subjectOf header' = some b)
    (hRole : db.roleIdFor Role.user.asStr = some 3)
    (hLost : ((db.updateRole (moment 0) 3 a).2.permissionsFor a).contains
      Permission.usersAssignRoles.asStr = false)
    (hLost' : ((db.updateRole (moment 0) 3 b).2.permissionsFor b).contains
      Permission.usersAssignRoles.asStr = false) :
    ¬pool.Serialisable answer (handle exampleState) SameVerdict SameTables db := by
  rintro ⟨order, after, hOrder, serially, _⟩
  rw [hLength] at hOrder
  rcases List.perm_pair.mp hOrder with rfl | rfl
  · cases serially with
    | cons draws returned alone rest =>
        cases rest with
        | cons draws' returned' alone' _ =>
            obtain ⟨rfl, rfl⟩ := returned.unique first
            obtain ⟨rfl, rfl⟩ := returned'.unique second
            obtain ⟨payload, hFirst⟩ := alone.1.mpr ⟨_, rfl⟩
            obtain ⟨payload', hSecond⟩ := alone'.1.mpr ⟨_, rfl⟩
            exact not_in_turn hSubject' hRole hLost' hFirst hSecond
  · cases serially with
    | cons draws returned alone rest =>
        cases rest with
        | cons draws' returned' alone' _ =>
            obtain ⟨rfl, rfl⟩ := returned.unique second
            obtain ⟨rfl, rfl⟩ := returned'.unique first
            obtain ⟨payload, hFirst⟩ := alone.1.mpr ⟨_, rfl⟩
            obtain ⟨payload', hSecond⟩ := alone'.1.mpr ⟨_, rfl⟩
            exact not_in_turn hSubject hRole hLost hFirst hSecond

/-- Both of the crossing requests are answered before either could stop the other. -/
theorem crossing_finished : crossing.clients.length = 2 ∧
    crossing.finished 0 =
      some (.setRole (some firstHeader) secondAdmin ⟨.user⟩, .ok .empty) ∧
    crossing.finished 1 =
      some (.setRole (some secondHeader) firstAdmin ⟨.user⟩, .ok .empty) ∧
    adminsFinished crossing = true := by decide +kernel

theorem administered_subjects :
    subjectOf firstHeader = some firstAdmin ∧ subjectOf secondHeader = some secondAdmin := by
  decide +kernel

/-- An administrator who becomes a user may not assign roles any more. -/
theorem administered_demoted : administered.store.roleIdFor Role.user.asStr = some 3 ∧
    ((administered.store.updateRole (moment 0) 3 firstAdmin).2.permissionsFor
      firstAdmin).contains Permission.usersAssignRoles.asStr = false ∧
    ((administered.store.updateRole (moment 0) 3 secondAdmin).2.permissionsFor
      secondAdmin).contains Permission.usersAssignRoles.asStr = false := by decide +kernel

/-- Both of the crossing requests succeed. -/
theorem crossing_not_serialisable : ∃ earlier pool : ServerPool,
    ServerRun exampleState migrated earlier ∧ ServerRun exampleState earlier.store pool ∧
      AdminOnly pool ∧
      (∀ i < pool.clients.length, ∃ request outcome, pool.Returned i request outcome) ∧
      ¬pool.Serialisable answer (handle exampleState) SameVerdict SameTables earlier.store := by
  obtain ⟨hLength, first, second, hAdmins⟩ := crossing_finished
  obtain ⟨admin, finished⟩ := finished_of_adminsFinished hAdmins
  obtain ⟨hSubject, hSubject'⟩ := administered_subjects
  obtain ⟨hRole, hLost, hLost'⟩ := administered_demoted
  refine ⟨administered, crossing, Runs.play _, Runs.play _, admin, finished, ?_⟩
  exact not_serialisable hLength (Pool.finished_iff.mp first) (Pool.finished_iff.mp second)
    hSubject hSubject' hRole hLost hLost'

/-- One disables the other, who grants a permission in the meantime. -/
def overlapping : ServerPool :=
  Pool.play answer (handle exampleState) administered.store (
    [.arrive (.setActive (some firstHeader) secondAdmin ⟨false⟩),
      .arrive (.grantPermission (some secondHeader) firstAdmin ⟨"users.read", true⟩)] ++
    steps 0 40 3 ++ steps 1 50 3 ++ steps 0 60 1 ++ steps 1 70 1)

/-- Evaluates whether nobody who loads permissions lacks one of the three. -/
def allUpheld (pool : ServerPool) : Bool :=
  pool.log.all fun event =>
    match event.op with
    | .sql (.permissionsFor sub) => pool.log.all fun later =>
        ["users.read", "users.manage", "users.assign_roles"].all
          (later.before.permissionsFor sub).contains
    | _ => true

theorem upheld_of_allUpheld {pool : ServerPool} (h : allUpheld pool = true) : Upheld pool := by
  rintro k l i request authorization p sub names ends - - hCall ⟨draw, step⟩ -
  obtain ⟨event, hEvent, _⟩ := Option.map_eq_some_iff.mp ends.step
  have hLoaded := List.all_eq_true.mp h _ (List.mem_of_getElem? step.event)
  have hLater := List.all_eq_true.mp hLoaded _ (List.mem_of_getElem? hEvent)
  rw [Pool.storeAt_event hEvent]
  apply List.all_eq_true.mp hLater p.asStr
  cases request <;> cases hCall <;> decide

/-- The hypotheses hold of requests that overlap and leave each other's permissions. -/
theorem admin_serialisable_overlapping : Upheld overlapping ∧
    overlapping.Serialisable answer (handle exampleState) Eq Eq administered.store := by
  have facts : allUpheld overlapping = true ∧ adminsFinished overlapping = true := by
    decide +kernel
  have upheld := upheld_of_allUpheld facts.1
  obtain ⟨admin, finished⟩ := finished_of_adminsFinished facts.2
  exact ⟨upheld, (admin_serialisable (Runs.play _) (Runs.play _) admin finished).2 upheld⟩

end Runs

end GenericAuth
