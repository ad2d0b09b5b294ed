import GenericAuth.Properties.HttpServer

/-! Administration over HTTP. A change of a user is the one that the path and the body
of its HTTP request name. Until the create-admin command has been used, the admin routes
answer with errors, and change nothing. -/
namespace GenericAuth

open Interaction Web

/-! ### Requests and their endpoints -/

/-- The function that handles a request; the command is none. -/
def Request.endpoint : Request → Option Endpoint
  | .register _ => some .register
  | .login _ => some .login
  | .refresh _ => some .refresh
  | .logout _ => some .logout
  | .verifyEmail _ => some .verifyEmail
  | .resendVerification _ => some .resendVerification
  | .forgotPassword _ => some .forgotPassword
  | .resetPassword _ => some .resetPassword
  | .googleStart => some .googleStart
  | .googleCallback _ => some .googleCallback
  | .me _ => some .me
  | .myPermissions _ => some .myPermissions
  | .listUsers .. => some .listUsers
  | .setRole .. => some .setRole
  | .setActive .. => some .setActive
  | .grantPermission .. => some .grantPermission
  | .createAdmin _ => none

/-! ### The routes for one user -/

def userRoute (last : String) (method : Method) (endpoint : Endpoint) : Route Endpoint :=
  ⟨"/api/v1/admin/users/\x7bid\x7d/" ++ last, method, endpoint⟩

@[simp] theorem userRoute_method (last : String) (method : Method) (endpoint : Endpoint) :
    (userRoute last method endpoint).method = method := rfl

/-- The endpoint has this route only, whose one parameter is the user's id. -/
structure UserRouted (last : String) (method : Method) (endpoint : Endpoint) : Prop where
  only : ∀ route ∈ router, route.handler = endpoint → route = userRoute last method endpoint
  writes : method ≠ .get
  segments : (userRoute last method endpoint).path.toList.splitOn '/' =
    ["", "api", "v1", "admin", "users"].map String.toList ++ ["\x7bid\x7d".toList, last.toList]
  static : isParameter last.toList = false

theorem setRole_routed : UserRouted "role" .patch .setRole :=
  ⟨by decide, by decide, by decide, by decide⟩

theorem setActive_routed : UserRouted "active" .patch .setActive :=
  ⟨by decide, by decide, by decide, by decide⟩

theorem grantPermission_routed : UserRouted "permissions" .post .grantPermission :=
  ⟨by decide, by decide, by decide, by decide⟩

/-! ### What the framework makes of a request -/

section Requests

variable [Framework] {http : HttpRequest} {segments : List (List Char)} {endpoint : Endpoint}
    {request : Request} {Value : Type}

omit [Framework] in
theorem ok_of_map {parts : Except Rejection Value} {make : Value → Request}
    (h : make <$> extract parts = .ok request) : ∃ value, parts = .ok value ∧ make value = request := by
  cases parts with
  | error rejection => cases h
  | ok value => exact ⟨value, rfl, Except.ok.inj h⟩

theorem endpoint_of_request (h : endpoint.request http segments = .ok request) :
    request.endpoint = some endpoint := by
  cases endpoint with
  | health => cases h
  | resendVerification | googleStart | me | myPermissions =>
      cases h
      rfl
  | _ =>
      obtain ⟨value, _, rfl⟩ := ok_of_map h
      rfl

theorem adminCall_of_request (hAdmin : endpoint.isAdmin = true)
    (h : endpoint.request http segments = .ok request) :
    ∃ p, adminCall request = some (http.authorization, p) := by
  cases endpoint with
  | listUsers | setRole | setActive | grantPermission =>
      obtain ⟨value, _, rfl⟩ := ok_of_map h
      exact ⟨_, rfl⟩
  | _ => cases hAdmin

theorem idAndJson_eq_ok {json : Extractor Body Value} {id : Uuid} {body : Value}
    (h : http.idAndJson segments json = .ok (id, body)) :
    Framework.pathUuid segments = .ok id ∧ json http.body = .ok body := by
  unfold HttpRequest.idAndJson at h
  cases hId : Framework.pathUuid segments with
  | error rejection =>
      rw [hId] at h
      cases h
  | ok id =>
      cases hBody : json http.body with
      | error rejection =>
          rw [hId, hBody] at h
          cases h
      | ok body =>
          rw [hId, hBody] at h
          cases h
          exact ⟨rfl, rfl⟩

theorem request_cases (h : http.request = .ok request) : ∃ target,
    Framework.route http = .ok target ∧ request.endpoint = some target.endpoint ∧
      target.endpoint.request http target.segments = .ok request := by
  unfold HttpRequest.request at h
  split at h
  · cases h
  · next target hRoute => exact ⟨target, hRoute, endpoint_of_request h, h⟩

/-! ### Refusals -/

omit [Framework] in
theorem AppError.intoResponse_status (error : AppError) : 400 ≤ error.intoResponse.status := by
  cases error <;> simp [AppError.intoResponse]

/-- A request that gets to an admin handler is refused by an extractor. -/
theorem admin_refusal (hAdmin : endpoint.isAdmin = true) {refusal : Response}
    (h : endpoint.request http segments = .error refusal) : 400 ≤ refusal.status := by
  cases endpoint with
  | listUsers | setRole | setActive | grantPermission =>
      obtain ⟨rejection, _, rfl⟩ := error_of_map h
      exact rejection.isError
  | _ => cases hAdmin

/-! ### Changes of one user -/

/-- The HTTP request for a change of a user, with the method and the last segment of
its route, the user's id in the path, and the change in the body. -/
structure ForUser (http : HttpRequest) (method : Method) (last : String) (id : Uuid)
    (json : Extractor Body Value) (body : Value) : Prop where
  method : http.method = method
  path : ∃ segment, Framework.pathUuid [segment] = .ok id ∧
    http.path = "/api/v1/admin/users/".toList ++ segment ++ '/' :: last.toList
  body : json http.body = .ok body

theorem forUser_of_parts {method : Method} {last : String} {json : Extractor Body Value}
    {body : Value} {id : Uuid} {target : Target} (routes : Framework.Routes router)
    (routed : UserRouted last method target.endpoint) (hRoute : Framework.route http = .ok target)
    (hParts : http.idAndJson target.segments json = .ok (id, body)) :
    ForUser http method last id json body := by
  obtain ⟨hId, hBody⟩ := idAndJson_eq_ok hParts
  obtain ⟨route, hMem, hHandler, hAccepts, hCaptures⟩ := routes http target hRoute
  obtain rfl := routed.only route hMem hHandler
  have hJoin : ['/'].intercalate (http.path.splitOn '/') = http.path := List.intercalate_splitOn '/'
  rw [Route.captures, routed.segments] at hCaptures
  obtain ⟨segment, hPath, hSegments⟩ :=
    segments_of_captures (by simp [routed.static]; decide) (by decide) hCaptures
  rw [hSegments] at hId
  refine ⟨?_, ⟨segment, hId, ?_⟩, hBody⟩
  · have hEither : method = http.method ∨ method = .get ∧ http.method = .head := by
      simpa only [Route.accepts, Bool.or_eq_true, Bool.and_eq_true, beq_iff_eq,
        userRoute_method] using hAccepts
    exact (hEither.resolve_right fun h => routed.writes h.1).symm
  · rw [← hJoin, hPath]
    simp [List.intercalate]

/-- The change of a user that an operation makes is the one of the HTTP request. -/
def Names (http : HttpRequest) : Op → Prop
  | .sql (.updateRole roleId id) => ∃ role, Registry.number role = roleId ∧
      ForUser http .patch "role" id Framework.setRoleReq ⟨role⟩
  | .sql (.updateActive active id) =>
      ForUser http .patch "active" id Framework.setActiveReq ⟨active⟩
  | .sql (.grantPermission id permission granted) =>
      ForUser http .post "permissions" id Framework.grantPermReq ⟨permission, granted⟩
  | _ => False

/-- A request of the table for a change of a user comes from such an HTTP request. -/
theorem forUser_of_request {method : Method} {last : String} {json : Extractor Body Value}
    {make : Uuid × Value → Request} (routes : Framework.Routes router)
    (routed : UserRouted last method endpoint)
    (hParts : ∀ segments, endpoint.request http segments =
      make <$> extract (http.idAndJson segments json))
    (h : http.request = .ok request) (hEndpoint : request.endpoint = some endpoint) :
    ∃ id body, make (id, body) = request ∧ ForUser http method last id json body := by
  obtain ⟨target, hRoute, hEndpoint', hRequest⟩ := request_cases h
  obtain rfl : endpoint = target.endpoint := Option.some.inj (hEndpoint.symm.trans hEndpoint')
  obtain ⟨⟨id, body⟩, hValue, hMake⟩ := ok_of_map ((hParts _).symm.trans hRequest)
  exact ⟨id, body, hMake, forUser_of_parts routes routed hRoute hValue⟩

end Requests

/-! ### Changes -/

section Runs

variable [External] [Framework] {state : AppState} {pool : HttpPool} {k i : Nat} {op : Op}
    {draw : Draw} {reply : op.Reply}

/-- The permission that the change of a user needs. -/
def Op.needs : Op → Permission
  | .sql (.updateActive ..) => .usersManage
  | _ => .usersAssignRoles

omit [External] in
/-- A request of the table for a change of a user belongs to an HTTP request. -/
theorem http_of_followed {contact : Contact} {request : Request} {endpoint : Endpoint}
    (h : request = contact.followed) (hEndpoint : request.endpoint = some endpoint)
    (hListing : endpoint ≠ .listUsers) :
    ∃ http, contact = .http http ∧ http.request = .ok request := by
  subst h
  cases contact with
  | createAdmin args => cases hEndpoint
  | http http =>
      refine ⟨http, rfl, ?_⟩
      simp only [Contact.followed, HttpRequest.followed] at hEndpoint ⊢
      split at hEndpoint
      · assumption
      · exact absurd (Option.some.inj hEndpoint).symm hListing

/-- Before step `k` the client read the clock, presented an access token that was accepted
at that time, and found that its user had the permission. -/
def Entitles (state : AppState) (pool : HttpPool) (k i : Nat) (authorization : Option String)
    (p : Permission) : Prop :=
  ∃ n < k, ∃ draw now sub, pool.Executed answer n i draw .nowUtc now ∧
    Presents state authorization now sub ∧
      ∃ m < k, ∃ draw', pool.Executed answer m i draw' (.sql (.permissionsFor sub))
        (.ok ((pool.storeAt m).permissionsFor sub)) ∧
          p.asStr ∈ (pool.storeAt m).permissionsFor sub

theorem ServerRun.entitles {served : ServerPool} {start : Db} (run : ServerRun state start served)
    (tracked : pool.Tracked Contact.followed Contact.Finishes served)
    {authorization : Option String} {p : Permission}
    (authorised : Authorised state (past answer (served.log.take k) i) authorization p) :
    Entitles state pool k i authorization p := by
  obtain ⟨sub, _, names, bearer, _, _, sawNames, hMem⟩ := authorised
  obtain ⟨now, hNow, presents⟩ := bearer
  obtain ⟨n, hnk, draw, reading⟩ := run.executed_of_past hNow
  obtain ⟨m, hmk, draw', loaded⟩ := run.did_of_saw sawNames
  obtain rfl : (served.storeAt m).permissionsFor sub = names :=
    Except.ok.inj (congrArg Prod.fst (exec_of_answer loaded.effect))
  rw [tracked.storeAt] at loaded hMem
  exact ⟨n, hnk, draw, now, sub, tracked.executed_of reading, presents, m, hmk, draw',
    tracked.executed_of loaded, by simpa using hMem⟩

/-- Every change of a user over HTTP is the one that the method, the path and the body
of its request name. The caller presented an accepted token of somebody who could make it
when the request asked. -/
theorem http_change_named (routes : Framework.Routes router)
    (run : HttpRun state migrated pool)
    (step : pool.Executed answer k i draw op reply) (h : op.administers = true) :
    ∃ http, pool.Serves i (.http http) ∧ Names http op ∧
      Entitles state pool k i http.authorization op.needs := by
  obtain ⟨served, servedRun, tracked⟩ := run.tracked contact_tracks
  have servedRun : ServerRun state migrated served := servedRun
  have servedStep := tracked.executed step
  obtain ⟨request, serves, allowed⟩ := Runs.allowed (handle_obeys state) servedRun servedStep
  obtain ⟨request', serves', chosen⟩ := Runs.allowed (handle_chosen state) servedRun servedStep
  obtain rfl := serves.unique serves'
  obtain ⟨contact, hContact, hRequest⟩ := tracked.serves serves
  unfold Op.administers at h
  split at h
  · obtain ⟨authorization, body, rfl, authorised⟩ := allowed
    obtain ⟨http, rfl, hHttp⟩ := http_of_followed hRequest rfl (by decide)
    obtain ⟨_, _, hMake, named⟩ :=
      forUser_of_request routes setRole_routed (fun _ => rfl) hHttp rfl
    cases hMake
    exact ⟨http, hContact,
      ⟨body.role, (servedRun.number_of_saw migrated_sound chosen).symm, named⟩,
      servedRun.entitles tracked authorised⟩
  · obtain ⟨authorization, rfl, authorised⟩ := allowed
    obtain ⟨http, rfl, hHttp⟩ := http_of_followed hRequest rfl (by decide)
    obtain ⟨_, _, hMake, named⟩ :=
      forUser_of_request routes setActive_routed (fun _ => rfl) hHttp rfl
    cases hMake
    exact ⟨http, hContact, named, servedRun.entitles tracked authorised⟩
  · obtain ⟨authorization, rfl, authorised⟩ := allowed
    obtain ⟨http, rfl, hHttp⟩ := http_of_followed hRequest rfl (by decide)
    obtain ⟨_, _, hMake, named⟩ :=
      forUser_of_request routes grantPermission_routed (fun _ => rfl) hHttp rfl
    cases hMake
    exact ⟨http, hContact, named, servedRun.entitles tracked authorised⟩
  · cases h

/-! ### Without administrators -/

omit [External] [Framework] in
theorem respond_status {status : Nat} {stop : Stop} {response : Response}
    (h : respond status (.error stop) = some response) : 400 ≤ response.status := by
  cases stop with
  | err error =>
      cases h
      exact error.intoResponse_status
  | panic message => cases h

omit [External] in
theorem createAdmin_of_followed {contact : Contact} {args : CreateAdminArgs}
    (h : Request.createAdmin args = contact.followed) : contact = .createAdmin args := by
  cases contact with
  | createAdmin args' =>
      cases h
      rfl
  | http http =>
      simp only [Contact.followed, HttpRequest.followed] at h
      split at h
      · next hHttp =>
          obtain ⟨target, _, hEndpoint, _⟩ := request_cases hHttp
          rw [← h] at hEndpoint
          cases hEndpoint
      · cases h

/-- The response of an admin handler whose request fails, or was refused before. -/
theorem Corresponds.admin_response {served : ServerPool} {http : HttpRequest} {target : Target}
    {response : Response} (corresponds : Corresponds state pool served i (.http http))
    (hFails : ∀ request authorization p outcome, adminCall request = some (authorization, p) →
      served.Returned i request outcome → ∃ stop, outcome = .error stop)
    (returned : pool.Returned i (.http http) (.response (some response)))
    (hRoute : Framework.route http = .ok target) (hAdmin : target.endpoint.isAdmin = true) :
    400 ≤ response.status := by
  have hRequest : http.request = target.endpoint.request http target.segments := by
    simp only [HttpRequest.request, hRoute]
  cases corresponds with
  | handled request reached _ answered =>
      obtain ⟨outcome, hOutcome, hFinish⟩ := answered _ returned
      obtain ⟨p, hCall⟩ := adminCall_of_request hAdmin (hRequest.symm.trans reached)
      obtain ⟨stop, rfl⟩ := hFails _ _ _ _ hCall hOutcome
      exact respond_status (Finish.response.inj hFinish).symm
  | refused other hContact refusal refused isRefused =>
      cases hContact
      obtain ⟨_, hFinish, how⟩ := isRefused.returned _ returned
      cases hFinish
      generalize past answer pool.log i = calls at how
      cases how with
      | unverified _ performs => exact AppError.intoResponse_status _
      | _ => exact admin_refusal hAdmin (hRequest.symm.trans refused)

/-- Until the create-admin command has been used nobody has a permission, no change of a
user is even tried, and every request that the framework routes to an admin handler is
answered with an error. -/
theorem http_powerless (run : HttpRun state migrated pool)
    (hNone : ∀ i args, ¬pool.Serves i (.createAdmin args)) :
    (∀ l userId, (pool.storeAt l).permissionsFor userId = []) ∧
    (∀ k i draw op reply, pool.Executed answer k i draw op reply → op.administers = false) ∧
    ∀ i http target response, pool.Returned i (.http http) (.response (some response)) →
      Framework.route http = .ok target → target.endpoint.isAdmin = true →
      400 ≤ response.status := by
  obtain ⟨served, servedRun, tracked⟩ := run.tracked contact_tracks
  have servedRun : ServerRun state migrated served := servedRun
  have hNone (i : Nat) (args : CreateAdminArgs) : ¬served.Serves i (.createAdmin args) := by
    intro serves
    obtain ⟨contact, hContact, hRequest⟩ := tracked.serves serves
    rw [createAdmin_of_followed hRequest] at hContact
    exact hNone i args hContact
  refine ⟨fun l userId => ?_, fun k i draw op reply step => ?_, fun i http _ _ returned => ?_⟩
  · rw [← tracked.storeAt]
    exact servedRun.powerless hNone l userId
  · exact servedRun.not_administers hNone (tracked.executed step)
  · exact (HttpRun.corresponds run tracked returned.serves).admin_response
      (fun _ _ _ _ hCall => servedRun.admin_fails hNone hCall) returned

end Runs

/-! ### Runs of the reference instance -/

section Example

attribute [local instance] reference referenceFramework

/-- An administrator makes a new user a moderator. -/
def httpPromotion : HttpPool :=
  let header := headerFor firstAdmin .admin 41
  let path := "/api/v1/admin/users/00000000-0000-0000-0000-000000000017/role"
  Pool.play answer (Contact.serve exampleState) migrated
    (.arrive (.createAdmin ⟨"admin@example.org", "password"⟩) ::
      (List.range 4).map (fun k => .step 0 (moment k)) ++
    .arrive (.http ⟨.post, "/api/v1/auth/register".toList, none, none,
        jsonBody registrationText⟩) ::
      (List.range 14).map (fun k => .step 1 (moment (20 + k))) ++
    .arrive (.http ⟨.patch, path.toList, none, some header, jsonBody moderatorText⟩) ::
      (List.range 5).map fun k => .step 2 (moment (60 + k)))

theorem http_change_named_promotion : ∃ http, httpPromotion.Serves 2 (.http http) ∧
    Names http (.sql (.updateRole (Registry.number .moderator) (moment 22).uuid)) ∧
      Entitles exampleState httpPromotion 21 2 http.authorization .usersAssignRoles := by
  have run : HttpRun exampleState migrated httpPromotion := Runs.play _
  have hChange : ((httpPromotion.log[21]?).any fun event => event.client == 2 &&
      event.op == .sql (.updateRole (Registry.number .moderator) (moment 22).uuid)) = true := by
    decide +kernel
  obtain ⟨⟨i, draw, before, op⟩, hEvent, hCall⟩ := (Option.any_eq_true _ _).mp hChange
  simp only [Bool.and_eq_true, beq_iff_eq] at hCall
  obtain ⟨rfl, rfl⟩ := hCall
  exact http_change_named referenceFramework_routes run (run.executed hEvent) rfl

/-- In the run of a registration the listing of the users is refused. -/
theorem http_powerless_registered :
    (httpRegistration.finished 1).bind (fun client => client.2.status) = some 403 ∧
    (∀ l userId, (httpRegistration.storeAt l).permissionsFor userId = []) ∧
    ∀ i http target response,
      httpRegistration.Returned i (.http http) (.response (some response)) →
      Framework.route http = .ok target → target.endpoint.isAdmin = true →
      400 ≤ response.status := by
  have run : HttpRun exampleState migrated httpRegistration := Runs.play _
  have hHttp : (httpRegistration.clients.all fun client =>
      match client.request with
      | .createAdmin _ => false
      | .http _ => true) = true := by decide +kernel
  have result := http_powerless run fun i args serves => by
    obtain ⟨client, hClient, hRequest⟩ := Option.map_eq_some_iff.mp serves
    have := List.all_eq_true.mp hHttp client (List.mem_of_getElem? hClient)
    simp [hRequest] at this
  exact ⟨by decide +kernel, result.1, result.2.2⟩

end Example

end GenericAuth
