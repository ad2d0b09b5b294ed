import GenericAuth.Api.Http
import GenericAuth.Interaction.Tracking
import GenericAuth.Properties.Authority

/-! The HTTP server against the table of requests, for any framework. An HTTP client asks
what the client of the request does whose handler it reaches, and its response is that
request's outcome. Clients that are turned away before perform no write. -/
namespace GenericAuth

open Interaction Web

/-- The handlers that extract a verified user first. -/
def Endpoint.isAdmin : Endpoint → Bool
  | .listUsers | .setRole | .setActive | .grantPermission => true
  | _ => false

section Requests

variable [Framework] (http : HttpRequest)

/-- The request that a handler gets, or the response without one: that of the first
extractor that fails. -/
def Endpoint.request (segments : List (List Char)) : Endpoint → Except Response Request
  | .health => .error (.text "ok")
  | .register => .register <$> extract (Framework.registerReq http.body)
  | .login => .login <$> extract (Framework.loginReq http.body)
  | .refresh => .refresh <$> extract (Framework.refreshReq http.body)
  | .logout => .logout <$> extract (Framework.logoutReq http.body)
  | .verifyEmail => .verifyEmail <$> extract (Framework.verifyEmailQuery http.query)
  | .resendVerification => .ok (.resendVerification http.authorization)
  | .forgotPassword => .forgotPassword <$> extract (Framework.forgotPasswordReq http.body)
  | .resetPassword => .resetPassword <$> extract (Framework.resetPasswordReq http.body)
  | .googleStart => .ok .googleStart
  | .googleCallback => .googleCallback <$> extract (Framework.oauthCallbackQuery http.query)
  | .me => .ok (.me http.authorization)
  | .myPermissions => .ok (.myPermissions http.authorization)
  | .listUsers => .listUsers http.authorization <$> extract http.page
  | .setRole => (fun (id, body) => .setRole http.authorization id body) <$>
      extract (http.idAndJson segments Framework.setRoleReq)
  | .setActive => (fun (id, body) => .setActive http.authorization id body) <$>
      extract (http.idAndJson segments Framework.setActiveReq)
  | .grantPermission => (fun (id, body) => .grantPermission http.authorization id body) <$>
      extract (http.idAndJson segments Framework.grantPermReq)

def HttpRequest.request : Except Response Request :=
  match Framework.route http with
  | .error answer => .error (.framework answer)
  | .ok target => target.endpoint.request http target.segments

/-- The framework routes the request to a handler that extracts a verified user first. -/
def HttpRequest.isAdmin : Bool :=
  match Framework.route http with
  | .error _ => false
  | .ok target => target.endpoint.isAdmin

/-- The request whose client an HTTP client follows. One that is turned away follows the
listing of users, as long as its own user is being verified. -/
def HttpRequest.followed : Request :=
  match http.request with
  | .ok request => request
  | .error _ => .listUsers http.authorization (.ofQuery none none)

/-- The status of a success. -/
def Request.status : Request → Nat
  | .register _ => 201
  | .googleStart => 307
  | .logout _ | .resendVerification _ | .forgotPassword _ | .resetPassword _ | .setRole .. |
    .setActive .. | .grantPermission .. => 204
  | _ => 200

/-- A response that comes from a request is that of the request's outcome. -/
def Responds (response : Option Response) (program : Server Outcome) : Prop :=
  ∀ request, http.request = .ok request →
    ∃ outcome, program = .done outcome ∧ response = respond request.status outcome

def Contact.request : Contact → Except Response Request
  | .http http => http.request
  | .createAdmin args => .ok (.createAdmin args)

def Contact.followed : Contact → Request
  | .http http => http.followed
  | .createAdmin args => .createAdmin args

/-- How a use of the program ends when its request does. -/
def Contact.finish (request : Request) (outcome : Outcome) : Contact → Finish
  | .http _ => .response (respond request.status outcome)
  | .createAdmin _ => .exit outcome

def Contact.Finishes (contact : Contact) (finish : Finish) (program : Server Outcome) : Prop :=
  ∀ request, contact.request = .ok request →
    ∃ outcome, program = .done outcome ∧ finish = contact.finish request outcome

end Requests

/-! ### Clients -/

section Clients

variable [External] [Framework] {state : AppState} {http : HttpRequest} {Value : Type}
    {parts : Except Rejection Value} {make : Value → Request}

/-- An admin handler lets in verified users with a permission. -/
def admitted (state : AppState) (authorization : Option String) (p : Permission)
    (work : AppResult Payload) : Server Outcome :=
  (verifiedUser state authorization).run >>= fun
    | .error error => .done (.error (.err error))
    | .ok user => (do
        let perms ← loadPermissions user.userId
        require (m := Server) perms p
        work : AppResult Payload).run

omit [Framework] in
theorem handle_admitted {request : Request} {authorization : Option String} {p : Permission}
    (hCall : adminCall request = some (authorization, p)) :
    handle state request = admitted state authorization p (adminWork request) := by
  rw [handle_admin hCall]
  simp [authorize, admitted, ExceptT.run_bind]
  congr 1
  funext result
  cases result <;> simp

omit [External] in
/-- A response without a request. -/
theorem Responds.of_error {refusal : Response} (refused : http.request = .error refusal)
    (response : Option Response) (program : Server Outcome) : Responds http response program := by
  intro request hRequest
  cases refused.symm.trans hRequest

omit [External] in
theorem Responds.of_done {request : Request} (reached : http.request = .ok request)
    (outcome : Outcome) :
    Responds http (respond request.status outcome) (.done outcome) := by
  intro request' hRequest
  obtain rfl := Except.ok.inj (reached.symm.trans hRequest)
  exact ⟨outcome, rfl, rfl⟩

theorem extracted_tracks {status : Nat} (hRequest : http.request = make <$> extract parts)
    (hStatus : ∀ value, (make value).status = status) :
    (extracted parts fun value => respond status <$> handle state (make value)).Tracks
      (Responds http) (handle state http.followed) := by
  cases parts with
  | error rejection => exact .done (.of_error hRequest _ _)
  | ok value =>
      have reached : http.request = .ok (make value) := hRequest
      simp only [HttpRequest.followed, reached]
      refine Program.tracks_map _ _ fun outcome => ?_
      rw [← hStatus value]
      exact .of_done reached outcome

/-- A handler without extractors that can fail. -/
theorem reached_tracks {request : Request} (reached : http.request = .ok request) :
    (respond request.status <$> handle state request).Tracks
      (Responds http) (handle state http.followed) := by
  simp only [HttpRequest.followed, reached]
  exact Program.tracks_map _ _ (.of_done reached)

theorem admin_tracks {p : Permission} {status : Nat}
    (hRequest : http.request = make <$> extract parts)
    (hStatus : ∀ value, (make value).status = status)
    (hCall : ∀ value, adminCall (make value) = some (http.authorization, p)) :
    (admin state http parts p status make).Tracks (Responds http) (handle state http.followed) := by
  cases parts with
  | error rejection =>
      have refused : http.request = .error (.framework rejection.toPlainResponse) := hRequest
      have hListing (page : Page) : adminCall (.listUsers http.authorization page) =
          some (http.authorization, .usersRead) := rfl
      simp only [HttpRequest.followed, refused, handle_admitted (hListing _)]
      refine Program.tracks_bind _ fun result => ?_
      cases result with
      | error error => exact .done (.of_error refused _ _)
      | ok user => exact .done (.of_error refused _ _)
  | ok value =>
      have reached : http.request = .ok (make value) := hRequest
      simp only [HttpRequest.followed, reached, handle_admitted (hCall value)]
      refine Program.tracks_bind _ fun result => ?_
      cases result with
      | error error => exact .done (.of_done reached (.error (.err error)))
      | ok user =>
          refine Program.tracks_map _ _ fun outcome => ?_
          rw [← hStatus value]
          exact .of_done reached outcome

/-- An HTTP client follows the client of its request. -/
theorem serve_tracks (http : HttpRequest) :
    (serve state http).Tracks (Responds http) (handle state http.followed) := by
  unfold serve
  cases hRoute : Framework.route http with
  | error answer =>
      have refused : http.request = .error (.framework answer) := by
        simp only [HttpRequest.request, hRoute]
      exact .done (.of_error refused _ _)
  | ok target =>
      have hRequest : http.request = target.endpoint.request http target.segments := by
        simp only [HttpRequest.request, hRoute]
      obtain ⟨endpoint, segments⟩ := target
      cases endpoint with
      | health => exact .done (.of_error hRequest _ _)
      | register => exact extracted_tracks hRequest fun _ => rfl
      | login => exact extracted_tracks hRequest fun _ => rfl
      | refresh => exact extracted_tracks hRequest fun _ => rfl
      | logout => exact extracted_tracks hRequest fun _ => rfl
      | verifyEmail => exact extracted_tracks hRequest fun _ => rfl
      | resendVerification => exact reached_tracks hRequest
      | forgotPassword => exact extracted_tracks hRequest fun _ => rfl
      | resetPassword => exact extracted_tracks hRequest fun _ => rfl
      | googleStart => exact reached_tracks hRequest
      | googleCallback => exact extracted_tracks hRequest fun _ => rfl
      | me => exact reached_tracks hRequest
      | myPermissions => exact reached_tracks hRequest
      | listUsers | setRole | setActive | grantPermission =>
          exact admin_tracks hRequest (fun _ => rfl) fun _ => rfl

theorem contact_tracks (contact : Contact) : (contact.serve state).Tracks
    contact.Finishes (handle state contact.followed) := by
  cases contact with
  | createAdmin args =>
      refine Program.tracks_map _ _ fun outcome => ?_
      rintro request hRequest
      cases hRequest
      exact ⟨outcome, rfl, rfl⟩
  | http http =>
      refine (serve_tracks http).map Finish.response fun response program responds => ?_
      intro request hRequest
      obtain ⟨outcome, hDone, rfl⟩ := responds request hRequest
      exact ⟨outcome, hDone, rfl⟩

/-! ### Clients that are turned away -/

/-- The operations of the access-token extractor: it reads the clock, and looks up the
user of a token that is accepted at that time. -/
def LooksUp (state : AppState) (authorization : Option String) (past : Calls) : Op → Prop
  | .nowUtc => past = []
  | .sql (.findById sub) =>
      ∃ now, past = [⟨.nowUtc, now⟩] ∧ Presents state authorization now sub
  | _ => False

omit [Framework] in
theorem VerifiedUserCourse.looksUp {authorization : Option String} {calls : Calls}
    {result : Except AppError VerifiedUser}
    (course : VerifiedUserCourse state authorization calls result) :
    Asks (LooksUp state authorization) [] calls := by
  cases course with
  | refused auth => cases auth <;> simp [LooksUp]
  | failed presents | unknown presents | unconfirmed presents | verified presents =>
      exact ⟨rfl, ⟨_, rfl, presents⟩, trivial⟩

omit [Framework] in
theorem verifiedUser_looksUp (authorization : Option String) :
    (verifiedUser state authorization).run.Obeys (LooksUp state authorization)
      (fun calls result => (verifiedUser state authorization).run.Performs calls result) [] := by
  have course := Program.takes_iff_performs.mp (verifiedUser_course state authorization)
  have performed : (verifiedUser state authorization).run.Takes fun calls result =>
      (verifiedUser state authorization).run.Performs calls result :=
    Program.takes_iff_performs.mpr fun _ _ performs => performs
  exact performed.obeys fun calls result performs =>
    ⟨(course calls result performs).looksUp, performs⟩

/-- How a request ends that gets to no request of the table: at once, or after its own
user has been looked up, which may fail first. -/
inductive HttpRequest.Refused (state : AppState) (http : HttpRequest) (refusal : Response) :
    Calls → Response → Prop where
  | atOnce (h : http.isAdmin = false) : http.Refused state refusal [] refusal
  | unverified (h : http.isAdmin = true) {calls : Calls} {error : AppError}
      (performs : (verifiedUser state http.authorization).run.Performs calls (.error error)) :
      http.Refused state refusal calls (.error error.intoResponse)
  | verified (h : http.isAdmin = true) {calls : Calls} {user : VerifiedUser}
      (performs : (verifiedUser state http.authorization).run.Performs calls (.ok user)) :
      http.Refused state refusal calls refusal

/-- What a client does that is turned away. -/
def TurnedAway (state : AppState) (http : HttpRequest) (refusal : Response)
    (program : Server (Option Response)) : Prop :=
  program.Obeys (fun past op => http.isAdmin = true ∧ LooksUp state http.authorization past op)
    (fun calls response => ∃ refused, response = some refused ∧
      http.Refused state refusal calls refused) []

theorem admin_turnedAway {p : Permission} {status : Nat} {rejection : Rejection}
    (hAdmin : http.isAdmin = true) (hParts : parts = .error rejection) :
    TurnedAway state http (.framework rejection.toPlainResponse)
      (admin state http parts p status make) := by
  subst hParts
  rw [TurnedAway, admin, Program.obeys_bind]
  refine ((verifiedUser_looksUp http.authorization).guard fun _ _ looks => ⟨hAdmin, looks⟩).imp ?_
  intro calls result performs
  cases result with
  | error error => exact ⟨_, rfl, .unverified hAdmin performs⟩
  | ok user => exact ⟨_, rfl, .verified hAdmin performs⟩

omit [External] [Framework] in
/-- The parts that a request lacks that is turned away. -/
theorem error_of_map {refusal : Response} (h : make <$> extract parts = .error refusal) :
    ∃ rejection, parts = .error rejection ∧ refusal = .framework rejection.toPlainResponse := by
  cases parts with
  | error rejection => exact ⟨rejection, rfl, (Except.error.inj h).symm⟩
  | ok value => cases h

/-- A request that is turned away only looks up its own user. -/
theorem serve_turnedAway {refusal : Response} (refused : http.request = .error refusal) :
    TurnedAway state http refusal (serve state http) := by
  unfold serve
  cases hRoute : Framework.route http with
  | error answer =>
      have hAdmin : http.isAdmin = false := by simp only [HttpRequest.isAdmin, hRoute]
      simp only [HttpRequest.request, hRoute] at refused
      cases refused
      exact ⟨_, rfl, .atOnce hAdmin⟩
  | ok target =>
      have hRequest : http.request = target.endpoint.request http target.segments := by
        simp only [HttpRequest.request, hRoute]
      have hAdmin : http.isAdmin = target.endpoint.isAdmin := by
        simp only [HttpRequest.isAdmin, hRoute]
      obtain ⟨endpoint, segments⟩ := target
      cases endpoint with
      | health =>
          cases hRequest.symm.trans refused
          exact ⟨_, rfl, .atOnce hAdmin⟩
      | resendVerification | googleStart | me | myPermissions => cases refused.symm.trans hRequest
      | listUsers | setRole | setActive | grantPermission =>
          obtain ⟨rejection, hParts, rfl⟩ := error_of_map (hRequest.symm.trans refused)
          exact admin_turnedAway hAdmin hParts
      | _ =>
          obtain ⟨rejection, hParts, rfl⟩ := error_of_map (hRequest.symm.trans refused)
          simp only [Endpoint.serve, hParts]
          exact ⟨_, rfl, .atOnce hAdmin⟩

end Clients

/-! ### Runs -/

section Runs

variable [External] [Framework] {state : AppState} {start : Db}

abbrev HttpPool := Pool Contact Db Draw Op Op.Reply Finish

abbrev HttpRun (state : AppState) (start : Db) : HttpPool → Prop :=
  Runs answer (Contact.serve state) start

/-- What the client of an HTTP request does that is turned away. -/
structure HttpRequest.IsRefused (state : AppState) (pool : HttpPool) (i : Nat) (http : HttpRequest)
    (refusal : Response) : Prop where
  returned : ∀ finish, pool.Returned i (.http http) finish → ∃ response,
    finish = .response (some response) ∧
      http.Refused state refusal (past answer pool.log i) response
  looksUp : ∀ k draw op reply, pool.Executed answer k i draw op reply → http.isAdmin = true ∧
    LooksUp state http.authorization (past answer (pool.log.take k) i) op

theorem HttpRun.isRefused {pool : HttpPool} (run : HttpRun state start pool) {i : Nat}
    {http : HttpRequest} {refusal : Response} (serves : pool.Serves i (.http http))
    (refused : http.request = .error refusal) : http.IsRefused state pool i refusal := by
  have obeys (contact : Contact) : (contact.serve state).Obeys
      (fun past op => ∀ http refusal, contact = .http http → http.request = .error refusal →
        http.isAdmin = true ∧ LooksUp state http.authorization past op)
      (fun calls finish => ∀ http refusal, contact = .http http → http.request = .error refusal →
        ∃ response, finish = .response (some response) ∧
          http.Refused state refusal calls response) [] := by
    cases contact with
    | createAdmin args => exact Program.obeys_of_always (by simp) (by simp) _ _
    | http http =>
        cases hRequest : http.request with
        | ok request =>
            have never {other : HttpRequest} {refusal : Response}
                (h : Contact.http http = .http other) : other.request ≠ .error refusal := by
              cases h
              simp [hRequest]
            exact Program.obeys_of_always (fun _ _ _ _ h hError => absurd hError (never h))
              (fun _ _ _ _ h hError => absurd hError (never h)) _ _
        | error refusal =>
            have turnedAway : TurnedAway state http refusal (serve state http) :=
              serve_turnedAway hRequest
            rw [Contact.serve, Program.obeys_map]
            refine (turnedAway.guard ?_).imp ?_
            · rintro calls op allowed _ _ ⟨⟩ hError
              exact allowed
            · rintro calls response ⟨answered, rfl, h⟩ _ _ ⟨⟩ hError
              cases hRequest.symm.trans hError
              exact ⟨answered, rfl, h⟩
  refine ⟨fun finish returned => ?_, fun k draw op reply step => ?_⟩
  · exact Runs.final obeys run returned http refusal rfl refused
  · obtain ⟨contact, serves', allowed⟩ := Runs.allowed obeys run step
    exact allowed http refusal (serves'.unique serves) refused

/-- A client of one pool against the client of its request in the other. -/
inductive Corresponds (state : AppState) (pool : HttpPool) (served : ServerPool) (i : Nat)
    (contact : Contact) : Prop where
  | handled (request : Request) (reached : contact.request = .ok request)
      (serves : served.Serves i request)
      (returned : ∀ finish, pool.Returned i contact finish →
        ∃ outcome, served.Returned i request outcome ∧ finish = contact.finish request outcome)
  | refused (http : HttpRequest) (hContact : contact = .http http) (refusal : Response)
      (refused : http.request = .error refusal) (isRefused : http.IsRefused state pool i refusal)

omit [External] in
theorem followed_of_request {contact : Contact} {request : Request}
    (hRequest : contact.request = .ok request) : contact.followed = request := by
  cases contact with
  | createAdmin args => exact Except.ok.inj hRequest
  | http http =>
      have hHttp : http.request = .ok request := hRequest
      simp only [Contact.followed, HttpRequest.followed, hHttp]

theorem HttpRun.corresponds {pool : HttpPool} {served : ServerPool}
    (run : HttpRun state start pool)
    (tracked : pool.Tracked Contact.followed Contact.Finishes served) {i : Nat}
    {contact : Contact} (serves : pool.Serves i contact) :
    Corresponds state pool served i contact := by
  cases hRequest : contact.request with
  | ok request =>
      obtain ⟨⟨contact', program⟩, present, hSame⟩ := Option.map_eq_some_iff.mp serves
      obtain rfl : contact' = contact := hSame
      obtain ⟨program', present', _⟩ := tracked.clients i contact' program present
      refine .handled request hRequest (by simp [Pool.Serves, present', followed_of_request hRequest])
        fun finish returned => ?_
      obtain ⟨program', present', finishes⟩ := tracked.returned returned
      obtain ⟨outcome, rfl, hFinish⟩ := finishes request hRequest
      rw [followed_of_request hRequest] at present'
      exact ⟨outcome, present', hFinish⟩
  | error refusal =>
      cases contact with
      | createAdmin args => cases hRequest
      | http http => exact .refused http rfl refusal hRequest (run.isRefused serves hRequest)

/-- The runs of the program, HTTP server and command, are runs of the table of requests,
with the same operations in the same order. The response to a client whose request
reached its handler is that of the request's outcome. The others are answered by the
router or an extractor, and only the admin handlers' extractor of their own user performs
operations. -/
theorem http_refines_handlers {pool : HttpPool} (run : HttpRun state start pool) :
    ∃ served : ServerPool, ServerRun state start served ∧ served.store = pool.store ∧
      served.log = pool.log ∧
      ∀ i contact, pool.Serves i contact → Corresponds state pool served i contact := by
  obtain ⟨served, servedRun, tracked⟩ := run.tracked contact_tracks
  exact ⟨served, servedRun, tracked.store, tracked.log,
    fun _ _ serves => run.corresponds tracked serves⟩

end Runs

section Example

attribute [local instance] reference referenceFramework

/-- A registration, and an attempt to list the users with a page that is no number. -/
def httpRegistration : HttpPool :=
  let header := headerFor firstUser .user 3
  Pool.play answer (Contact.serve exampleState) migrated
    (.arrive (.http ⟨.post, "/api/v1/auth/register".toList, none, none,
        jsonBody registrationText⟩) ::
      (List.range 14).map (fun k => .step 0 (moment k)) ++
    .arrive (.http ⟨.get, "/api/v1/admin/users".toList, some "limit=ten", some header,
        ⟨none, .ok []⟩⟩) ::
      (List.range 2).map fun k => .step 1 (moment (20 + k)))

theorem http_refines_handlers_registered :
    (httpRegistration.finished 0).bind (fun client => client.2.status) = some 201 ∧
    (httpRegistration.finished 1).bind (fun client => client.2.status) = some 403 ∧
    ∃ served : ServerPool, ServerRun exampleState migrated served ∧
      served.store = httpRegistration.store ∧ served.log = httpRegistration.log ∧
      ∀ i contact, httpRegistration.Serves i contact →
        Corresponds exampleState httpRegistration served i contact :=
  ⟨by decide +kernel, by decide +kernel, http_refines_handlers (Runs.play _)⟩

end Example

end GenericAuth
