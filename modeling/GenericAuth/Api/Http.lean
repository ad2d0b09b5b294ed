import GenericAuth.Api.Admin
import GenericAuth.Api.Routes

/-! The server as its HTTP clients see it: the extractors in the order of a handler's
parameters, the handler, and the response to its outcome. The web framework is given. It
decides which handler a request gets to, and what an extractor makes of its part of the
request; the documentation pages and CORS are the framework's own answers. -/
namespace GenericAuth

open Web

/-! ### Requests and responses -/

/-- The body as the extractors find it: the bytes, or why they cannot be read. -/
structure Body where
  contentType : Option String
  bytes : Except String (List UInt8)
  deriving DecidableEq, Repr

structure HttpRequest where
  method : Method
  path : List Char
  /-- What follows the question mark. -/
  query : Option String
  /-- The `Authorization` header, if it is there and is text. -/
  authorization : Option String
  body : Body

/-- A response that the framework gives without a handler. -/
structure PlainResponse where
  status : Nat
  text : String
  deriving DecidableEq, Repr

/-- The response of an extractor that fails. -/
structure Rejection extends PlainResponse where
  isError : 400 ≤ status
  deriving DecidableEq, Repr

inductive Response where
  | text (text : String)
  | success (status : Nat) (payload : Payload)
  | error (error : ErrorResponse)
  | framework (answer : PlainResponse)
  deriving DecidableEq, Repr

def Response.status : Response → Nat
  | .text _ => 200
  | .success status _ => status
  | .error e => e.status
  | .framework answer => answer.status

/-- After a panic there is no response. -/
def respond (status : Nat) : Outcome → Option Response
  | .ok payload => some (.success status payload)
  | .error (.err error) => some (.error error.intoResponse)
  | .error (.panic _) => none

/-- A use of the program: a request to the server, or the create-admin command. -/
inductive Contact where
  | http (http : HttpRequest)
  | createAdmin (args : CreateAdminArgs)

inductive Finish where
  | response (response : Option Response)
  | exit (outcome : Outcome)
  deriving DecidableEq, Repr

def Finish.status : Finish → Option Nat
  | .response answered => answered.map Response.status
  | .exit _ => none

/-! ### The framework -/

/-- A handler, and the segments of the path in the place of the parameters of its route. -/
structure Target where
  endpoint : Endpoint
  segments : List (List Char)
  deriving DecidableEq, Repr

abbrev Extractor (Part Value : Type) := Part → Except Rejection Value

/-- The router, and the extractors for the types that the handlers take. -/
class Framework where
  route : HttpRequest → Except PlainResponse Target
  pathUuid : Extractor (List (List Char)) Uuid
  verifyEmailQuery : Extractor (Option String) VerifyEmailQuery
  oauthCallbackQuery : Extractor (Option String) OAuthCallbackQuery
  /-- The limit and the offset, if the query has them. -/
  page : Extractor (Option String) (Option Int64 × Option Int64)
  registerReq : Extractor Body RegisterReq
  loginReq : Extractor Body LoginReq
  refreshReq : Extractor Body RefreshReq
  logoutReq : Extractor Body LogoutReq
  forgotPasswordReq : Extractor Body ForgotPasswordReq
  resetPasswordReq : Extractor Body ResetPasswordReq
  setRoleReq : Extractor Body SetRoleReq
  setActiveReq : Extractor Body SetActiveReq
  grantPermReq : Extractor Body GrantPermReq

/-- A request gets to a handler by one of the routes, which accepts its method and matches
its path. -/
def Framework.Routes [Framework] (routes : List (Route Endpoint)) : Prop :=
  ∀ http target, Framework.route http = .ok target → ∃ route ∈ routes,
    route.handler = target.endpoint ∧ route.accepts http.method = true ∧
      route.captures http.path = some target.segments

/-! ### Extractors -/

section Extractors

variable [Framework] (http : HttpRequest) {Value : Type}

def extract (parts : Except Rejection Value) : Except Response Value :=
  parts.mapError fun rejection => .framework rejection.toPlainResponse

/-- The path comes before the body. -/
def HttpRequest.idAndJson (segments : List (List Char)) (json : Extractor Body Value) :
    Except Rejection (Uuid × Value) := do
  let id ← Framework.pathUuid segments
  let body ← json http.body
  return (id, body)

/-- The page of a query, with the defaults for what it leaves out. -/
def HttpRequest.page : Except Rejection Page :=
  (fun (limit, offset) => Page.ofQuery limit offset) <$> Framework.page http.query

/-- A handler runs when its extractors have succeeded. -/
def extracted (parts : Except Rejection Value) (work : Value → Server (Option Response)) :
    Server (Option Response) :=
  match extract parts with
  | .error response => .done (some response)
  | .ok value => work value

end Extractors

section Serve

variable [External] [Framework] (state : AppState) (http : HttpRequest)

/-- The handlers of the admin routes. The user is extracted before all else, the
permission is checked by the handler itself. -/
def admin {Value : Type} (parts : Except Rejection Value) (p : Permission) (status : Nat)
    (request : Value → Request) : Server (Option Response) :=
  (verifiedUser state http.authorization).run >>= fun
    | .error error => .done (some (.error error.intoResponse))
    | .ok user => extracted parts fun value => respond status <$> (do
        let perms ← loadPermissions user.userId
        require (m := Server) perms p
        adminWork (request value) : AppResult Payload).run

def Endpoint.serve (segments : List (List Char)) : Endpoint → Server (Option Response)
  | .health => .done (some (.text "ok"))
  | .register => extracted (Framework.registerReq http.body) fun body =>
      respond 201 <$> handle state (.register body)
  | .login => extracted (Framework.loginReq http.body) fun body =>
      respond 200 <$> handle state (.login body)
  | .refresh => extracted (Framework.refreshReq http.body) fun body =>
      respond 200 <$> handle state (.refresh body)
  | .logout => extracted (Framework.logoutReq http.body) fun body =>
      respond 204 <$> handle state (.logout body)
  | .verifyEmail => extracted (Framework.verifyEmailQuery http.query) fun q =>
      respond 200 <$> handle state (.verifyEmail q)
  | .resendVerification => respond 204 <$> handle state (.resendVerification http.authorization)
  | .forgotPassword => extracted (Framework.forgotPasswordReq http.body) fun body =>
      respond 204 <$> handle state (.forgotPassword body)
  | .resetPassword => extracted (Framework.resetPasswordReq http.body) fun body =>
      respond 204 <$> handle state (.resetPassword body)
  | .googleStart => respond 307 <$> handle state .googleStart
  | .googleCallback => extracted (Framework.oauthCallbackQuery http.query) fun q =>
      respond 200 <$> handle state (.googleCallback q)
  | .me => respond 200 <$> handle state (.me http.authorization)
  | .myPermissions => respond 200 <$> handle state (.myPermissions http.authorization)
  | .listUsers => admin state http http.page .usersRead 200 (.listUsers http.authorization)
  | .setRole => admin state http (http.idAndJson segments Framework.setRoleReq)
      .usersAssignRoles 204 fun (id, body) => .setRole http.authorization id body
  | .setActive => admin state http (http.idAndJson segments Framework.setActiveReq)
      .usersManage 204 fun (id, body) => .setActive http.authorization id body
  | .grantPermission => admin state http (http.idAndJson segments Framework.grantPermReq)
      .usersAssignRoles 204 fun (id, body) => .grantPermission http.authorization id body

def serve : Server (Option Response) :=
  match Framework.route http with
  | .error answer => .done (some (.framework answer))
  | .ok target => target.endpoint.serve state http target.segments

def Contact.serve : Contact → Server Finish
  | .http http => .response <$> GenericAuth.serve state http
  | .createAdmin args => .exit <$> handle state (.createAdmin args)

end Serve

end GenericAuth
