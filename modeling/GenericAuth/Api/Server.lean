import GenericAuth.Api.AuthRoutes

/-! The remaining handlers, the create-admin command, and the table of requests
that the server answers. -/
namespace GenericAuth

variable [External]

/-! ### Users -/

/-- The token is not compared with the store before, so its user may be missing. -/
def me (state : AppState) (authorization : Option String) : AppResult User := do
  let user ← authUser state authorization
  let some u ← UserDb.findById user.userId | throw (.err .notFound)
  return u

def myPermissions (state : AppState) (authorization : Option String) : AppResult (List String) := do
  let user ← authUser state authorization
  let perms ← UserDb.permissionsFor user.userId
  return perms

/-! ### Administration -/

/-- The common beginning of the admin handlers. -/
def authorize (state : AppState) (authorization : Option String) (p : Permission) : AppResult Unit := do
  let user ← verifiedUser state authorization
  let perms ← loadPermissions user.userId
  require (m := Server) perms p

structure Page where
  limit : Int64
  offset : Int64
  deriving DecidableEq, Repr

/-- Query parameters that are left out. -/
def Page.ofQuery (limit offset : Option Int64) : Page := ⟨limit.getD 50, offset.getD 0⟩

/-- The limit is cut from above only. -/
def listUsers (state : AppState) (authorization : Option String) (page : Page) :
    AppResult (List User) := do
  authorize state authorization .usersRead
  let users ← UserDb.listUsers (min page.limit 200) page.offset
  return users

structure SetRoleReq where
  role : Role
  deriving DecidableEq, Repr

def setRole (state : AppState) (authorization : Option String) (id : Uuid) (body : SetRoleReq) :
    AppResult Unit := do
  authorize state authorization .usersAssignRoles
  UserDb.setRole id body.role

structure SetActiveReq where
  active : Bool
  deriving DecidableEq, Repr

def setActive (state : AppState) (authorization : Option String) (id : Uuid)
    (body : SetActiveReq) : AppResult Unit := do
  authorize state authorization .usersManage
  UserDb.setActive id body.active

structure GrantPermReq where
  permission : String
  granted : Bool
  deriving DecidableEq, Repr

/-- The statement is issued by the handler itself, so that its error reaches
the client without the prefix of the database layer. -/
def grantPermission (state : AppState) (authorization : Option String) (id : Uuid)
    (body : GrantPermReq) : AppResult Unit := do
  authorize state authorization .usersAssignRoles
  match ← ExceptT.lift (query (.grantPermission id body.permission body.granted)).run with
  | .ok () => return ()
  | .error (.sqlx e) => throw (.err (.database e.display))
  | .error e => throw (.err (.database e.display))

/-! ### The create-admin command -/

structure CreateAdminArgs where
  email : String
  password : String
  deriving DecidableEq, Repr

def CreateAdminArgs.validate (args : CreateAdminArgs) : ValidationErrors :=
  validateEmail "email" args.email ++ validateLength "password" args.password

structure CreateAdminPort (m : Type → Type) where
  createUser : (email passwordHash : String) → ExceptT AppError m User

def createAdminPort : CreateAdminPort Server where
  createUser email passwordHash :=
    UserDb.createUser { email := some email, passwordHash := some passwordHash,
                        displayName := none, role := .admin, emailVerified := true }

/-- The command shares the validators and the hashing with registration, but its
address counts as confirmed. -/
def createAdminUser {m : Type → Type} [Monad m] [Runtime m] (port : CreateAdminPort m)
    (args : CreateAdminArgs) : ExceptT Stop m User := do
  validated args.validate
  let hash ← hashPassword (m := m) args.password
  port.createUser args.email hash

/-! ### Requests -/

/-- A request with all that its handler reads of it. The extractors come first in the
handlers, so the header is passed on as it is. -/
inductive Request where
  | register (body : RegisterReq)
  | login (body : LoginReq)
  | refresh (body : RefreshReq)
  | logout (body : LogoutReq)
  | verifyEmail (q : VerifyEmailQuery)
  | resendVerification (authorization : Option String)
  | forgotPassword (body : ForgotPasswordReq)
  | resetPassword (body : ResetPasswordReq)
  | googleStart
  | googleCallback (q : OAuthCallbackQuery)
  | me (authorization : Option String)
  | myPermissions (authorization : Option String)
  | listUsers (authorization : Option String) (page : Page)
  | setRole (authorization : Option String) (id : Uuid) (body : SetRoleReq)
  | setActive (authorization : Option String) (id : Uuid) (body : SetActiveReq)
  | grantPermission (authorization : Option String) (id : Uuid) (body : GrantPermReq)
  | createAdmin (args : CreateAdminArgs)
  deriving DecidableEq, Repr

/-- Body of a successful answer. -/
inductive Payload where
  | tokenPair (pair : TokenPair)
  | empty
  | redirect (url : String)
  | user (user : User)
  | users (users : List User)
  | permissions (names : List String)
  deriving DecidableEq, Repr

abbrev Outcome := Except Stop Payload

/-- The handlers of all routes, and of the command, under one type of answer. -/
def handle (state : AppState) : Request → Server Outcome
  | .register body => (Payload.tokenPair <$> register state body).run
  | .login body => (Payload.tokenPair <$> login state body).run
  | .refresh body => (Payload.tokenPair <$> refresh state body).run
  | .logout body => ((fun _ => Payload.empty) <$> logout body).run
  | .verifyEmail q => ((fun _ => Payload.empty) <$> verifyEmail q).run
  | .resendVerification authorization =>
      ((fun _ => Payload.empty) <$> resendVerification state authorization).run
  | .forgotPassword body => ((fun _ => Payload.empty) <$> forgotPassword state body).run
  | .resetPassword body => ((fun _ => Payload.empty) <$> resetPassword body).run
  | .googleStart => (Payload.redirect <$> googleStart state).run
  | .googleCallback q => (Payload.tokenPair <$> googleCallback state q).run
  | .me authorization => (Payload.user <$> me state authorization).run
  | .myPermissions authorization => (Payload.permissions <$> myPermissions state authorization).run
  | .listUsers authorization page => (Payload.users <$> listUsers state authorization page).run
  | .setRole authorization id body =>
      ((fun _ => Payload.empty) <$> setRole state authorization id body).run
  | .setActive authorization id body =>
      ((fun _ => Payload.empty) <$> setActive state authorization id body).run
  | .grantPermission authorization id body =>
      ((fun _ => Payload.empty) <$> grantPermission state authorization id body).run
  | .createAdmin args => (Payload.user <$> createAdminUser createAdminPort args).run

end GenericAuth
