import GenericAuth.Api.Server
import GenericAuth.Web.Link

/-! The routes of the server, and the extractor of the verification link. -/
namespace GenericAuth

open Web

/-- The functions that handle requests. -/
inductive Endpoint where
  | health
  | register | login | refresh | logout | verifyEmail | resendVerification | forgotPassword
  | resetPassword | googleStart | googleCallback
  | me | myPermissions
  | listUsers | setRole | setActive | grantPermission
  deriving DecidableEq, Repr

def authRouter : List (Route Endpoint) :=
  [⟨"/register", .post, .register⟩,
    ⟨"/login", .post, .login⟩,
    ⟨"/refresh", .post, .refresh⟩,
    ⟨"/logout", .post, .logout⟩,
    ⟨"/verify-email", .get, .verifyEmail⟩,
    ⟨"/resend-verification", .post, .resendVerification⟩,
    ⟨"/forgot-password", .post, .forgotPassword⟩,
    ⟨"/reset-password", .post, .resetPassword⟩,
    ⟨"/oauth/google", .get, .googleStart⟩,
    ⟨"/oauth/google/callback", .get, .googleCallback⟩]

def usersRouter : List (Route Endpoint) :=
  [⟨"/me", .get, .me⟩,
    ⟨"/me/permissions", .get, .myPermissions⟩]

def adminRouter : List (Route Endpoint) :=
  [⟨"/users", .get, .listUsers⟩,
    ⟨"/users/\x7bid\x7d/role", .patch, .setRole⟩,
    ⟨"/users/\x7bid\x7d/active", .patch, .setActive⟩,
    ⟨"/users/\x7bid\x7d/permissions", .post, .grantPermission⟩]

def router : List (Route Endpoint) :=
  let apiV1 := nest "/auth" authRouter ++ nest "/users" usersRouter ++ nest "/admin" adminRouter
  ⟨"/health", .get, .health⟩ :: nest "/api/v1" apiV1

example : dispatch router .patch "/api/v1/admin/users/42/role".toList = .handler .setRole := by
  decide

/-- The fields of a query. One that is missing or there twice is an error, others
are ignored. -/
def VerifyEmailQuery.ofPairs (pairs : List (String × String)) : Option VerifyEmailQuery :=
  match pairs.filter fun pair => pair.1 == "token" with
  | [(_, token)] => some ⟨token⟩
  | _ => none

end GenericAuth
