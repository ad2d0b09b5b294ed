import GenericAuth.Core.Time

/-! Domain types: roles and users. -/
namespace GenericAuth

inductive Role where
  | admin
  | moderator
  | user
  deriving DecidableEq, Repr

namespace Role

/-- The name of a role in the `roles` table, in access tokens and in JSON. -/
def asStr : Role → String
  | .admin => "admin"
  | .moderator => "moderator"
  | .user => "user"

/-- Names are told apart by their exact spelling. Who calls this decides what an
unknown name means. -/
def parse (s : String) : Option Role :=
  match s with
  | "admin" => some .admin
  | "moderator" => some .moderator
  | "user" => some .user
  | _ => none

@[simp] theorem parse_asStr (role : Role) : parse role.asStr = some role := by
  cases role <;> rfl

end Role

/-- A user as the API shows it, without the password hash. The address is optional,
since an identity provider need not tell one. -/
structure User where
  id : Uuid
  email : Option String
  displayName : Option String
  role : Role
  isActive : Bool
  emailVerified : Bool
  createdAt : OffsetDateTime
  updatedAt : OffsetDateTime
  deriving DecidableEq, Repr

end GenericAuth
