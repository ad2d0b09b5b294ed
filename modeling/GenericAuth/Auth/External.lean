import GenericAuth.Core.User

/-! Functions that the program calls and does not define: hashing, token
signatures, the collation of the database, address syntax and the provider's
URLs. They are fixed during a run and otherwise arbitrary. -/
namespace GenericAuth

/-- Payload of an access token. -/
structure Claims where
  sub : Uuid
  role : String
  iss : String
  iat : Int64
  exp : Int64
  jti : Uuid
  deriving DecidableEq, Repr

/-- The provider's userinfo document. -/
structure GoogleProfile where
  sub : String
  email : Option String
  emailVerified : Option Bool
  name : Option String
  picture : Option String
  deriving DecidableEq, Repr

class External where
  /-- CITEXT values are equal when their images under `lower` are. -/
  lower : String → String
  /-- Lower-case hexadecimal SHA-256 of the bytes of a string. -/
  sha256Hex : String → String
  /-- Argon2 in PHC format: password and salt to encoded hash, or an error text. -/
  argon2Hash : String → String → Except String String
  /-- Password and encoded hash; an error when the hash does not parse. -/
  argon2Verify : String → String → Except String Bool
  /-- Signed token for the claims under a secret, or an error text. -/
  jwtEncode : String → Claims → Except String String
  /-- Secret, expected issuer, current unix time and token to the claims. -/
  jwtDecode : String → String → Int64 → String → Except String Claims
  validateEmail : String → Bool
  /-- Refuses a redirect URL that does not parse. -/
  redirectUrl : String → Except String Unit
  /-- Client id, redirect URL and CSRF state to the provider's consent page. -/
  authorizeUrl : String → String → String → String

end GenericAuth
