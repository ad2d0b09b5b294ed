import GenericAuth.Api.Http
import GenericAuth.Api.Run

/-! A concrete choice of the external functions, settings and draws, on which
runs of the server can be evaluated. Hashing and signing only need to be
injective and to be undone by checking, so the texts stay readable. -/
namespace GenericAuth

open Interaction

/-! ### External functions -/

def hexDecode (digits : List Char) : Nat :=
  digits.foldl (fun value digit =>
    16 * value + (if digit.toNat < 58 then digit.toNat - 48 else digit.toNat - 87)) 0

/-- Hexadecimal digits without leading zeros. -/
def hexDigits {width : Nat} (bits : BitVec width) : List Char :=
  ((List.range (width / 4)).reverse.map fun i => hexDigit (bits.toNat >>> (4 * i) % 16)).dropWhile
    (· == '0')

/-- Secret, issuer, subject, role, times and token id, separated by dots. -/
def signedToken (secret : String) (claims : Claims) : String :=
  String.ofList (secret.toList ++ '.' :: claims.iss.toList ++ '.' :: hexDigits claims.sub ++
    '.' :: claims.role.toList ++ '.' :: hexDigits claims.iat.toBitVec ++
    '.' :: hexDigits claims.exp.toBitVec ++ '.' :: hexDigits claims.jti)

def openToken (secret issuer : String) (now : Int64) (token : String) : Except String Claims :=
  match token.toList.splitOn '.' with
  | [signer, iss, sub, role, iat, exp, jti] =>
      let claims : Claims :=
        { sub := .ofNat 128 (hexDecode sub), role := .ofList role, iss := .ofList iss,
          iat := .ofBitVec (.ofNat 64 (hexDecode iat)),
          exp := .ofBitVec (.ofNat 64 (hexDecode exp)), jti := .ofNat 128 (hexDecode jti) }
      if signer = secret.toList ∧ claims.iss = issuer ∧ now ≤ claims.exp then .ok claims
      else .error "InvalidToken"
  | _ => .error "InvalidToken"

@[reducible] def reference : External where
  lower email := email
  sha256Hex text := "sha256-" ++ text
  argon2Hash plain salt := .ok (salt ++ "$" ++ plain)
  argon2Verify plain phc := .ok (phc.toList.dropWhile (· ≠ '$') == '$' :: plain.toList)
  jwtEncode secret claims := .ok (signedToken secret claims)
  jwtDecode := openToken
  validateEmail email := email.toList.contains '@'
  redirectUrl _ := .ok ()
  authorizeUrl clientId redirectUrl csrf := clientId ++ " " ++ redirectUrl ++ " " ++ csrf

theorem reference_sha256Hex_injective : Function.Injective reference.sha256Hex := by
  intro first second h
  change "sha256-" ++ first = "sha256-" ++ second at h
  simpa using h

/-! ### The framework -/

/-- A body of JSON text. -/
def jsonBody (text : String) : Body := ⟨some "application/json", .ok text.toUTF8.data.toList⟩

/-- Only these texts are decoded. -/
def decoded {Value : Type} (texts : List (String × Value)) : Extractor Body Value := fun body =>
  match texts.find? fun text => body = jsonBody text.1 with
  | some (_, value) => .ok value
  | none => .error ⟨⟨400, "Failed to parse the request body as JSON"⟩, by decide⟩

/-- The rest of a query that consists of this one pair. -/
def queried {Value : Type} (name : String) (value : String → Value) :
    Extractor (Option String) Value := fun query =>
  match query.bind (stripPrefix name) with
  | some text => .ok (value text)
  | none => .error ⟨⟨400, "Failed to deserialize query string"⟩, by decide⟩

def registrationText : String :=
  "\x7b\"email\":\"user@example.org\",\"password\":\"password\"\x7d"

def moderatorText : String := "\x7b\"role\":\"moderator\"\x7d"

@[reducible] def referenceFramework : Framework where
  route http :=
    match router.find? fun route => route.accepts http.method && route.matches http.path with
    | some route => .ok ⟨route.handler, (route.captures http.path).getD []⟩
    | none => .error ⟨if router.any fun route => route.matches http.path then 405 else 404, ""⟩
  pathUuid
    | [segment] =>
        if segment.length = 36 then .ok (.ofNat 128 (hexDecode (segment.filter (· ≠ '-'))))
        else .error ⟨⟨400, "Invalid URL"⟩, by decide⟩
    | _ => .error ⟨⟨500, "Wrong number of path arguments"⟩, by decide⟩
  verifyEmailQuery := queried "token=" fun token => ⟨token⟩
  oauthCallbackQuery := queried "code=" fun code => ⟨code, none⟩
  page
    | none => .ok (none, none)
    | some _ => .error ⟨⟨400, "Failed to deserialize query string"⟩, by decide⟩
  registerReq := decoded [(registrationText, ⟨"user@example.org", "password", none⟩)]
  loginReq := decoded [(registrationText, ⟨"user@example.org", "password"⟩)]
  refreshReq := decoded []
  logoutReq := decoded []
  forgotPasswordReq := decoded []
  resetPasswordReq := decoded []
  setRoleReq := decoded [(moderatorText, ⟨.moderator⟩)]
  setActiveReq := decoded []
  grantPermReq := decoded []

theorem referenceFramework_routes : @Framework.Routes referenceFramework router := by
  intro http target h
  change (match router.find? fun route => route.accepts http.method && route.matches http.path with
    | some route => Except.ok (⟨route.handler, (route.captures http.path).getD []⟩ : Target)
    | none => .error _) = _ at h
  split at h
  · next route hRoute =>
      have hTest := List.find?_some hRoute
      simp only [Bool.and_eq_true] at hTest
      obtain ⟨segments, hSegments⟩ := Option.isSome_iff_exists.mp hTest.2
      cases h
      exact ⟨route, List.mem_of_find?_eq_some hRoute, rfl, hTest.1, by simp [hSegments]⟩
  · cases h

/-! ### Settings and draws -/

def exampleState : AppState := AppState.build
  { http := { publicUrl := "http://localhost:8080" }
    auth := { jwtSecret := "secret", jwtAccessTtlMin := 15, jwtRefreshTtlDays := 30,
              passwordMinLength := 8
              google := { clientId := "client", clientSecret := "", redirectUrl := "" } } }

/-- The `n`-th moment of a run: later than the moments before, with random bits
of its own, and without a failure. -/
def moment (n : Nat) : Draw where
  now := 1750000000000000 + n
  dbNow := 1750000000000000 + n
  uuid := .ofNat 128 (n + 1)
  bytes := .ofNat 256 (n + 1)
  salt := hexEncode (.ofNat 64 n : BitVec 64)
  fault := none
  profile := .error "no such code"
  tieBreak := fun id => id.toNat

/-- `count` steps of client `i`, at the moments from `n` on. -/
def steps (i n count : Nat) : List (Pool.Move Request Draw) :=
  (List.range count).map fun k => .step i (moment (n + k))

/-- A first client registers, and completes at moment 13. -/
def registration : List (Pool.Move Request Draw) :=
  .arrive (.register ⟨"user@example.org", "password", none⟩) :: steps 0 0 14

def firstUser : Uuid := (moment 2).uuid

/-- The refresh token that the registration returns. -/
def firstToken : String := hexEncode (moment 5).bytes

def resetToken : String := hexEncode (moment 21).uuid ++ hexEncode (moment 22).uuid

/-- The header with the access token of a user whose login reads the clock at
moment `n`. -/
def headerFor (userId : Uuid) (role : Role) (n : Nat) : String :=
  "Bearer " ++ signedToken "secret"
    (exampleState.jwt.claims userId role (moment n).now (moment (n + 1)).uuid)

/-- The administrator who is created by the first three steps of a run. -/
def firstAdmin : Uuid := (moment 2).uuid

/-- The first user registers and asks for a reset. -/
def resetRequested : List (Pool.Move Request Draw) :=
  registration ++ [.arrive (.forgotPassword ⟨"user@example.org"⟩)] ++ steps 1 20 6

/-- The step of client `i` in which the provider answers with a profile. -/
def exchange (i n : Nat) (profile : GoogleProfile) : Pool.Move Request Draw :=
  .step i { moment n with profile := .ok profile }

/-- Twenty moments over and over, from the `start`-th on. -/
def moments (start : Nat) : Stream' Draw := fun n => moment (start + n % 20)

@[simp] theorem moments_get (start n : Nat) :
    (moments start).get n = moment (start + n % 20) := rfl

/-- Twenty draws over and over, all at one time. -/
def momentsAt (t : OffsetDateTime) : Stream' Draw := fun n =>
  { moment (20 + n % 20) with now := t, dbNow := t }

/-- Sessions last for almost eight thousand years. -/
def farState : AppState := AppState.build
  { exampleState.settings with
    auth := { exampleState.settings.auth with jwtRefreshTtlDays := 2912642 } }

/-- A day after the registration a new session would outlast the calendar. -/
def farTime : OffsetDateTime := (moment 0).now + 86400000000

/-- The same moments, at one of which a statement fails. -/
def momentsFailing (start k : Nat) : Stream' Draw := fun n =>
  if n = k then { moment (start + n % 20) with fault := some (.database "server closed the connection") }
  else moment (start + n % 20)

/-- A test of every profile that the provider returns in a run. -/
theorem exchange_profile [External] {pool : ServerPool} {test : GoogleProfile → Bool} {l i : Nat}
    {draw : Draw}
    {code : String} {profile : GoogleProfile}
    (h : (pool.log.all fun event => event.draw.profile.toOption.all test) = true)
    (step : pool.Executed answer l i draw (.exchangeCode code) (.ok profile)) :
    test profile = true := by
  have hProfile : draw.profile = .ok profile := (Prod.mk.inj step.effect).1
  have hEvent := List.all_eq_true.mp h _ (List.mem_of_getElem? step.event)
  simpa [hProfile, Except.toOption] using hEvent

/-- No two operations drew the same random bits. -/
def FreshDraws [External] (pool : ServerPool) : Prop :=
  (pool.log.map fun event => event.draw.bytes).Nodup ∧
    (pool.log.map fun event => event.draw.uuid).Nodup

instance [External] (pool : ServerPool) : Decidable (FreshDraws pool) :=
  inferInstanceAs (Decidable (_ ∧ _))

/-- The outcome is an error. -/
def stopped {Value : Type} (outcome : Except Stop Value) : Bool :=
  match outcome with
  | .error _ => true
  | .ok _ => false

theorem error_of_stopped {Value : Type} {outcome : Except Stop Value}
    (h : stopped outcome = true) : ∃ stop, outcome = .error stop := by
  cases outcome with
  | error stop => exact ⟨stop, rfl⟩
  | ok value => cases h

theorem moments_newSessions [External] {db : Db} (start : Nat) (h : ((List.range 20).all fun n =>
      db.refreshTokens.rows.all fun row => row.id != (moment (start + n)).uuid &&
        row.tokenHash != hashRefreshToken (hexEncode (moment (start + n)).bytes)) = true) :
    db.NewSessions (moments start) := by
  intro n k row hMem
  have unused (n : Nat) := List.all_eq_true.mp (List.all_eq_true.mp h (n % 20)
    (List.mem_range.mpr (Nat.mod_lt n (by decide)))) row hMem
  simp only [Bool.and_eq_true, bne_iff_ne] at unused
  exact ⟨(unused n).1, (unused k).2⟩

theorem momentsAt_newSessions [External] {db : Db} {t : OffsetDateTime}
    (new : db.NewSessions (moments 20)) : db.NewSessions (momentsAt t) :=
  fun n k row hMem => new n k row hMem

section Moments

attribute [local instance] reference

/-- One user has registered and holds the first token. -/
def registered : ServerPool :=
  Pool.play answer (handle exampleState) migrated registration

theorem registered_run : ServerRun exampleState migrated registered := Runs.play _

/-- An administrator has been created. -/
def staffed : ServerPool :=
  Pool.play answer (handle exampleState) migrated
    (.arrive (.createAdmin ⟨"admin@example.org", "password"⟩) :: steps 0 0 4)

theorem staffed_run : ServerRun exampleState migrated staffed := Runs.play _

theorem moments_smooth (start : Nat) (hRange : ((List.range 20).all fun k =>
      (deadline (moment (start + k)).now (TDuration.days 30)).toOption.isSome &&
        (deadline (moment (start + k)).now (TDuration.hours 24)).toOption.isSome) = true) :
    Smooth exampleState (moments start) := by
  have inRange (n : Nat) := List.all_eq_true.mp hRange (n % 20)
    (List.mem_range.mpr (Nat.mod_lt n (by decide)))
  have value {result : Except Stop OffsetDateTime} (h : result.toOption.isSome = true) :
      ∃ instant, result = .ok instant := by
    cases result with
    | error stop => cases h
    | ok instant => exact ⟨instant, rfl⟩
  simp only [Bool.and_eq_true] at inRange
  exact ⟨fun _ => rfl, fun _ _ => ⟨_, rfl⟩, fun _ _ _ _ => ⟨_, rfl⟩, fun n => value (inRange n).1,
    fun n => value (inRange n).2⟩

/-- The user whose token a header carries, at whatever time it is checked. -/
def subjectOf (header : String) : Option Uuid :=
  ((stripPrefix "Bearer " header).map trim).bind fun token =>
    match token.toList.splitOn '.' with
    | [_, _, sub, _, _, _, _] => some (.ofNat 128 (hexDecode sub))
    | _ => none

theorem subjectOf_of_presents {header : String} {now : OffsetDateTime} {sub : Uuid}
    (presents : Presents exampleState (some header) now sub) : subjectOf header = some sub := by
  obtain ⟨_, token, claims, ⟨⟩, hToken, hClaims, rfl⟩ := presents
  change openToken _ _ _ token = .ok claims at hClaims
  unfold openToken at hClaims
  split at hClaims
  · next hSplit =>
      simp only [subjectOf, hToken, Option.bind_some, hSplit]
      dsimp only at hClaims
      split at hClaims
      · cases hClaims
        rfl
      · cases hClaims
  · cases hClaims

/-- The user whose token a header carries, if it is accepted at this time. -/
def acceptedAt (header : String) (now : OffsetDateTime) : Option Uuid :=
  ((stripPrefix "Bearer " header).map trim).bind fun token =>
    (openToken "secret" "generic-auth" now.unixTimestamp token).toOption.map Claims.sub

theorem presents_of_acceptedAt {header : String} {now : OffsetDateTime} {sub : Uuid}
    (h : acceptedAt header now = some sub) : Presents exampleState (some header) now sub := by
  obtain ⟨token, hToken, hDecoded⟩ := Option.bind_eq_some_iff.mp h
  obtain ⟨claims, hClaims, hSub⟩ := Option.map_eq_some_iff.mp hDecoded
  refine ⟨header, token, claims, rfl, hToken, ?_, hSub⟩
  change openToken "secret" "generic-auth" now.unixTimestamp token = .ok claims
  cases hOpen : openToken "secret" "generic-auth" now.unixTimestamp token with
  | error e => simp [hOpen, Except.toOption] at hClaims
  | ok opened => simpa [hOpen, Except.toOption] using hClaims

end Moments

end GenericAuth
