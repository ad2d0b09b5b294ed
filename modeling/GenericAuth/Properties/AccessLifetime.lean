import GenericAuth.Api.Writes
import GenericAuth.Auth.Reference
import Mathlib.Algebra.Group.Int.Defs
import Mathlib.Algebra.Group.Nat.Defs

/-! How long an access token is accepted. The time of expiry in the token, the
lifetime in the answer and the test of the decoder are computed in three places;
the decoder grants a minute more than the other two say. -/
namespace GenericAuth

open Interaction

section Lifetime

variable [External] {state : AppState} {draws : Stream' Draw} {db : Db}

/-- What the token library promises: an encoded token opens to its claims for the
expected issuer, until it has been expired for more than a minute. -/
def Decodes : Prop :=
  ∀ secret claims token, External.jwtEncode secret claims = .ok token →
    ∀ issuer (now : Int64) opened, External.jwtDecode secret issuer now token = .ok opened ↔
      opened = claims ∧ claims.iss = issuer ∧ ¬claims.exp.toInt < now.toInt - 60

/-! ### Pairs -/

/-- The access token was issued at this reading of the clock. -/
def IssuedAt (state : AppState) (calls : Calls) (token : String) (now : OffsetDateTime) : Prop :=
  (⟨.nowUtc, now⟩ : Call Op Op.Reply) ∈ calls ∧ ∃ userId role jti,
    External.jwtEncode state.jwt.cfg.secret (state.jwt.claims userId role now jti) = .ok token

/-- The pair's access token was issued at a time that the request has read, and the
pair announces the lifetime of the settings. -/
def Announced (state : AppState) (calls : Calls) (pair : TokenPair) : Prop :=
  pair.accessExpiresIn = state.settings.auth.jwtAccessTtlMin * 60 ∧
    ∃ now, IssuedAt state calls pair.accessToken now

/-- A pair that is returned was issued before. -/
theorem Course.issued {request : Request} {calls : Calls} {outcome : Outcome} {pair : TokenPair}
    (course : Course state request calls outcome) (issues : request.issues = true)
    (hPair : outcome = .ok (.tokenPair pair)) :
    ∃ userId role more, IssueCourse state userId role none more (.ok pair) ∧ more ⊆ calls := by
  cases request with
  | register body =>
      have enrolled {first : Calls} (enrol : EnrolCourse state body first (.ok pair)) :
          ∃ userId role more, IssueCourse state userId role none more (.ok pair) ∧
            more ⊆ first := by
        cases enrol with
        | created account issue => exact ⟨_, _, _, issue, List.subset_append_right _ _⟩
      cases course with
      | refused => cases hPair
      | notFound enrol | unknown enrol =>
          cases hPair
          obtain ⟨userId, role, more, issue, h⟩ := enrolled enrol
          exact ⟨userId, role, more, issue, List.Subset.trans h (List.subset_append_left _ _)⟩
      | @mailed _ _ _ result enrol =>
          cases result with
          | error stop => cases hPair
          | ok sent =>
              cases hPair
              obtain ⟨userId, role, more, issue, h⟩ := enrolled enrol
              exact ⟨userId, role, more, issue, List.Subset.trans h (List.subset_append_left _ _)⟩
  | login body =>
      cases course with
      | issued _ _ _ issue =>
          obtain rfl := pair_of_map hPair
          exact ⟨_, _, _, issue, List.subset_cons_self _ _⟩
      | _ => cases hPair
  | refresh body =>
      cases course with
      | issued _ _ _ issue =>
          obtain rfl := pair_of_map hPair
          exact ⟨_, _, _, issue, List.subset_append_right _ _⟩
      | _ => cases hPair
  | googleCallback q =>
      cases course with
      | @signedIn _ _ _ _ _ result _ issue =>
          obtain rfl := pair_of_map hPair
          exact ⟨_, _, _, issue, List.subset_append_right _ _⟩
      | _ => cases hPair
  | _ => cases issues

/-- Every pair that the server returns was announced. -/
theorem handle_announces (state : AppState) (request : Request) :
    (handle state request).Obeys Unrestricted
      (fun calls outcome => ∀ pair, outcome = .ok (.tokenPair pair) → Announced state calls pair)
      [] := by
  cases issues : request.issues with
  | true =>
      apply (handle_takes state request).imp
      intro calls outcome course pair hPair
      obtain ⟨userId, role, more, issue, h⟩ := course.issued issues hPair
      cases issue with
      | stored signed => exact ⟨rfl, _, h (by simp), userId, role, _, signed⟩
  | false =>
      apply (handle_payload state request).imp
      rintro calls outcome noPair pair rfl
      cases (noPair _ rfl).trans issues

/-! ### Verification -/

/-- The lifetime is positive, and neither it nor the time of expiry overflows. -/
structure InRange (accessTtlMin now : Int64) : Prop where
  positive : 0 < accessTtlMin.toInt
  lifetime : accessTtlMin.toInt * 60 < 2 ^ 63
  expiry : now.toInt + accessTtlMin.toInt * 60 < 2 ^ 63

omit [External] in
theorem toInt_lifetime {m : Int64} (positive : 0 < m.toInt) (h : m.toInt * 60 < 2 ^ 63) :
    (m * 60).toInt = m.toInt * 60 := by
  rw [Int64.toInt_mul, show (60 : Int64).toInt = 60 from rfl]
  apply Int.bmod_eq_of_le <;> omega

omit [External] in
theorem InRange.toInt_expiry {m now : Int64} (h : InRange m now) :
    (now + m * 60).toInt = now.toInt + m.toInt * 60 := by
  have hLeast := now.le_toInt
  have positive := h.positive
  have expiry := h.expiry
  rw [Int64.toInt_add, toInt_lifetime positive h.lifetime]
  apply Int.bmod_eq_of_le <;> omega

/-- The verification of a token, executed alone. -/
def verification (codec : JwtCodec) (token : String) (draws : Stream' Draw) (db : Db) :
    Except AppError Claims :=
  outcomeOf (codec.verify (m := Server) token).run draws db

/-- An issued token is verified until a minute after its expiry, and gives back
whom it was issued for. -/
theorem verification_iff (decodes : Decodes) {codec : JwtCodec} {userId jti : Uuid} {role : Role}
    {issued : OffsetDateTime} {token : String} (draws : Stream' Draw) (db : Db)
    (range : InRange codec.cfg.accessTtlMin issued.unixTimestamp)
    (hToken : External.jwtEncode codec.cfg.secret (codec.claims userId role issued jti) = .ok token)
    (claims : Claims) :
    verification codec token draws db = .ok claims ↔
      claims = codec.claims userId role issued jti ∧
        (draws.get 0).now.unixTimestamp.toInt ≤
          issued.unixTimestamp.toInt + codec.cfg.accessTtlMin.toInt * 60 + 60 := by
  have hDecode := decodes _ _ _ hToken codec.cfg.issuer (draws.get 0).now.unixTimestamp claims
  have hExpiry : (codec.claims userId role issued jti).exp.toInt =
      issued.unixTimestamp.toInt + codec.cfg.accessTtlMin.toInt * 60 := range.toInt_expiry
  have hVerify : verification codec token draws db = .ok claims ↔
      External.jwtDecode codec.cfg.secret codec.cfg.issuer (draws.get 0).now.unixTimestamp token =
        .ok claims := by
    simp [verification, outcomeOf]
    cases External.jwtDecode codec.cfg.secret codec.cfg.issuer draws.head.now.unixTimestamp token <;>
      simp
  rw [hVerify, hDecode, hExpiry]
  refine and_congr_right fun _ => ?_
  constructor
  · rintro ⟨_, hTime⟩
    omega
  · intro hTime
    exact ⟨rfl, by omega⟩

/-- A token that is issued at `t₀` is verified exactly up to a minute after
`t₀ + 60 * m`. The pairs of the server announce `60 * m` seconds, for tokens that
were issued at a time that the request has read. -/
theorem access_lifetime (decodes : Decodes) {m : Int64} (hCodec : state.jwt.cfg.accessTtlMin = m)
    (hSettings : state.settings.auth.jwtAccessTtlMin = m) :
    (∀ userId role draws db token,
      outcomeOf (state.jwt.issue (m := Server) userId role).run draws db = .ok token →
      InRange m (draws.get 0).now.unixTimestamp → ∀ draws' db',
        ((∃ claims, verification state.jwt token draws' db' = .ok claims) ↔
          (draws'.get 0).now.unixTimestamp.toInt ≤
            (draws.get 0).now.unixTimestamp.toInt + 60 * m.toInt + 60) ∧
        ∀ claims, verification state.jwt token draws' db' = .ok claims →
          claims.sub = userId ∧ claims.role = role.asStr) ∧
    ∀ request draws db pair, outcomeOf (handle state request) draws db = .ok (.tokenPair pair) →
      (∃ now, IssuedAt state (callsOf (handle state request) draws db) pair.accessToken now) ∧
      ∀ now, IssuedAt state (callsOf (handle state request) draws db) pair.accessToken now →
        InRange m now.unixTimestamp →
          pair.accessExpiresIn.toInt = 60 * m.toInt ∧ ∀ draws' db',
            ((∃ claims, verification state.jwt pair.accessToken draws' db' = .ok claims) ↔
              (draws'.get 0).now.unixTimestamp.toInt ≤
                now.unixTimestamp.toInt + pair.accessExpiresIn.toInt + 60) := by
  subst hCodec
  constructor
  · intro userId role draws db token hIssued range draws' db'
    have hToken : External.jwtEncode state.jwt.cfg.secret
        (state.jwt.claims userId role draws.head.now (draws.get 1).uuid) = .ok token := by
      simp [outcomeOf] at hIssued
      cases hEncode : External.jwtEncode state.jwt.cfg.secret
          (state.jwt.claims userId role draws.head.now (draws.get 1).uuid) with
      | error e => simp [hEncode] at hIssued
      | ok encoded => simpa [hEncode] using hIssued
    have verified := verification_iff decodes draws' db' range hToken
    constructor
    · simp only [verified, exists_eq_left]
      omega
    · intro claims hClaims
      obtain ⟨rfl, _⟩ := (verified claims).mp hClaims
      exact ⟨rfl, rfl⟩
  · intro request draws db pair hPair
    obtain ⟨hLifetime, issued⟩ :=
      obeys_alone (handle_announces state request) draws db pair hPair
    refine ⟨issued, ?_⟩
    rintro now ⟨_, userId, role, jti, hToken⟩ range
    have hAnnounced : pair.accessExpiresIn.toInt = 60 * state.jwt.cfg.accessTtlMin.toInt := by
      rw [hLifetime, hSettings, toInt_lifetime range.positive range.lifetime, Int.mul_comm]
    refine ⟨hAnnounced, fun draws' db' => ?_⟩
    simp only [verification_iff decodes draws' db' range hToken, hAnnounced, exists_eq_left]
    omega

end Lifetime
/-! ### The reference instance with a leeway -/

section Runs

/-- The value of a hexadecimal digit. -/
def hexValue (digit : Char) : Nat :=
  if digit.toNat < 58 then digit.toNat - 48 else digit.toNat - 87

theorem hexValue_hexDigit {n : Nat} (h : n < 16) : hexValue (hexDigit n) = n := by
  have table : ∀ n : Fin 16, hexValue (hexDigit n) = n := by decide
  exact table ⟨n, h⟩

theorem hexDigit_ne_dot {n : Nat} (h : n < 16) : hexDigit n ≠ '.' := by
  have table : ∀ n : Fin 16, hexDigit n ≠ '.' := by decide
  exact table ⟨n, h⟩

theorem hexDecode_eq (digits : List Char) :
    hexDecode digits = digits.foldl (fun value digit => 16 * value + hexValue digit) 0 := rfl

/-- Leading zeros do not count. -/
theorem hexDecode_dropWhile (digits : List Char) :
    hexDecode (digits.dropWhile (· == '0')) = hexDecode digits := by
  induction digits with
  | nil => rfl
  | cons digit digits ih =>
      by_cases h : digit = '0'
      · subst h
        rw [List.dropWhile_cons_of_pos (by decide), ih]
        rfl
      · rw [List.dropWhile_cons_of_neg (by simpa using h)]

theorem foldl_digits (n k value : Nat) :
    (((List.range k).reverse.map fun i => hexDigit (n >>> (4 * i) % 16)).foldl
      (fun value digit => 16 * value + hexValue digit) value) = value * 16 ^ k + n % 16 ^ k := by
  induction k generalizing value with
  | zero => simp [Nat.mod_one]
  | succ k ih =>
      have hDigit : n >>> (4 * k) % 16 = n / 16 ^ k % 16 := by
        rw [Nat.shiftRight_eq_div_pow, Nat.pow_mul]
      rw [List.range_succ, List.reverse_append, List.reverse_singleton, List.singleton_append,
        List.map_cons, List.foldl_cons, ih, hexValue_hexDigit (Nat.mod_lt _ (by decide)), hDigit,
        Nat.pow_succ, Nat.mod_mul, Nat.add_mul, Nat.mul_comm 16 value, Nat.mul_assoc, Nat.mul_comm 16,
        Nat.mul_comm (16 ^ k) (n / 16 ^ k % 16), Nat.add_assoc, Nat.add_comm (n % 16 ^ k)]

theorem hexDecode_hexDigits {width : Nat} (hWidth : width % 4 = 0) (bits : BitVec width) :
    hexDecode (hexDigits bits) = bits.toNat := by
  have hPow : 16 ^ (width / 4) = 2 ^ width := by
    rw [show (16 : Nat) = 2 ^ 4 from rfl, ← Nat.pow_mul]
    congr 1
    omega
  rw [hexDigits, hexDecode_dropWhile, hexDecode_eq, foldl_digits, hPow, Nat.zero_mul, Nat.zero_add,
    Nat.mod_eq_of_lt bits.isLt]

theorem dot_notMem_hexDigits {width : Nat} (bits : BitVec width) : '.' ∉ hexDigits bits := by
  intro hMem
  obtain ⟨i, _, hDigit⟩ := List.mem_map.mp ((List.dropWhile_sublist _).mem hMem)
  exact hexDigit_ne_dot (Nat.mod_lt _ (by decide)) hDigit

/-- The texts of a token contain no separator. -/
def Undotted (secret : String) (claims : Claims) : Prop :=
  '.' ∉ secret.toList ∧ '.' ∉ claims.iss.toList ∧ '.' ∉ claims.role.toList

instance (secret : String) (claims : Claims) : Decidable (Undotted secret claims) :=
  inferInstanceAs (Decidable (_ ∧ _))

/-- Such a token opens to what was signed. -/
theorem openToken_signedToken {secret secret' issuer : String} {claims : Claims} {now : Int64}
    (undotted : Undotted secret claims) :
    openToken secret' issuer now (signedToken secret claims) =
      if secret = secret' ∧ claims.iss = issuer ∧ now ≤ claims.exp then .ok claims
      else .error "InvalidToken" := by
  have hText : (signedToken secret claims).toList = ['.'].intercalate
      [secret.toList, claims.iss.toList, hexDigits claims.sub, claims.role.toList,
        hexDigits claims.iat.toBitVec, hexDigits claims.exp.toBitVec, hexDigits claims.jti] := by
    simp [signedToken, List.intercalate]
  have hParts : (signedToken secret claims).toList.splitOn '.' =
      [secret.toList, claims.iss.toList, hexDigits claims.sub, claims.role.toList,
        hexDigits claims.iat.toBitVec, hexDigits claims.exp.toBitVec, hexDigits claims.jti] := by
    rw [hText, List.splitOn_intercalate]
    · obtain ⟨hSecret, hIss, hRole⟩ := undotted
      simp [hSecret, hIss, hRole, dot_notMem_hexDigits]
    · simp
  simp [openToken, hParts, hexDecode_hexDigits]
  simp only [String.toList_inj]

/-- A token is opened for another minute after its expiry. -/
def openLenient (secret issuer : String) (now : Int64) (token : String) : Except String Claims :=
  match openToken secret issuer Int64.minValue token with
  | .error e => .error e
  | .ok claims => if claims.exp.toInt < now.toInt - 60 then .error "ExpiredSignature" else .ok claims

/-- The reference instance with this leeway. Texts with a separator are not signed. -/
@[reducible] def lenient : External :=
  { reference with
    jwtEncode := fun secret claims =>
      if Undotted secret claims then .ok (signedToken secret claims) else .error "separator"
    jwtDecode := openLenient }

attribute [local instance] lenient

theorem lenient_decodes : Decodes := by
  intro secret claims token hEncode issuer now opened
  change (if Undotted secret claims then _ else _) = _ at hEncode
  split at hEncode
  · next undotted =>
      obtain rfl := Except.ok.inj hEncode
      have least : Int64.minValue ≤ claims.exp := Int64.minValue_le claims.exp
      change openLenient secret issuer now _ = _ ↔ _
      rw [openLenient, openToken_signedToken undotted]
      by_cases hIssuer : claims.iss = issuer
      · by_cases hExpired : claims.exp.toInt < now.toInt - 60 <;>
          simp [hIssuer, least, hExpired, eq_comm]
      · simp [hIssuer]
  · cases hEncode

/-- The token of a user, issued for a quarter of an hour. -/
def quarterToken : String :=
  signedToken "secret" (exampleState.jwt.claims firstUser .user (moment 0).now (moment 1).uuid)

theorem quarterToken_issued :
    outcomeOf (exampleState.jwt.issue (m := Server) firstUser .user).run (moments 0) migrated =
      .ok quarterToken := by decide +kernel

/-- A number of seconds after the token was issued. -/
def secondsLater (n : Nat) : Stream' Draw := momentsAt ((moment 0).now + n * 1000000)

/-- The token is verified when its lifetime is over. -/
theorem token_outlives_lifetime : ∃ (state : AppState) (userId : Uuid) (role : Role) (token : String)
      (draws draws' : Stream' Draw) (db : Db), Decodes ∧
    state.jwt.cfg.accessTtlMin = state.settings.auth.jwtAccessTtlMin ∧
    outcomeOf (state.jwt.issue (m := Server) userId role).run draws db = .ok token ∧
    (draws'.get 0).now.unixTimestamp.toInt =
      (draws.get 0).now.unixTimestamp.toInt + 60 * state.settings.auth.jwtAccessTtlMin.toInt ∧
    (verification state.jwt token draws' db).isOk = true :=
  ⟨exampleState, firstUser, .user, quarterToken, moments 0, secondsLater 900, migrated,
    lenient_decodes, rfl, quarterToken_issued, by decide +kernel, by decide +kernel⟩

/-- It is verified after sixteen minutes, and a second later no longer. -/
theorem access_lifetime_quarter :
    (∃ claims, verification exampleState.jwt quarterToken (secondsLater 960) migrated = .ok claims) ∧
    ¬∃ claims, verification exampleState.jwt quarterToken (secondsLater 961) migrated = .ok claims := by
  have range : InRange 15 ((moments 0).get 0).now.unixTimestamp :=
    ⟨by decide +kernel, by decide +kernel, by decide +kernel⟩
  have issued := (access_lifetime lenient_decodes
    (rfl : exampleState.jwt.cfg.accessTtlMin = 15) rfl).1 firstUser .user
    (moments 0) migrated quarterToken quarterToken_issued range
  constructor
  · exact (issued (secondsLater 960) migrated).1.mpr (by decide +kernel)
  · intro verified
    exact absurd ((issued (secondsLater 961) migrated).1.mp verified) (by decide +kernel)

end Runs

end GenericAuth
