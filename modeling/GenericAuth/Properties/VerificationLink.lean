import GenericAuth.Api.Routes
import GenericAuth.Properties.ResetMailbox

/-! Where the link in a verification mail leads. The link is put together from the
public URL of the server and a path that leaves out the prefixes under which the
routes are nested. -/
namespace GenericAuth

open Interaction Relational Web

/-- The token of the mail, from the first two draws. -/
def mailToken (draws : Stream' Draw) : String :=
  hexEncode (draws.get 0).uuid ++ hexEncode (draws.get 1).uuid

/-! ### The link as a URL -/

theorem hexEncode_alphanum {width : Nat} {bits : BitVec width} {c : Char}
    (h : c ∈ (hexEncode bits).toList) : c.isAlphanum = true := by
  have digits : ∀ n : Fin 16, (hexDigit n).isAlphanum = true := by decide
  rw [hexEncode, String.toList_ofList] at h
  obtain ⟨i, _, rfl⟩ := List.mem_map.mp h
  exact digits ⟨_, Nat.mod_lt _ (by decide)⟩

theorem mailToken_alphanum {draws : Stream' Draw} {c : Char} (h : c ∈ (mailToken draws).toList) :
    c.isAlphanum = true := by
  rw [mailToken, String.toList_append] at h
  rcases List.mem_append.mp h with h | h <;> exact hexEncode_alphanum h

/-- A path that clients send as it is written: letters, digits and hyphens between
slashes. -/
def PlainPath (base : String) : Prop :=
  (base = "" ∨ base.toList.head? = some '/') ∧
    ∀ c ∈ base.toList, c.isAlphanum = true ∨ c = '-' ∨ c = '/'

theorem verificationLink_parse {state : AppState} {origin : Origin} {base token : String}
    (hUrl : state.settings.http.publicUrl = origin.text ++ base) (plain : PlainPath base)
    (hToken : ∀ c ∈ token.toList, c.isAlphanum = true) :
    Url.parse (verificationLink state token) =
      some ⟨origin.scheme, origin.authority, (base ++ "/verify-email").toList,
        some ("token=" ++ token).toList⟩ := by
  have hLink : verificationLink state token =
      origin.text ++ (base ++ "/verify-email") ++ "?" ++ ("token=" ++ token) := by
    rw [verificationLink, hUrl,
      show "/verify-email?token=" = "/verify-email" ++ "?" ++ "token=" from rfl]
    simp only [String.append_assoc]
  obtain ⟨rest, hSlash⟩ : ∃ rest, (base ++ "/verify-email").toList = '/' :: rest := by
    rcases plain.1 with rfl | hHead
    · exact ⟨_, rfl⟩
    · obtain ⟨rest, hBase⟩ := List.head?_eq_some_iff.mp hHead
      exact ⟨rest ++ "/verify-email".toList, by rw [String.toList_append, hBase, List.cons_append]⟩
  rw [hLink]
  apply Url.parse_append origin hSlash
  · intro c hMem
    rw [String.toList_append] at hMem
    rcases List.mem_append.mp hMem with hMem | hMem
    · rcases plain.2 c hMem with h | rfl | rfl
      · rintro (_ | ⟨_, _ | ⟨_, ⟨⟩⟩⟩) <;> exact absurd h (by decide)
      · decide
      · decide
    · have free : ∀ c ∈ "/verify-email".toList, c ∉ ['?', '#'] := by simp
      exact free c hMem
  · intro hMem
    rw [String.toList_append] at hMem
    rcases List.mem_append.mp hMem with hMem | hMem
    · exact absurd hMem (by decide)
    · exact absurd (hToken _ hMem) (by decide)

/-! ### The link as a request -/

section Links

variable [External] {state : AppState} {draws : Stream' Draw} {db : Db} {origin : Origin}
    {base token : String} {userId : Uuid}

/-- The only mail that is sent, if any, has the link with the token. -/
theorem verification_mailed (userId : Uuid) (email : String) : ∀ mail ∈ mailsIn
      ((spawnVerificationEmail state userId email).run.trace answer draws db),
    mail = (email, verificationText (verificationLink state (mailToken draws))) := by
  intro mail
  simp only [spawnVerificationEmail, sendVerificationEmail, sendEmail, ExceptT.run_bind]
  cases hInstant : deadline (draws.get 2).now (TDuration.hours 24) with
  | error stop => simp [hInstant, mailsIn, Program.trace]
  | ok instant =>
      simp [hInstant, mailsIn, Program.trace]
      -- the mail follows only a token that was stored
      rcases answer (draws.get 3) db (.sql (.storeEmailVerificationToken userId
          (sha256Hex (hexEncode draws.head.uuid ++ hexEncode (draws.get 1).uuid)) instant)) with
        ⟨error | rows, after⟩
      · simp [Except.mapError, Program.trace]
      · simp [Except.mapError, Program.trace]
        rintro rfl
        rfl

/-- A GET of a token that is stored, not used and in time confirms the address of its
owner. -/
theorem verifyEmail_marks (hFaults : ∀ n, (draws.get n).fault = none) {row : OneTimeTokenRow}
    (hMem : row ∈ db.emailVerificationTokens.rows) (hHash : row.tokenHash = sha256Hex token)
    (hUnused : row.usedAt = none) (hInTime : draws.head.dbNow < row.expiresAt) :
    outcomeOf (handle state (.verifyEmail ⟨token⟩)) draws db = .ok .empty ∧
    (storeAfter (handle state (.verifyEmail ⟨token⟩)) draws db).users.rows =
      db.users.rows.map fun user =>
        if user.id = row.userId then
          { user with emailVerified := true, updatedAt := (draws.get 1).dbNow }
        else user := by
  have hFind : db.emailVerificationTokens.find (Db.consumable draws.head (sha256Hex token)) =
      some row := by
    apply Table.find_eq_some OneTimeTokenRow.clash_comm
    · intro first second h h'
      simp_all [Db.consumable, OneTimeTokenRow.clash]
    · exact hMem
    · simp [Db.consumable, hHash, hUnused, hInTime]
  obtain ⟨after, hConsumed, hUsers⟩ : ∃ after,
      db.consumeEmailVerificationToken draws.head (sha256Hex token) = (some row.userId, after) ∧
        after.users = db.users :=
    ⟨_, Prod.ext (by simp [Db.consumeEmailVerificationToken, Db.consumeOneTimeToken, hFind]) rfl, rfl⟩
  simp [outcomeOf, storeAfter, handle, verifyEmail, ExceptT.run_bind, answer_sql, hFaults, Db.exec,
    hConsumed, Db.markEmailVerified, Db.updateUsers, hUsers, Table.update]

/-- The link leads to the server, is routed to the handler, gives it the token, and
confirms the address of this user alone whenever the token is stored for the user, not
used and in time. -/
def LinkWorks (formParse : String → List (String × String)) (state : AppState) (origin : Origin)
    (userId : Uuid) (token : String) : Prop :=
  ∃ url query, Url.parse (verificationLink state token) = some url ∧ url.AtOrigin origin ∧
    url.query = some query ∧ dispatch router .get url.path = .handler .verifyEmail ∧
    VerifyEmailQuery.ofPairs (formParse (String.ofList query)) = some ⟨token⟩ ∧
    ∀ pool, ServerRun state migrated pool → ∀ draws : Stream' Draw,
      (∀ n, (draws.get n).fault = none) → ∀ row ∈ pool.store.emailVerificationTokens.rows,
      row.userId = userId → row.tokenHash = sha256Hex token → row.usedAt = none →
      draws.head.dbNow < row.expiresAt →
      (storeAfter (handle state (.verifyEmail ⟨token⟩)) draws pool.store).users.rows =
        pool.store.users.rows.map fun user =>
          if user.id = userId then
            { user with emailVerified := true, updatedAt := (draws.get 1).dbNow }
          else user

omit [External] in
/-- Only one path is routed to the handler. -/
theorem dispatch_verifyEmail {path : List Char}
    (h : dispatch router .get path = .handler .verifyEmail) :
    path = "/api/v1/auth/verify-email".toList := by
  obtain ⟨route, hMem, hHandler, hMatches⟩ := dispatch_handler h
  have only : ∀ route ∈ router, route.handler = .verifyEmail →
      route.path = "/api/v1/auth/verify-email" := by
    decide
  have hPath := only route hMem hHandler
  rw [← hPath]
  apply Route.eq_of_matches _ hMatches
  rw [hPath]
  decide

/-- With a public URL that is an origin and a path behind it, the mailed link works
exactly if the path is the prefix of the routes, so it never does with an origin alone.
The parser of forms leaves names and values without special characters as they are. -/
theorem verification_link_iff (hUrl : state.settings.http.publicUrl = origin.text ++ base)
    (plain : PlainPath base) {formParse : String → List (String × String)}
    (hForm : ∀ name value : String, (∀ c ∈ name.toList ++ value.toList, c.isAlphanum = true) →
      formParse (name ++ "=" ++ value) = [(name, value)])
    (userId : Uuid) (email : String) (draws : Stream' Draw) (db : Db) :
    (∀ mail ∈ mailsIn ((spawnVerificationEmail state userId email).run.trace answer draws db),
      mail = (email, verificationText (verificationLink state (mailToken draws)))) ∧
    (LinkWorks formParse state origin userId (mailToken draws) ↔ base = "/api/v1/auth") := by
  refine ⟨verification_mailed userId email, ?_, ?_⟩
  · rintro ⟨url, query, hParse, _, _, hDispatch, _⟩
    rw [verificationLink_parse hUrl plain fun c => mailToken_alphanum] at hParse
    obtain rfl := Option.some.inj hParse
    have hPath := dispatch_verifyEmail hDispatch
    rw [String.toList_append,
      show "/api/v1/auth/verify-email" = "/api/v1/auth" ++ "/verify-email" from rfl,
      String.toList_append] at hPath
    exact String.toList_inj.mp (List.append_cancel_right hPath)
  · rintro rfl
    have hRouted : dispatch router .get ("/api/v1/auth" ++ "/verify-email").toList =
        .handler .verifyEmail := by
      decide
    refine ⟨_, _, verificationLink_parse hUrl plain fun c => mailToken_alphanum, ⟨rfl, rfl⟩, rfl,
      hRouted, ?_, ?_⟩
    · rw [String.ofList_toList, show "token=" = "token" ++ "=" from rfl, hForm "token"]
      · rfl
      · intro c hMem
        rcases List.mem_append.mp hMem with hMem | hMem
        · have name : ∀ c ∈ "token".toList, c.isAlphanum = true := by simp
          exact name c hMem
        · exact mailToken_alphanum hMem
    · rintro pool run draws' hFaults row hMem rfl hHash hUnused hInTime
      exact (verifyEmail_marks hFaults hMem hHash hUnused hInTime).2

end Links

/-! ### The mail of a registration -/

/-- Names and values between `&` and `=`, for queries without escapes. -/
def plainForm (query : String) : List (String × String) :=
  (query.toList.splitOn '&').map fun pair =>
    (.ofList (pair.takeWhile (· ≠ '=')), .ofList ((pair.dropWhile (· ≠ '=')).drop 1))

theorem plainForm_eq {name value : String}
    (plain : ∀ c ∈ name.toList ++ value.toList, c.isAlphanum = true) :
    plainForm (name ++ "=" ++ value) = [(name, value)] := by
  have hText : (name ++ "=" ++ value).toList = name.toList ++ '=' :: value.toList := by
    simp
  have special {c : Char} (hMem : c ∈ name.toList ∨ c ∈ value.toList) : c ≠ '&' ∧ c ≠ '=' := by
    have h := plain c (List.mem_append.mpr hMem)
    constructor <;> rintro rfl <;> exact absurd h (by decide)
  have hAmp : '&' ∉ name.toList ++ '=' :: value.toList := by
    intro hMem
    rcases List.mem_append.mp hMem with hMem | hMem
    · exact (special (.inl hMem)).1 rfl
    · rcases List.mem_cons.mp hMem with h | hMem
      · exact absurd h (by decide)
      · exact (special (.inr hMem)).1 rfl
  have hName : ∀ c ∈ name.toList, decide (c ≠ '=') = true :=
    fun c hMem => decide_eq_true (special (.inl hMem)).2
  rw [plainForm, hText, List.splitOn_eq_singleton hAmp, List.map_singleton,
    List.takeWhile_append_of_pos hName, List.dropWhile_append_of_pos hName]
  simp

section Runs

attribute [local instance] reference

/-- The origin of the example settings. -/
def localhost : Origin where
  scheme := "http".toList
  authority := "localhost:8080".toList
  scheme_free := by decide
  authority_free := by simp

/-- The registered user gets a mail, whose link leads nowhere. -/
theorem verification_link_not_found : ∃ (token : String) (url : Url),
    exampleState.settings.http.publicUrl = localhost.text ∧
    mailsIn (past answer registered.log 0) =
      [("user@example.org", verificationText (verificationLink exampleState token))] ∧
    Url.parse (verificationLink exampleState token) = some url ∧ url.AtOrigin localhost ∧
    dispatch router .get url.path = .notFound ∧
    ∀ formParse, ¬LinkWorks formParse exampleState localhost firstUser token := by
  have hUrl : exampleState.settings.http.publicUrl = localhost.text ++ "" := by decide +kernel
  have hMails : mailsIn (past answer registered.log 0) =
      [("user@example.org",
        verificationText (verificationLink exampleState (mailToken (moments 9))))] := by
    decide +kernel
  have alone : PlainPath "" := ⟨.inl rfl, fun c hMem => nomatch hMem⟩
  have hToken : ∀ c ∈ (mailToken (moments 9)).toList, c.isAlphanum = true :=
    fun c => mailToken_alphanum
  have hParse := verificationLink_parse hUrl alone hToken
  have hLost : dispatch router .get ("" ++ "/verify-email").toList = .notFound := by decide
  refine ⟨mailToken (moments 9), _, hUrl.trans String.append_empty, hMails, hParse, ⟨rfl, rfl⟩,
    hLost, ?_⟩
  rintro formParse ⟨url, query, hParse', _, _, hDispatch, _⟩
  obtain rfl := Option.some.inj (hParse.symm.trans hParse')
  rw [hLost] at hDispatch
  cases hDispatch

/-- The example state, with this public URL. -/
def publishedAt (publicUrl : String) : AppState :=
  { exampleState with settings := { exampleState.settings with http := { publicUrl } } }

/-- With the prefix of the routes in the public URL the same link works. -/
theorem verification_link_below :
    ¬LinkWorks plainForm (publishedAt "http://localhost:8080") localhost firstUser
      (mailToken (moments 9)) ∧
    LinkWorks plainForm (publishedAt "http://localhost:8080/api/v1/auth") localhost firstUser
      (mailToken (moments 9)) := by
  have alone : PlainPath "" := ⟨.inl rfl, fun c hMem => nomatch hMem⟩
  have below : PlainPath "/api/v1/auth" := ⟨.inr rfl, by simp⟩
  have hAlone : (publishedAt "http://localhost:8080").settings.http.publicUrl =
      localhost.text ++ "" := by
    decide +kernel
  have hBelow : (publishedAt "http://localhost:8080/api/v1/auth").settings.http.publicUrl =
      localhost.text ++ "/api/v1/auth" := by
    decide +kernel
  obtain ⟨_, lost⟩ := verification_link_iff hAlone alone (fun _ _ => plainForm_eq) firstUser
    "user@example.org" (moments 9) registered.store
  obtain ⟨_, found⟩ := verification_link_iff hBelow below (fun _ _ => plainForm_eq) firstUser
    "user@example.org" (moments 9) registered.store
  exact ⟨fun works => absurd (lost.mp works) (by decide), found.mpr rfl⟩

end Runs

end GenericAuth
