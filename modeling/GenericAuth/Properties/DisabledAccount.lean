import GenericAuth.Api.Admin
import GenericAuth.Interaction.Serial
import GenericAuth.Properties.GoogleIdentity

/-! Requests while an account is disabled. Only `login` looks at `is_active`: a
session, a bound subject or an access token from before goes on working. A
disabled account is inert as long as none of these is used. -/
namespace GenericAuth

open Interaction Relational

section Disabled

variable [External] {state : AppState} {draws : Stream' Draw} {db : Db} {u : Uuid}

/-! ### Inert accounts -/

/-- The stored user is not active. -/
def Db.Disabled (db : Db) (u : Uuid) : Prop := ∃ row ∈ db.users.rows, row.id = u ∧ row.isActive = false

/-- A request that nobody profits from as this user: a pair that it returns
belongs to somebody else, and as an administrator the user is turned away. -/
structure Inert (state : AppState) (u : Uuid) (db : Db) (request : Request)
    (draws : Stream' Draw) : Prop where
  pairs : ∀ pair, outcomeOf (handle state request) draws db = .ok (.tokenPair pair) →
    ∃ owner, owner ≠ u ∧ PairFor state (storeAfter (handle state request) draws db) pair owner
  admin : ∀ authorization p, adminCall request = some (authorization, p) →
    Presents state authorization (draws.get 0).now u →
    (∃ stop, outcomeOf (handle state request) draws db = .error stop) ∧
      storeAfter (handle state request) draws db = db

/-- The request does not use what the user still has: a live session, a bound
subject, or a permission that the access token of a confirmed user gives. It does not
when one of the statements fails that read these, or the redirect URL does not parse. -/
def Unused (state : AppState) (u : Uuid) (db : Db) (draws : Stream' Draw) : Request → Prop
  | .refresh body => (draws.get 0).fault = none → ∀ row ∈ db.refreshTokens.rows,
      row.tokenHash = hashRefreshToken body.refreshToken → row.userId = u → row.revokedAt = none →
        row.expiresAt ≤ (draws.get 1).now
  | .googleCallback _ => External.redirectUrl state.googleConfig.redirectUrl = .ok () →
      (draws.get 1).fault = none → ∀ profile, (draws.get 0).profile = .ok profile →
        ¬db.BoundTo "google" profile.sub u
  | request => ∀ authorization p, adminCall request = some (authorization, p) →
      Presents state authorization (draws.get 0).now u → (draws.get 1).fault = none →
        (∃ row ∈ db.users.rows, row.id = u ∧ row.emailVerified = true) →
          (draws.get 2).fault = none → p.asStr ∉ db.permissionsFor u

/-! ### Where a pair comes from -/

/-- The reads that chose the user of a returned pair. -/
def Sourced (state : AppState) (calls : Calls) (pair : TokenPair) : Request → Prop
  | .register _ => ∃ userId, Created calls userId ∧ Issued state calls pair userId
  | .login body => ∃ found : UserSecretRecord, found.isActive = true ∧
      Issued state calls pair found.id ∧
      ([⟨.sql (.findByEmail body.email), .ok (some found)⟩] : Calls) <+: calls
  | .refresh body => ∃ (owner : Uuid) (expiresAt now : OffsetDateTime) (found : UserRecord),
      now < expiresAt ∧ Saw calls (.findById owner) (some found) ∧
      Issued state calls pair found.id ∧
      ([⟨.sql (.lookupRefreshToken (hashRefreshToken body.refreshToken)),
          .ok (some (owner, expiresAt, none))⟩, ⟨.nowUtc, now⟩] : Calls) <+: calls
  | .googleCallback q => External.redirectUrl state.googleConfig.redirectUrl = .ok () ∧
    ∃ (profile : GoogleProfile) (bound : Option UserRecord) (userId : Uuid),
      Issued state calls pair userId ∧
      (bound.map (fun found => found.id) = some userId ∨ Created calls userId) ∧
      ([⟨.exchangeCode q.code, .ok profile⟩,
        ⟨.sql (.findUserByOauth "google" profile.sub), .ok bound⟩] : Calls) <+: calls
  | _ => False

section Sources

variable {calls : Calls} {outcome : Outcome} {pair : TokenPair}

theorem LoginCourse.sourced {body : LoginReq} (course : LoginCourse state body calls outcome)
    (hOutcome : outcome = .ok (.tokenPair pair)) : Sourced state calls pair (.login body) := by
  cases course with
  | @issued found _ _ _ hActive more result issue =>
      obtain rfl := pair_of_map hOutcome
      exact ⟨found, hActive, issue.issued.mono (List.subset_cons_self _ _), more, rfl⟩
  | _ => cases hOutcome

theorem RefreshCourse.sourced {body : RefreshReq} (course : RefreshCourse state body calls outcome)
    (hOutcome : outcome = .ok (.tokenPair pair)) : Sourced state calls pair (.refresh body) := by
  cases course with
  | @issued owner expiresAt now live found more result issue =>
      obtain rfl := pair_of_map hOutcome
      exact ⟨owner, expiresAt, now, found, live, by simp [Saw],
        issue.issued.mono (List.subset_append_right _ _), _, rfl⟩
  | _ => cases hOutcome

theorem GoogleCallbackCourse.sourced {q : OAuthCallbackQuery}
    (course : GoogleCallbackCourse state q calls outcome)
    (hOutcome : outcome = .ok (.tokenPair pair)) :
    Sourced state calls pair (.googleCallback q) := by
  cases course with
  | @signedIn hUrl profile first more user result upsert issue =>
      obtain rfl := pair_of_map hOutcome
      have issued {past : Calls} : Issued state (past ++ more) pair user.id :=
        issue.issued.mono (List.subset_append_right past more)
      cases upsert with
      | renewed found => exact ⟨hUrl, profile, some found, found.id, issued, .inl rfl, _, rfl⟩
      | bound create =>
          exact ⟨hUrl, profile, none, user.id, issued,
            .inr (create.saw.mono fun call hMem => by simp [hMem]), _, rfl⟩
  | _ => cases hOutcome

end Sources

theorem sourced_alone {request : Request} {pair : TokenPair}
    (hOutcome : outcomeOf (handle state request) draws db = .ok (.tokenPair pair)) :
    Sourced state (callsOf (handle state request) draws db) pair request := by
  have course := course_alone state request draws db
  have finished := course.conforms.2
  rw [hOutcome] at finished
  obtain ⟨userId, expiresAt, userAgent, id, opens, saw, signed⟩ := finished
  cases request with
  | register body => exact ⟨userId, opens, signed, expiresAt, userAgent, id, saw⟩
  | login body => exact LoginCourse.sourced course hOutcome
  | refresh body => exact RefreshCourse.sourced course hOutcome
  | googleCallback q => exact GoogleCallbackCourse.sourced course hOutcome
  | _ => exact opens

/-- A stored user has one state. -/
theorem Db.Disabled.ne_of_active (disabled : db.Disabled u) {row : UserRow}
    (hMem : row ∈ db.users.rows) (hActive : row.isActive = true) : row.id ≠ u := by
  obtain ⟨row', hMem', hId, hInactive⟩ := disabled
  intro h
  rw [userRow_unique hMem hMem' (h.trans hId.symm), hInactive] at hActive
  cases hActive

/-- A new account is not the disabled one. -/
theorem Db.Disabled.ne_of_created (disabled : db.Disabled u) {request : Request} {userId : Uuid}
    (created : Created (callsOf (handle state request) draws db) userId) : userId ≠ u := by
  obtain ⟨row, hMem, hId, _⟩ := disabled
  obtain ⟨_, _, _, _, _, columns, saw, rfl⟩ := created
  obtain ⟨draw, found, later, hReply, _⟩ := reply_alone saw
  obtain ⟨row', hMem', change⟩ := later.users row hMem
  have new := (insertUser_new (Prod.ext hReply rfl) row' hMem').1
  rw [change.id, hId] at new
  exact new.symm

theorem inert_pairs {request : Request} (disabled : db.Disabled u)
    (unused : Unused state u db draws request) {pair : TokenPair}
    (hOutcome : outcomeOf (handle state request) draws db = .ok (.tokenPair pair)) :
    ∃ owner, owner ≠ u ∧ PairFor state (storeAfter (handle state request) draws db) pair owner := by
  have sourced := sourced_alone hOutcome
  have traced := traced_callsOf (handle state request) draws db
  cases request with
  | register body =>
      obtain ⟨userId, created, issued⟩ := sourced
      exact ⟨userId, disabled.ne_of_created created, issued.pairFor⟩
  | login body =>
      obtain ⟨found, hActive, issued, rest, hCalls⟩ := sourced
      rw [← hCalls] at traced
      obtain ⟨draw, _, hFound, _⟩ := traced.of_cons
      obtain ⟨row, hMem, _, hColumns, _⟩ := findByEmail_reply hFound
      refine ⟨found.id, ?_, issued.pairFor⟩
      rw [hColumns] at hActive ⊢
      exact disabled.ne_of_active hMem hActive
  | refresh body =>
      obtain ⟨owner, expiresAt, now, found, hLive, saw, issued, rest, hCalls⟩ := sourced
      obtain ⟨hLookup, program, hTrace⟩ := Program.trace_cons answer hCalls.symm
      obtain ⟨rfl, _⟩ := Program.trace_cons answer hTrace
      obtain ⟨row, hMem, hHash, rfl, rfl, hRevoked⟩ := lookupRefreshToken_reply (Prod.ext hLookup rfl)
      obtain ⟨draw, store, _, hReply, _⟩ := reply_alone saw
      obtain ⟨user, _, hId, hColumns⟩ := findById_reply (Prod.ext hReply rfl)
      refine ⟨found.id, fun hOwner => ?_, issued.pairFor⟩
      rw [hColumns, hId] at hOwner
      exact absurd (unused (fault_of_answer hLookup) row hMem hHash hOwner hRevoked)
        (Int.not_le.mpr hLive)
  | googleCallback q =>
      obtain ⟨hUrl, profile, bound, userId, issued, hSource, rest, hCalls⟩ := sourced
      obtain ⟨hExchange, program, hTrace⟩ := Program.trace_cons answer hCalls.symm
      obtain ⟨hFind, _⟩ := Program.trace_cons answer hTrace
      refine ⟨userId, ?_, issued.pairFor⟩
      rcases hSource with hFound | created
      · obtain ⟨found, rfl, rfl⟩ := Option.map_eq_some_iff.mp hFound
        rintro rfl
        exact unused hUrl (fault_of_answer hFind) profile hExchange
          (findUserByOauth_reply (Prod.ext hFind rfl))
      · exact disabled.ne_of_created created
  | _ => exact sourced.elim

/-! ### Disabled accounts -/

theorem inert_admin {request : Request} {authorization : Option String} {p : Permission}
    (hCall : adminCall request = some (authorization, p))
    (presents : Presents state authorization (draws.get 0).now u)
    (unused : (draws.get 1).fault = none →
      (∃ row ∈ db.users.rows, row.id = u ∧ row.emailVerified = true) →
        (draws.get 2).fault = none → p.asStr ∉ db.permissionsFor u) :
    (∃ stop, outcomeOf (handle state request) draws db = .error stop) ∧
      storeAfter (handle state request) draws db = db := by
  rcases refused_or_entitled state draws db hCall with
    ⟨quiet, hStop⟩ | ⟨⟨hFind, hLoad⟩, sub, entitled⟩
  · exact ⟨hStop, storeAfter_of_quiet quiet⟩
  · obtain rfl := entitled.presents.unique presents
    exact absurd entitled.permitted (unused hFind entitled.verified hLoad)

/-- While its user is disabled, a request that uses nothing of the user is inert. -/
theorem inert_of_unused {request : Request} (disabled : db.Disabled u)
    (unused : Unused state u db draws request) : Inert state u db request draws where
  pairs pair := inert_pairs disabled unused
  admin authorization p hCall presents := by
    apply inert_admin hCall presents
    cases request with
    | listUsers | setRole | setActive | grantPermission => exact unused _ _ hCall presents
    | _ => cases hCall

/-- In every run of requests in turn the account is inert whenever it is disabled,
if what the user still has is not used in the meantime. -/
theorem disabled_inert (history : List (Request × Stream' Draw))
    (unused : Along answer (handle state) (fun db request draws =>
      db.Disabled u → Unused state u db draws request) history migrated) :
    Along answer (handle state) (fun db request draws =>
      db.Disabled u → Inert state u db request draws) history migrated :=
  unused.imp fun _ _ _ h disabled => inert_of_unused disabled (h disabled)

end Disabled

/-! ### Runs of the reference instance -/

section Runs

attribute [local instance] reference

def secondUser : Uuid := (moment 22).uuid

/-- The refresh token that the registration returns. -/
def secondToken : String := hexEncode (moment 25).bytes

/-- The header with the access token that the login returns. -/
def adminHeader : String := headerFor firstAdmin .admin 41

/-- A user registers, and an administrator logs in and disables the user. -/
def disabling : List (Request × Stream' Draw) :=
  [(.createAdmin ⟨"admin@example.org", "password"⟩, moments 0),
    (.register ⟨"user@example.org", "password", none⟩, moments 20),
    (.login ⟨"admin@example.org", "password"⟩, moments 40),
    (.setActive (some adminHeader) secondUser ⟨false⟩, moments 60)]

def disabledStore : Db := serially answer (handle exampleState) disabling migrated

theorem disabledStore_disabled : disabledStore.Disabled secondUser := by
  have h : (disabledStore.users.rows.any fun row => row.id == secondUser && !row.isActive) = true := by
    decide +kernel
  simpa [Db.Disabled] using h

/-- The hypothesis holds when the user only tries to log in, which is then inert. -/
theorem disabled_inert_login : disabledStore.Disabled secondUser ∧
    Inert exampleState secondUser disabledStore (.login ⟨"user@example.org", "password"⟩)
      (moments 80) := by
  have noAdmin {db : Db} {draws : Stream' Draw} {request : Request}
      (hNone : adminCall request = none) (authorization : Option String) (p : Permission)
      (hCall : adminCall request = some (authorization, p)) :
      Presents exampleState authorization (draws.get 0).now secondUser →
        (draws.get 1).fault = none →
          (∃ row ∈ db.users.rows, row.id = secondUser ∧ row.emailVerified = true) →
            (draws.get 2).fault = none → p.asStr ∉ db.permissionsFor secondUser := by
    rw [hNone] at hCall
    cases hCall
  have unused : Along answer (handle exampleState) (fun db request draws =>
      db.Disabled secondUser → Unused exampleState secondUser db draws request)
      (disabling ++ [(.login ⟨"user@example.org", "password"⟩, moments 80)]) migrated := by
    refine ⟨fun _ => noAdmin rfl, fun _ => noAdmin rfl, fun _ => noAdmin rfl, fun _ => ?_,
      fun _ => noAdmin rfl, trivial⟩
    rintro authorization p ⟨⟩ _ _ _ _
    exact (by decide +kernel : Permission.usersManage.asStr ∉
      (serially answer (handle exampleState) (disabling.take 3) migrated).permissionsFor secondUser)
  have along := disabled_inert (u := secondUser) _ unused
  exact ⟨disabledStore_disabled, ((along_append ..).mp along).2.1 disabledStore_disabled⟩

/-- Evaluates whether a pair was returned whose refresh token is the user's. -/
def returnsPair (outcome : Outcome) (db : Db) (u : Uuid) : Bool :=
  match outcome with
  | .ok (.tokenPair pair) => db.refreshTokens.rows.any fun row =>
      row.tokenHash == hashRefreshToken pair.refreshToken && row.userId == u
  | _ => false

theorem not_inert {db : Db} {u : Uuid} {request : Request} {draws : Stream' Draw}
    (h : returnsPair (outcomeOf (handle exampleState request) draws db)
      (storeAfter (handle exampleState request) draws db) u = true) :
    ¬Inert exampleState u db request draws := by
  intro inert
  unfold returnsPair at h
  split at h
  · next pair hOutcome =>
      obtain ⟨owner, hOwner, pairFor⟩ := inert.pairs pair hOutcome
      obtain ⟨row, hMem, hRow⟩ := List.any_eq_true.mp h
      simp only [Bool.and_eq_true, beq_iff_eq] at hRow
      obtain ⟨row', hMem', hHash, rfl⟩ := pairFor.stored
      rw [refreshToken_unique hMem' hMem (hHash.trans hRow.1.symm)] at hOwner
      exact hOwner hRow.2
  · cases h

/-- The session from the registration outlives the disabling. -/
theorem disabled_refresh : ∃ (history : List (Request × Stream' Draw)) (u : Uuid),
    ¬Along answer (handle exampleState) (fun db request draws =>
      db.Disabled u → Inert exampleState u db request draws) history migrated := by
  have refreshed : returnsPair
      (outcomeOf (handle exampleState (.refresh ⟨secondToken⟩)) (moments 80) disabledStore)
      (storeAfter (handle exampleState (.refresh ⟨secondToken⟩)) (moments 80) disabledStore)
      secondUser = true := by decide +kernel
  refine ⟨disabling ++ [(.refresh ⟨secondToken⟩, moments 80)], secondUser, fun along => ?_⟩
  have inert := ((along_append ..).mp along).2.1 disabledStore_disabled
  exact not_inert refreshed inert

end Runs

end GenericAuth
