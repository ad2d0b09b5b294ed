import GenericAuth.Api.Run
import GenericAuth.Api.Steps
import GenericAuth.Api.Written
import GenericAuth.Auth.Reference
import GenericAuth.Db.Ownership

/-! Isolation of accounts. A request changes rows of one user at most, of the user
that it designates, and it deletes nothing. -/
namespace GenericAuth

open Interaction Relational

section Isolation

variable [External]

/-- The user is new. -/
def Db.Gains (before after : Db) (u : Uuid) : Prop :=
  before.hasUser u = false ∧ after.hasUser u = true

def Db.HasEmail (db : Db) (email : String) (u : Uuid) : Prop :=
  ∃ row ∈ db.users.rows, sameEmail row.email (some email) = true ∧ row.id = u

/-- The user that a request is about. -/
def Designates (state : AppState) (request : Request) (draws : Stream' Draw) (before after : Db)
    (u : Uuid) : Prop :=
  match request with
  | .register _ | .createAdmin _ => before.Gains after u
  | .login body => before.HasEmail body.email u
  | .forgotPassword body => before.HasEmail body.email u
  | .refresh body => before.OwnsSession (hashRefreshToken body.refreshToken) u
  | .logout body => before.OwnsSession (hashRefreshToken body.refreshToken) u
  | .verifyEmail q => Owns before.emailVerificationTokens (sha256Hex q.token) u
  | .resetPassword body => Owns before.passwordResetTokens (sha256Hex body.token) u
  | .resendVerification authorization => Presents state authorization (draws.get 0).now u
  | .googleCallback _ => ∃ profile, (draws.get 0).profile = .ok profile ∧
      (before.BoundTo "google" profile.sub u ∨
        (∀ v, ¬before.BoundTo "google" profile.sub v) ∧ before.Gains after u)
  | .setRole _ id _ | .setActive _ id _ | .grantPermission _ id _ => u = id
  | .googleStart | .me _ | .myPermissions _ | .listUsers .. => False

/-- The rows of all other users are as they were. -/
def Only (u : Uuid) (before after : Db) : Prop :=
  ∀ v, v ≠ u → after.account v = before.account v

variable {state : AppState} {request : Request} {draws : Stream' Draw} {draw : Draw}
    {db db' after : Db} {op : Op} {reply : op.Reply} {u : Uuid}

theorem Only.trans {middle : Db} (early : Only u db middle) (late : Only u middle after) :
    Only u db after :=
  fun v hne => (late v hne).trans (early v hne)

theorem Only.of_answer (hAnswer : answer draw db op = (reply, db'))
    (h : ∀ v, Touches draw db op v → v = u) : Only u db db' :=
  fun v hne => answer_account hAnswer fun touches => hne (h v touches)

/-- Whatever the store, the call touches no other user. -/
def Confined (u : Uuid) (call : Call Op Op.Reply) : Prop :=
  ∀ draw store v, Touches draw store call.op v → v = u

theorem Only.of_traced {calls : Calls} (traced : Traced answer db calls after)
    (confined : ∀ call ∈ calls, Confined u call) : Only u db after := by
  induction traced with
  | nil store => exact fun _ _ => rfl
  | @cons store after op calls draw rest ih =>
      have first : Only u store (answer draw store op).2 :=
        Only.of_answer rfl (confined _ List.mem_cons_self draw store)
      exact first.trans (ih fun call hMem => confined call (List.mem_cons_of_mem _ hMem))

/-! ### Owners -/

omit [External] in
theorem Owns.unique {table : Table OneTimeTokenRow.clash} {tokenHash : String} {v : Uuid}
    (first : Owns table tokenHash u) (second : Owns table tokenHash v) : v = u := by
  obtain ⟨row, hMem, hHash, rfl⟩ := first
  obtain ⟨row', hMem', hHash', rfl⟩ := second
  rw [oneTimeToken_unique hMem hMem' (hHash.trans hHash'.symm)]

theorem Db.OwnsSession.unique {tokenHash : String} {v : Uuid} (first : db.OwnsSession tokenHash u)
    (second : db.OwnsSession tokenHash v) : v = u := by
  obtain ⟨row, hMem, hHash, rfl⟩ := first
  obtain ⟨row', hMem', hHash', rfl⟩ := second
  rw [refreshToken_unique hMem hMem' (hHash.trans hHash'.symm)]

theorem gains_of_insert {email passwordHash displayName : Option String} {roleId : Nat}
    {emailVerified : Bool} {columns : UserColumns}
    (h : answer draw db (.sql (.insertUser email passwordHash displayName roleId emailVerified)) =
      (.ok columns, db')) (later : db'.Later after) : db.Gains after columns.id := by
  obtain ⟨_, row, hMem, hColumns, _⟩ := insertUser_reply h
  constructor
  · apply Bool.eq_false_iff.mpr
    intro hUser
    obtain ⟨old, hOld, hId⟩ := hasUser_iff.mp hUser
    exact (insertUser_new h old hOld).1 hId
  · exact later.hasUser (hasUser_iff.mpr ⟨row, hMem, congrArg UserColumns.id hColumns⟩)

theorem Only.of_insert {email passwordHash displayName : Option String} {roleId : Nat}
    {emailVerified : Bool} {columns : UserColumns}
    (h : answer draw db (.sql (.insertUser email passwordHash displayName roleId emailVerified)) =
      (.ok columns, db')) : Only columns.id db db' := by
  apply Only.of_answer h
  intro v touches
  rw [(insertUser_reply h).1]
  exact touches

theorem Session.only {calls : Calls} {role : Role} {pair : TokenPair} {store : Call Op Op.Reply}
    (session : Session state calls u role pair store) (traced : Traced answer db [store] after) :
    Only u db after := by
  obtain ⟨_, now, expiresAt, id, _, _, rfl⟩ := session
  apply Only.of_traced traced
  rintro _ (_ | ⟨_, ⟨⟩⟩) draw store v touches
  exact touches

/-! ### Whom the reads find -/

section Reads

variable {Result : Type} {program : Server Result} {rest : Calls}

theorem email_owner {email : String} {found : UserSecretRecord}
    (reads : [⟨.sql (.findByEmail email), .ok (some found)⟩] <+: callsOf program draws db) :
    db.HasEmail email found.id := by
  obtain ⟨_, hFound⟩ := reads_alone reads (by simp [wrote]) List.mem_cons_self
  obtain ⟨row, hMem, hEmail, hColumns, _⟩ := findByEmail_reply hFound
  exact ⟨row, hMem, hEmail, (congrArg UserColumns.id hColumns).symm⟩

theorem session_owner {tokenHash : String} {owner : Uuid} {expiresAt now : OffsetDateTime}
    {revokedAt : Option OffsetDateTime}
    (reads : [⟨.sql (.lookupRefreshToken tokenHash), .ok (some (owner, expiresAt, revokedAt))⟩,
      ⟨.nowUtc, now⟩] <+: callsOf program draws db) : db.OwnsSession tokenHash owner := by
  obtain ⟨_, hLook⟩ := reads_alone reads (by simp [wrote]) List.mem_cons_self
  obtain ⟨row, hMem, hHash, hOwner, _⟩ := lookupRefreshToken_reply hLook
  exact ⟨row, hMem, hHash, hOwner⟩

theorem found_id {id : Uuid} {found : UserRecord}
    (saw : Saw (callsOf program draws db) (.findById id) (some found)) : found.id = id := by
  obtain ⟨_, _, _, hFind, _⟩ := reply_alone saw
  obtain ⟨_, _, hId, hColumns⟩ := findById_reply (Prod.ext hFind rfl)
  exact (congrArg UserColumns.id hColumns).trans hId

/-- The address of an account that was created leads to no other account. -/
theorem insertedEmail_unique {email : String} {passwordHash displayName : Option String}
    {roleId : Nat} {emailVerified : Bool} {columns : UserColumns} {found : UserSecretRecord}
    {before middle : Db}
    (hInsert : answer draw before (.sql (.insertUser (some email) passwordHash displayName roleId
      emailVerified)) = (.ok columns, middle)) (later : middle.Later (storeAfter program draws db))
    (saw : Saw (callsOf program draws db) (.findByEmail email) (some found)) :
    found.id = columns.id := by
  obtain ⟨_, old, hMem, hColumns, hEmail, _⟩ := insertUser_reply hInsert
  obtain ⟨_, _, _, hFind, laterFind⟩ := reply_alone saw
  obtain ⟨old', hMem', hEmail', hColumns', _⟩ := findByEmail_reply (Prod.ext hFind rfl)
  obtain ⟨row, hRow, same⟩ := later.users old hMem
  obtain ⟨row', hRow', same'⟩ := ((answer_later ..).trans _ _ _ laterFind).users old' hMem'
  have hOther : sameEmail row'.email (some email) = true := by rw [same'.email, hEmail']
  have hOwn : sameEmail row.email (some email) = true := by
    rw [same.email, hEmail]
    exact beq_self_eq_true _
  have hUnique : row' = row := userEmail_unique hRow' hRow hOther hOwn
  calc
    found.id = old'.id := congrArg UserColumns.id hColumns'
    _ = row.id := by rw [← same'.id, hUnique]
    _ = columns.id := by rw [same.id, ← hColumns]

theorem profile_head {code : String} {profile : GoogleProfile}
    (reads : ⟨.exchangeCode code, .ok profile⟩ :: rest <+: callsOf program draws db) :
    (draws.get 0).profile = .ok profile := head_alone reads

theorem subject_owner {code : String} {profile : GoogleProfile} {found : UserRecord}
    (reads : [⟨.exchangeCode code, .ok profile⟩,
      ⟨.sql (.findUserByOauth "google" profile.sub), .ok (some found)⟩] <+: callsOf program draws db) :
    db.BoundTo "google" profile.sub found.id := by
  obtain ⟨_, hFound⟩ := reads_alone reads (by simp [wrote]) (List.mem_cons_of_mem _ List.mem_cons_self)
  exact findUserByOauth_reply hFound

theorem subject_new {code : String} {profile : GoogleProfile} (refs : db.References)
    (reads : [⟨.exchangeCode code, .ok profile⟩,
      ⟨.sql (.findUserByOauth "google" profile.sub), .ok none⟩] <+: callsOf program draws db)
    (v : Uuid) : ¬db.BoundTo "google" profile.sub v := by
  obtain ⟨_, hNone⟩ := reads_alone reads (by simp [wrote]) (List.mem_cons_of_mem _ List.mem_cons_self)
  exact findUserByOauth_none refs hNone v

end Reads

theorem consumed_owner {tokenHash : String} {userId : Uuid}
    (h : answer draw db (.sql (.consumePasswordResetToken tokenHash)) = (.ok (some userId), db')) :
    Owns db.passwordResetTokens tokenHash userId ∧ Only userId db db' := by
  obtain ⟨row, hMem, hHash, hOwner, _⟩ := consumePasswordResetToken_reply h
  have owns : Owns db.passwordResetTokens tokenHash userId := ⟨row, hMem, hHash, hOwner⟩
  exact ⟨owns, Only.of_answer h fun v touches => owns.unique touches⟩

/-- The identity of a user who has none is inserted, and not taken from another user. -/
theorem Only.of_bind {userId : Uuid} {sub : String} {email : Option String}
    {rawProfile : GoogleProfile} {rows : Unit}
    (h : answer draw db (.sql (.upsertOauthIdentity userId "google" sub email rawProfile)) =
      (.ok rows, db'))
    (bound : ∀ v, db.BoundTo "google" sub v → v = userId) : Only userId db db' := by
  apply Only.of_answer h
  intro v touches
  rcases touches with owns | ⟨_, hUser⟩
  · exact bound v owns
  · exact hUser

/-! ### Requests -/

/-- Either no user's rows have changed, or those of the user that the request is about. -/
def Isolated (state : AppState) (request : Request) (draws : Stream' Draw) (before after : Db) : Prop :=
  (∀ v, after.account v = before.account v) ∨
    ∃ u, Designates state request draws before after u ∧ Only u before after

/-- A call that touches nobody, or only the user that the request is about. -/
theorem Isolated.of_answer {owns : Uuid → Prop} (hAnswer : answer draw db op = (reply, after))
    (hTouches : ∀ v, Touches draw db op v → owns v)
    (unique : ∀ u v, owns u → owns v → v = u)
    (hOwns : ∀ u, owns u → Designates state request draws db after u) :
    Isolated state request draws db after := by
  by_cases found : ∃ u, owns u
  · obtain ⟨u, h⟩ := found
    exact .inr ⟨u, hOwns u h,
      Only.of_answer hAnswer fun v touches => unique u v h (hTouches v touches)⟩
  · exact .inl fun v => answer_account hAnswer fun touches => found ⟨v, hTouches v touches⟩

/-- The use of a session's token, with what follows for the owner. -/
theorem Isolated.of_session {body : RefreshReq} {more : Calls}
    (owns : db.OwnsSession (hashRefreshToken body.refreshToken) u)
    (traced : Traced answer db
      (⟨.sql (.revokeRefreshToken (hashRefreshToken body.refreshToken)), .ok ()⟩ :: more) after)
    (hMore : ∀ middle, Traced answer middle more after → Only u middle after) :
    Isolated state (.refresh body) draws db after := by
  obtain ⟨_, middle, hRevoke, rest⟩ := traced.of_cons
  have only : Only u db middle := Only.of_answer hRevoke fun v touches => owns.unique touches
  exact .inr ⟨u, owns, only.trans (hMore middle rest)⟩

/-- The use of a reset token, with what follows for the owner. -/
theorem Isolated.of_reset {body : ResetPasswordReq} {more : Calls}
    (traced : Traced answer db
      (⟨.sql (.consumePasswordResetToken (sha256Hex body.token)), .ok (some u)⟩ :: more) after)
    (confined : ∀ call ∈ more, Confined u call) :
    Isolated state (.resetPassword body) draws db after := by
  obtain ⟨_, middle, hConsume, rest⟩ := traced.of_cons
  obtain ⟨owns, only⟩ := consumed_owner hConsume
  exact .inr ⟨u, owns, only.trans (Only.of_traced rest confined)⟩

/-- The insertion of an account, with what follows for it. -/
theorem Isolated.of_insert {email passwordHash displayName : Option String} {roleId : Nat}
    {emailVerified : Bool} {columns : UserColumns} {more : Calls}
    (traced : Traced answer db
      (⟨.sql (.insertUser email passwordHash displayName roleId emailVerified), .ok columns⟩ :: more)
      after)
    (hGains : db.Gains after columns.id → Designates state request draws db after columns.id)
    (hMore : ∀ draw middle,
      answer draw db (.sql (.insertUser email passwordHash displayName roleId emailVerified)) =
        (.ok columns, middle) →
      Traced answer middle more after → Only columns.id middle after) :
    Isolated state request draws db after := by
  obtain ⟨draw, middle, hInsert, rest⟩ := traced.of_cons
  have gains : db.Gains after columns.id := gains_of_insert hInsert (later_traced rest)
  have only : Only columns.id db middle := Only.of_insert hInsert
  exact .inr ⟨columns.id, hGains gains, only.trans (hMore draw middle hInsert rest)⟩

/-- The first sign-in of a subject that is bound to nobody. -/
theorem Isolated.of_signUp {q : OAuthCallbackQuery} {profile : GoogleProfile} {roleId : Nat}
    {columns : UserColumns} {more : Calls} (hProfile : (draws.get 0).profile = .ok profile)
    (unbound : ∀ v, ¬db.BoundTo "google" profile.sub v)
    (traced : Traced answer db
      (⟨.sql (.insertUser profile.email none profile.name roleId profile.email.isSome), .ok columns⟩ ::
        ⟨.sql (.upsertOauthIdentity columns.id "google" profile.sub profile.email profile), .ok ()⟩ ::
        more) after)
    (hMore : ∀ middle, Traced answer middle more after → Only columns.id middle after) :
    Isolated state (.googleCallback q) draws db after := by
  refine Isolated.of_insert traced (fun gains => ⟨profile, hProfile, .inr ⟨unbound, gains⟩⟩) ?_
  intro draw middle hInsert rest
  obtain ⟨users, row, rfl, _⟩ := insertUser_after hInsert
  obtain ⟨_, bound, hUpsert, last⟩ := rest.of_cons
  have bind : Only columns.id _ bound := Only.of_bind hUpsert fun v h => absurd h (unbound v)
  exact bind.trans (hMore bound last)

omit [External] in
theorem prefix_pair {calls : Calls} {first second : Call Op Op.Reply}
    (h : calls <+: [first, second]) :
    calls = [] ∨ calls = [first] ∨ calls = [first, second] := by
  rcases List.prefix_cons_iff.mp h with rfl | ⟨rest, rfl, hRest⟩
  · exact .inl rfl
  · rcases List.prefix_cons_iff.mp hRest with rfl | ⟨last, rfl, hLast⟩
    · exact .inr (.inl rfl)
    · rw [List.prefix_nil.mp hLast]
      exact .inr (.inr rfl)

/-- No calls are left, so nothing changes. -/
theorem Only.of_nil (middle : Db) (traced : Traced answer middle [] after) : Only u middle after := by
  rw [traced.eq_of_nil]
  exact fun _ _ => rfl

theorem Written.isolated {calls : Calls} {outcome : Outcome}
    (written : Written state calls request outcome)
    (hCalls : callsOf (handle state request) draws db = calls)
    (hAfter : storeAfter (handle state request) draws db = after)
    (traced : Traced answer db (writes calls) after) (refs : db.References) :
    Isolated state request draws db after := by
  have unchanged (h : writes calls = []) : Isolated state request draws db after := by
    rw [h] at traced
    exact .inl fun v => congrArg (Db.account · v) traced.eq_of_nil
  cases written with
  | refused stop quiet => exact unchanged quiet
  | answered hRead quiet => exact unchanged quiet
  | login reads hHash hVerify hActive session hWrites =>
      rw [hWrites] at traced
      rw [← hCalls] at reads
      exact .inr ⟨_, email_owner reads, session.only traced⟩
  | refreshLost stop reads hLive hWrites =>
      rw [hWrites] at traced
      rw [← hCalls] at reads
      exact .of_session (session_owner reads) traced Only.of_nil
  | refresh reads hLive hFound session hWrites =>
      rw [hWrites] at traced
      rw [← hCalls] at reads hFound
      rw [found_id hFound] at session
      exact .of_session (session_owner reads) traced fun _ => session.only
  | logout hWrites =>
      rw [hWrites] at traced
      obtain ⟨_, middle, hRevoke, rest⟩ := traced.of_cons
      rw [rest.eq_of_nil]
      exact .of_answer hRevoke (fun _ touches => touches) (fun _ _ owns => owns.unique)
        fun _ owns => owns
  | verifyLost userId stop hWrites =>
      rw [hWrites] at traced
      obtain ⟨_, middle, hConsume, rest⟩ := traced.of_cons
      rw [rest.eq_of_nil]
      exact .of_answer hConsume (fun _ touches => touches) (fun _ _ owns => owns.unique)
        fun _ owns => owns
  | verify userId hWrites =>
      rw [hWrites] at traced
      obtain ⟨_, middle, hConsume, rest⟩ := traced.of_cons
      obtain ⟨row, hMem, hHash, hOwner, _⟩ := consumeEmailVerificationToken_reply hConsume
      have owns : Owns db.emailVerificationTokens _ userId := ⟨row, hMem, hHash, hOwner⟩
      have only : Only userId db middle :=
        Only.of_answer hConsume fun v touches => owns.unique touches
      exact .inr ⟨userId, owns, only.trans (Only.of_traced rest (by simp [Confined, Touches]))⟩
  | resend tokenHash expiresAt reads presents hWrites =>
      rw [hWrites] at traced
      rw [← hCalls] at reads
      have hNow : (draws.get 0).now = _ := head_alone reads
      rw [← hNow] at presents
      exact .inr ⟨_, presents, Only.of_traced traced (by simp [Confined, Touches])⟩
  | forgot tokenHash expiresAt reads hWrites =>
      rw [hWrites] at traced
      rw [← hCalls] at reads
      exact .inr ⟨_, email_owner reads, Only.of_traced traced (by simp [Confined, Touches])⟩
  | resetLost userId stop hWrites =>
      rw [hWrites] at traced
      exact .of_reset traced (by simp)
  | resetHalf userId phc stop _ hWrites =>
      rw [hWrites] at traced
      exact .of_reset traced (by simp [Confined, Touches])
  | reset userId phc hWrites =>
      rw [hWrites] at traced
      exact .of_reset traced (by simp [Confined, Touches])
  | bindLost stop reads hWrites =>
      rw [hWrites] at traced
      rw [← hCalls] at reads
      obtain ⟨_, middle, hUpsert, rest⟩ := traced.of_cons
      rw [rest.eq_of_nil]
      have bound := subject_owner reads
      exact .inr ⟨_, ⟨_, profile_head reads, .inl bound⟩, Only.of_bind hUpsert fun _ => bound.unique⟩
  | bind reads session hWrites =>
      rw [hWrites] at traced
      rw [← hCalls] at reads
      obtain ⟨_, middle, hUpsert, rest⟩ := traced.of_cons
      have bound := subject_owner reads
      exact .inr ⟨_, ⟨_, profile_head reads, .inl bound⟩,
        (Only.of_bind hUpsert fun _ => bound.unique).trans (session.only rest)⟩
  | signUpLost roleId columns stop reads hWrites =>
      rw [← hCalls] at reads
      have unbound := subject_new refs reads
      rcases prefix_pair hWrites with quiet | single | both
      · exact unchanged quiet
      · rw [single] at traced
        exact .of_insert traced (fun gains => ⟨_, profile_head reads, .inr ⟨unbound, gains⟩⟩)
          fun _ middle _ => Only.of_nil middle
      · rw [both] at traced
        exact .of_signUp (profile_head reads) unbound traced Only.of_nil
  | signUp roleId columns reads session hWrites =>
      rw [hWrites] at traced
      rw [← hCalls] at reads
      exact .of_signUp (profile_head reads) (subject_new refs reads) traced fun _ => session.only
  | registerLost phc roleId columns stop hWrites =>
      rw [hWrites] at traced
      exact .of_insert traced (fun gains => gains) fun _ middle _ => Only.of_nil middle
  | registerPanic phc roleId columns hNow hMail session hWrites =>
      rw [hWrites] at traced
      exact .of_insert traced (fun gains => gains) fun _ _ _ => session.only
  | @register body phc roleId columns pair store more session hMail hWrites =>
      rw [hWrites] at traced
      refine .of_insert traced (fun gains => gains) fun draw middle hInsert rest => ?_
      have later := later_traced rest
      have rest : Traced answer middle ([store] ++ more) after := rest
      obtain ⟨stored, early, mailed⟩ := rest.of_append
      apply (session.only early).trans
      rcases hMail with rfl | ⟨found, tokenHash, expiresAt, saw, rfl⟩
      · exact Only.of_nil stored mailed
      · rw [← hCalls] at saw
        rw [← hAfter] at later
        have same : found.id = columns.id := insertedEmail_unique hInsert later saw
        rw [← same]
        exact Only.of_traced mailed (by simp [Confined, Touches])
  | createAdmin phc roleId columns hWrites =>
      rw [hWrites] at traced
      exact .of_insert traced (fun gains => gains) fun _ middle _ => Only.of_nil middle
  | @admin request authorization p payload write hCall hWrite hWrites =>
      rw [hWrites] at traced
      cases request with
      | setRole authorization id body =>
          obtain ⟨roleId, rfl⟩ := hWrite
          exact .inr ⟨id, rfl, Only.of_traced traced (by simp [Confined, Touches])⟩
      | setActive authorization id body | grantPermission authorization id body =>
          obtain rfl := hWrite
          exact .inr ⟨id, rfl, Only.of_traced traced (by simp [Confined, Touches])⟩
      | _ => exact hWrite.elim

theorem isolated_alone (state : AppState) (request : Request) (draws : Stream' Draw)
    (refs : db.References) :
    Isolated state request draws db (storeAfter (handle state request) draws db) :=
  (course_alone state request draws db).written.isolated rfl rfl (traced_writes ..) refs

/-- A request over any reachable store changes the rows of at most one user, who is
the one that it designates. It deletes no row and changes neither the roles nor
their permissions. -/
theorem account_isolation {pool : ServerPool} (run : ServerRun state migrated pool)
    (request : Request) (draws : Stream' Draw) :
    let after := storeAfter (handle state request) draws pool.store
    (∀ u v, after.account u ≠ pool.store.account u → after.account v ≠ pool.store.account v → u = v) ∧
    (∀ u, after.account u ≠ pool.store.account u →
      Designates state request draws pool.store after u) ∧
    pool.store.NoneDeleted after ∧ after.roles = pool.store.roles ∧
      after.permissions = pool.store.permissions ∧
      after.rolePermissions = pool.store.rolePermissions := by
  intro after
  have later : pool.store.Later after := later_alone state request draws pool.store
  have kept : pool.store.NoneDeleted after :=
    keeps_alone pool.store.NoneDeleted (.refl _)
      fun _ _ _ _ _ kept => kept.trans (answer_noneDeleted ..)
  have isolated : Isolated state request draws pool.store after :=
    isolated_alone state request draws run.references
  rcases isolated with same | ⟨u, designated, only⟩
  · exact ⟨fun u _ hu => absurd (same u) hu, fun u hu => absurd (same u) hu, kept, later.roles,
      later.permissions, later.rolePermissions⟩
  · have changed (v : Uuid) (hv : after.account v ≠ pool.store.account v) : v = u := by
      by_contra hne
      exact hv (only v hne)
    refine ⟨fun v w hv hw => ?_, fun v hv => ?_, kept, later.roles, later.permissions,
      later.rolePermissions⟩
    · rw [changed v hv, changed w hw]
    · rw [changed v hv]
      exact designated

end Isolation

/-! ### A run of the reference instance -/

section Runs

attribute [local instance] reference

/-- A refresh changes the sessions of the user who owns the token. -/
theorem account_isolation_refreshing :
    (storeAfter (handle exampleState (.refresh ⟨firstToken⟩)) (moments 20) registered.store).account
        firstUser ≠ registered.store.account firstUser ∧
      registered.store.OwnsSession (hashRefreshToken firstToken) firstUser := by
  have changed : (storeAfter (handle exampleState (.refresh ⟨firstToken⟩)) (moments 20)
      registered.store).account firstUser ≠ registered.store.account firstUser := by
    decide +kernel
  exact ⟨changed, (account_isolation registered_run (.refresh ⟨firstToken⟩) (moments 20)).2.1
    firstUser changed⟩

end Runs

end GenericAuth
