import GenericAuth.Api.Alone

/-! The routes of administrators. Each decodes the caller's access token, looks
the caller up, loads the caller's permissions, and only then begins its work. -/
namespace GenericAuth

open Interaction Relational

variable [External] {state : AppState} {authorization : Option String} {p : Permission}

theorem Presents.unique {now : OffsetDateTime} {sub sub' : Uuid}
    (first : Presents state authorization now sub) (second : Presents state authorization now sub') :
    sub = sub' := by
  obtain ⟨header, token, claims, rfl, hToken, hClaims, rfl⟩ := first
  obtain ⟨header', token', claims', hHeader, hToken', hClaims', rfl⟩ := second
  cases hHeader
  cases hToken.symm.trans hToken'
  cases hClaims.symm.trans hClaims'
  rfl

/-! ### What an admin request has written -/

theorem AuthorizeCourse.quiet {calls : Calls} {result : Except Stop Unit}
    (course : AuthorizeCourse state authorization p calls result) : writes calls = [] := by
  cases course with
  | refused user =>
      cases user with
      | refused auth => exact auth.quiet
      | _ => simp [wrote]
  | failed => simp [wrote]
  | forbidden | passed => simp [passing, wrote]

/-- What an admin request has written: nothing if it fails, and otherwise the one
change that it asks for. -/
def AdminEffect (request : Request) (calls : Calls) : Outcome → Prop
  | .error _ => writes calls = []
  | .ok _ =>
      match request with
      | .setRole _ id body => ∃ roleId, Saw calls (.roleIdFor body.role.asStr) (some roleId) ∧
          writes calls = [⟨.sql (.updateRole roleId id), .ok ()⟩]
      | .setActive _ id body => writes calls = [⟨.sql (.updateActive body.active id), .ok ()⟩]
      | .grantPermission _ id body =>
          writes calls = [⟨.sql (.grantPermission id body.permission body.granted), .ok ()⟩]
      | _ => writes calls = []

theorem AdminCourse.effect {request : Request} {calls : Calls} {outcome : Outcome}
    (course : AdminCourse state request authorization p calls outcome) :
    AdminEffect request calls outcome := by
  cases course with
  | refused caller => exact caller.quiet
  | passed passes work => cases work <;> simp [AdminEffect, passing, wrote, Saw]

theorem admin_alone (state : AppState) {request : Request}
    (hCall : adminCall request = some (authorization, p)) (draws : Stream' Draw) (db : Db) :
    AdminCourse state request authorization p (callsOf (handle state request) draws db)
      (outcomeOf (handle state request) draws db) :=
  (course_alone state request draws db).admin hCall

/-- The header carries an access token that is accepted at this time, its subject
is a stored user with a confirmed address, and the user has the permission. -/
structure Entitled (state : AppState) (db : Db) (authorization : Option String) (p : Permission)
    (now : OffsetDateTime) (sub : Uuid) : Prop where
  presents : Presents state authorization now sub
  verified : ∃ row ∈ db.users.rows, row.id = sub ∧ row.emailVerified = true
  permitted : p.asStr ∈ db.permissionsFor sub

/-- Alone, an admin request is turned away without a write unless its caller is
entitled to it, and the statements that look up the caller succeed. -/
theorem refused_or_entitled (state : AppState) {request : Request} (draws : Stream' Draw) (db : Db)
    (hCall : adminCall request = some (authorization, p)) :
    (writes (callsOf (handle state request) draws db) = [] ∧
      ∃ stop, outcomeOf (handle state request) draws db = .error stop) ∨
    ((draws.get 1).fault = none ∧ (draws.get 2).fault = none) ∧
      ∃ sub, Entitled state db authorization p (draws.get 0).now sub := by
  have course := admin_alone state hCall draws db
  generalize hCalls : callsOf (handle state request) draws db = calls,
    outcomeOf (handle state request) draws db = outcome at course
  cases course with
  | refused caller => exact .inl ⟨caller.quiet, _, rfl⟩
  | @passed now sub found names passes more outcome work =>
      obtain ⟨rfl, _, hTrace⟩ := Program.trace_cons answer hCalls
      obtain ⟨hFound, _, hTrace⟩ := Program.trace_cons answer hTrace
      obtain ⟨hNames, _⟩ := Program.trace_cons answer hTrace
      have same : (answer draws.tail.head db (.sql (.findById sub))).2 = db := wrote_quiet _ _ _ rfl
      obtain ⟨row, hMem, hId, hColumns⟩ := findById_reply (Prod.ext hFound rfl)
      have hVerified := passes.verified
      rw [hColumns] at hVerified
      have hOwn : names = db.permissionsFor sub := by
        have hExec := congrArg Prod.fst (exec_of_answer (Prod.ext hNames rfl))
        exact (Except.ok.inj hExec).symm.trans (congrArg (Db.permissionsFor · sub) same)
      refine .inr ⟨⟨fault_of_answer hFound, fault_of_answer hNames⟩, sub, passes.presents,
        ⟨row, hMem, hId, hVerified⟩, ?_⟩
      rw [← hOwn]
      exact List.contains_iff_mem.mp passes.permitted

/-- A store that has changed was changed for an entitled caller. -/
theorem entitled_of_change {request : Request} {draws : Stream' Draw} {db : Db}
    (hCall : adminCall request = some (authorization, p))
    (h : storeAfter (handle state request) draws db ≠ db) :
    ∃ sub, Entitled state db authorization p (draws.get 0).now sub := by
  rcases refused_or_entitled state draws db hCall with
    ⟨quiet, _⟩ | ⟨_, entitled⟩
  · exact absurd (storeAfter_of_quiet quiet) h
  · exact entitled

theorem entitled_of_ok {request : Request} {draws : Stream' Draw} {db : Db} {payload : Payload}
    (hCall : adminCall request = some (authorization, p))
    (h : outcomeOf (handle state request) draws db = .ok payload) :
    ∃ sub, Entitled state db authorization p (draws.get 0).now sub := by
  rcases refused_or_entitled state draws db hCall with
    ⟨_, stop, hStop⟩ | ⟨_, entitled⟩
  · rw [hStop] at h
    cases h
  · exact entitled

/-- One that succeeds has written its change. -/
theorem admin_ok {request : Request} {draws : Stream' Draw} {db : Db} {payload : Payload}
    (hCall : adminCall request = some (authorization, p))
    (h : outcomeOf (handle state request) draws db = .ok payload) :
    AdminEffect request (callsOf (handle state request) draws db) (.ok payload) := by
  have effect := (admin_alone state hCall draws db).effect
  rwa [h] at effect

/-- An admin request that fails leaves the store as it was. -/
theorem admin_error {request : Request} {draws : Stream' Draw} {db : Db} {stop : Stop}
    (hCall : adminCall request = some (authorization, p))
    (failed : outcomeOf (handle state request) draws db = .error stop) :
    storeAfter (handle state request) draws db = db := by
  have quiet := (admin_alone state hCall draws db).effect
  rw [failed] at quiet
  exact storeAfter_of_quiet quiet

/-! ### One extraction after the other -/

section Extraction

variable {draws : Stream' Draw} {db : Db} {sub : Uuid}

/-- An accepted token gives its subject, and a role that its claims decide. -/
theorem exec_authUser (db : Db) (presents : Presents state authorization draws.head.now sub) :
    ∃ role, (authUser state authorization).run.exec answer draws db =
      (.ok ⟨sub, role⟩, draws.tail, db) := by
  obtain ⟨header, token, claims, rfl, hToken, hClaims, rfl⟩ := presents
  exact ⟨(Role.parse claims.role).getD .user, by simp [authUser, hToken, hClaims]⟩

/-- A confirmed user with an accepted token passes exactly with the permission. -/
theorem exec_authorize (refs : db.References)
    (presents : Presents state authorization draws.head.now sub)
    (hVerified : ∃ row ∈ db.users.rows, row.id = sub ∧ row.emailVerified = true)
    (hFind : (draws.get 1).fault = none) (hLoad : (draws.get 2).fault = none) :
    (authorize state authorization p).run.exec answer draws db =
      (if p.asStr ∈ db.permissionsFor sub then .ok () else .error (.err .forbidden),
        draws.tail.tail.tail, db) := by
  obtain ⟨role, hAuth⟩ := exec_authUser db presents
  obtain ⟨row, hMem, rfl, hRow⟩ := hVerified
  obtain ⟨found, hFound, hColumns⟩ := refs.findUser hMem
  have hConfirmed : found.emailVerified = true := by rw [hColumns, hRow]
  simp only [authorize, verifiedUser, ExceptT.run_bind, run_liftAppError]
  simp [Program.exec_bind, hAuth, UserRecord.toUser, answer_sql, hFind, hLoad, Db.exec, hFound,
    hConfirmed]
  split <;> rfl

/-- An entitled caller is let in after the clock and two statements. -/
theorem Entitled.exec {request : Request} (hCall : adminCall request = some (authorization, p))
    (hFaults : ∀ n, (draws.get n).fault = none) (refs : db.References)
    (entitled : Entitled state db authorization p (draws.get 0).now sub) :
    (handle state request).exec answer draws db =
      (adminWork request).run.exec answer draws.tail.tail.tail db := by
  rw [handle_admin hCall, ExceptT.run_bind, Program.exec_bind,
    exec_authorize refs entitled.presents entitled.verified (hFaults 1) (hFaults 2),
    if_pos entitled.permitted]

end Extraction

end GenericAuth
