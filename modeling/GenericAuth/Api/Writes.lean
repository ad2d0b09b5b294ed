import GenericAuth.Api.Protocol
import GenericAuth.Db.Reply
import GenericAuth.Interaction.Trace

/-! What a request has written when it answers. The other calls of a request
leave the tables as they are, so a request that is executed alone takes the
store from one write to the next. -/
namespace GenericAuth

open Interaction Relational

/-- The call succeeded and may have changed rows. -/
def wrote : Call Op Op.Reply → Bool
  | ⟨.sql (.roleIdFor _), _⟩ | ⟨.sql (.findByEmail _), _⟩ | ⟨.sql (.findById _), _⟩
  | ⟨.sql (.listUsers _ _), _⟩ | ⟨.sql (.permissionsFor _), _⟩ | ⟨.sql (.findUserByOauth _ _), _⟩
  | ⟨.sql (.lookupRefreshToken _), _⟩ => false
  -- a token that was not found was not consumed either
  | ⟨.sql (.consumeEmailVerificationToken _), .ok none⟩ => false
  | ⟨.sql (.consumePasswordResetToken _), .ok none⟩ => false
  | ⟨.sql _, .ok _⟩ => true
  | _ => false

def writes (calls : Calls) : Calls := calls.filter wrote

@[simp] theorem writes_nil : writes [] = [] := rfl

@[simp] theorem writes_append (first second : Calls) :
    writes (first ++ second) = writes first ++ writes second := List.filter_append ..

@[simp] theorem writes_cons (call : Call Op Op.Reply) (calls : Calls) :
    writes (call :: calls) = if wrote call then call :: writes calls else writes calls := by
  cases h : wrote call <;> simp [writes, h]

theorem writes_subset (calls : Calls) : writes calls ⊆ calls := List.filter_subset_self _

/-- The statement failed. -/
def Failed (calls : Calls) (statement : Statement) : Prop :=
  ∃ error, (⟨.sql statement, .error error⟩ : Call Op Op.Reply) ∈ calls

variable [External]

omit [External] in
/-- A token that is not found selects no row to update. -/
theorem consumeOneTimeToken_none {draw : Draw} {table : Table OneTimeTokenRow.clash}
    {tokenHash : String} (h : (Db.consumeOneTimeToken draw table tokenHash).1 = none) :
    (Db.consumeOneTimeToken draw table tokenHash).2 = table := by
  simp only [Db.consumeOneTimeToken] at h ⊢
  apply Table.update_eq_self
  intro row hMem
  simpa using List.find?_eq_none.mp (Option.map_eq_none_iff.mp h) row hMem

/-- A call that did not write left the tables as they were. -/
theorem wrote_quiet (draw : Draw) (db : Db) (op : Op)
    (h : wrote ⟨op, (answer draw db op).1⟩ = false) : (answer draw db op).2 = db := by
  have effect := answer_effect draw db op
  generalize (answer draw db op).1 = reply, (answer draw db op).2 = db' at effect h
  cases effect with
  | unchanged => rfl
  | consumeEmailVerificationToken tokenHash =>
      cases hUser : (db.consumeEmailVerificationToken draw tokenHash).1 with
      | none => simp [Db.consumeEmailVerificationToken, consumeOneTimeToken_none hUser]
      | some userId =>
          rw [hUser] at h
          cases h
  | consumePasswordResetToken tokenHash =>
      cases hUser : (db.consumePasswordResetToken draw tokenHash).1 with
      | none => simp [Db.consumePasswordResetToken, consumeOneTimeToken_none hUser]
      | some userId =>
          rw [hUser] at h
          cases h
  | _ => cases h

/-- A session was opened for the user, and the pair gives access to it. -/
def Issued (state : AppState) (calls : Calls) (pair : TokenPair) (userId : Uuid) : Prop :=
  SignedFor state userId pair.accessToken ∧ ∃ expiresAt userAgent id, Saw calls
    (.storeRefreshToken userId (hashRefreshToken pair.refreshToken) expiresAt userAgent) id

theorem Issued.mono {state : AppState} {past calls : Calls} {pair : TokenPair} {userId : Uuid}
    (h : past ⊆ calls) (issued : Issued state past pair userId) :
    Issued state calls pair userId := by
  obtain ⟨signed, expiresAt, userAgent, id, saw⟩ := issued
  exact ⟨signed, expiresAt, userAgent, id, h saw⟩

/-- The requests that are answered with a pair of tokens. -/
def Request.issues : Request → Bool
  | .register _ | .login _ | .refresh _ | .googleCallback _ => true
  | _ => false

/-- Whether the body of a successful answer is a pair of tokens. -/
def Payload.isPair : Payload → Bool
  | .tokenPair _ => true
  | _ => false

theorem handle_payload (state : AppState) (request : Request) :
    (handle state request).Obeys Unrestricted
      (fun _ outcome => ∀ payload, outcome = .ok payload → payload.isPair = request.issues) [] := by
  have answers {Value : Type} (convert : Value → Payload) (program : AppResult Value) {issues : Bool}
      (h : ∀ value, (convert value).isPair = issues) :
      (convert <$> program).run.Obeys Unrestricted
        (fun _ outcome => ∀ payload, outcome = .ok payload → payload.isPair = issues) [] := by
    rw [ExceptT.run_map, Program.obeys_map]
    refine Program.obeys_of_always (fun _ _ => trivial) (fun _ result payload hPayload => ?_) _ _
    cases result with
    | error stop => cases hPayload
    | ok value =>
        cases hPayload
        exact h value
  cases request <;> exact answers _ _ fun _ => rfl

/-! ### What the parts of a request write -/

section Parts

variable {state : AppState} {calls : Calls} {userId : Uuid}

omit [External] in
theorem CreateCourse.quiet {new : NewUser} {error : DbError}
    (course : CreateCourse new calls (.error error)) : writes calls = [] := by
  cases course <;> simp [wrote]

omit [External] in
theorem CreateCourse.writes {new : NewUser} {user : User}
    (course : CreateCourse new calls (.ok user)) :
    ∃ roleId columns, user = columns.toUser new.role ∧
      writes calls = [⟨.sql (.insertUser new.email new.passwordHash new.displayName roleId
        new.emailVerified), .ok columns⟩] := by
  cases course with
  | created roleId columns => exact ⟨roleId, columns, rfl, by simp [wrote]⟩

theorem AccountCourse.quiet {errs : ValidationErrors} {password : String}
    {new : String → NewUser} {stop : Stop}
    (course : AccountCourse errs password new calls (.error stop)) : writes calls = [] := by
  cases course with
  | invalid | unhashed => simp [wrote]
  | failed valid hashed create => simp [wrote, create.quiet]

theorem AccountCourse.writes {errs : ValidationErrors} {password : String}
    {new : String → NewUser} {user : User}
    (course : AccountCourse errs password new calls (.ok user)) :
    ∃ phc roleId columns, user = columns.toUser (new phc).role ∧
      writes calls = [⟨.sql (.insertUser (new phc).email (new phc).passwordHash
        (new phc).displayName roleId (new phc).emailVerified), .ok columns⟩] := by
  cases course with
  | created valid hashed create =>
      obtain ⟨roleId, columns, hUser, hWrites⟩ := create.writes
      exact ⟨_, roleId, columns, hUser, by simp [wrote, hWrites]⟩

theorem IssueCourse.quiet {role : Role} {userAgent : Option String} {stop : Stop}
    (course : IssueCourse state userId role userAgent calls (.error stop)) : writes calls = [] := by
  cases course <;> simp [wrote]

theorem IssueCourse.issued {role : Role} {userAgent : Option String} {pair : TokenPair}
    (course : IssueCourse state userId role userAgent calls (.ok pair)) :
    Issued state calls pair userId := by
  cases course with
  | stored signed bytes expiresAt inTime id =>
      exact ⟨⟨role, _, _, signed⟩, expiresAt, userAgent, id, by simp [Saw]⟩

theorem MailCourse.quiet {email : String} {stop : Stop}
    (course : MailCourse state userId email calls (.error stop)) : writes calls = [] := by
  cases course
  simp [wrote]

theorem AuthUserCourse.quiet {authorization : Option String} {result : Except AppError AuthUser}
    (course : AuthUserCourse state authorization calls result) : writes calls = [] := by
  cases course <;> simp [wrote]

end Parts

end GenericAuth
