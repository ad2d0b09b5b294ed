import GenericAuth.Properties.UserPaging

/-! The answer to every pair of paging parameters. The limit is cut off above but not
below, and a negative parameter is an error of the database only. -/
namespace GenericAuth

open Interaction Relational

section Listing

variable [External] {state : AppState} {authorization : Option String} {draws : Stream' Draw}
    {db : Db} {sub : Uuid} {page : Page}

/-! ### Statements that fail -/

/-- How the first statement of a listing that fails does so. -/
def listingFault (draws : Stream' Draw) : Option SqlxError :=
  ((draws.get 1).fault.or (draws.get 2).fault).or (draws.get 3).fault

theorem exec_authorize_fault {p : Permission} {e : SqlxError} (refs : db.References)
    (entitled : Entitled state db authorization p (draws.get 0).now sub)
    (h : (draws.get 1).fault.or (draws.get 2).fault = some e) :
    ((authorize state authorization p).run.exec answer draws db).1 =
      .error (.err (.ofDbError (.sqlx e))) := by
  obtain ⟨role, hAuth⟩ := exec_authUser db entitled.presents
  obtain ⟨row, hMem, rfl, hVerified⟩ := entitled.verified
  obtain ⟨found, hFound, hColumns⟩ := refs.findUser hMem
  have hConfirmed : found.emailVerified = true := by rw [hColumns, hVerified]
  simp only [authorize, verifiedUser, ExceptT.run_bind, run_liftAppError]
  cases hFind : (draws.get 1).fault with
  | some first =>
      obtain rfl : first = e := by simpa [hFind] using h
      simp [Program.exec_bind, hAuth, answer_of_fault hFind]
  | none =>
      have hLoad : (draws.get 2).fault = some e := by simpa [hFind] using h
      simp [Program.exec_bind, hAuth, UserRecord.toUser, answer_sql hFind, answer_of_fault hLoad,
        Db.exec, hFound, hConfirmed]

/-- Before the query nothing but a failed statement stops an entitled caller. -/
theorem listing_answer (refs : db.References) (page : Page)
    (entitled : Entitled state db authorization .usersRead (draws.get 0).now sub)
    (h : (draws.get 1).fault.or (draws.get 2).fault = none) :
    outcomeOf (handle state (.listUsers authorization page)) draws db =
      ((answer (draws.get 3) db (.sql (.listUsers (min page.limit 200) page.offset))).1.map
        fun rows => Payload.users (rows.map UserRecord.toUser)).mapError
          fun e => .err (.ofDbError (.sqlx e)) := by
  obtain ⟨hFind, hLoad⟩ := Option.or_eq_none_iff.mp h
  rw [outcomeOf, handle_admin rfl, ExceptT.run_bind, Program.exec_bind,
    exec_authorize refs entitled.presents entitled.verified hFind hLoad,
    if_pos entitled.permitted]
  simp [adminWork]
  rcases answer (draws.get 3) db (.sql (.listUsers (min page.limit 200) page.offset)) with
    ⟨error | rows, db'⟩ <;> rfl

theorem listing_fault (refs : db.References) {e : SqlxError} (page : Page)
    (entitled : Entitled state db authorization .usersRead (draws.get 0).now sub)
    (h : listingFault draws = some e) :
    outcomeOf (handle state (.listUsers authorization page)) draws db =
      .error (.err (.ofDbError (.sqlx e))) := by
  cases hBefore : (draws.get 1).fault.or (draws.get 2).fault with
  | some first =>
      obtain rfl : first = e := by simpa [listingFault, hBefore] using h
      rw [outcomeOf, handle_admin rfl, ExceptT.run_bind, Program.exec_bind,
        exec_authorize_fault refs entitled hBefore]
      rfl
  | none =>
      have hList : (draws.get 3).fault = some e := by simpa [listingFault, hBefore] using h
      rw [listing_answer refs page entitled hBefore, answer_of_fault hList]
      rfl

theorem listing_query (refs : db.References) (page : Page)
    (entitled : Entitled state db authorization .usersRead (draws.get 0).now sub)
    (h : listingFault draws = none) :
    outcomeOf (handle state (.listUsers authorization page)) draws db =
      ((db.listUsers (draws.get 3) (min page.limit 200) page.offset).map
        fun rows => Payload.users (rows.map UserRecord.toUser)).mapError
          fun e => .err (.ofDbError (.sqlx e)) := by
  obtain ⟨hBefore, hList⟩ := Option.or_eq_none_iff.mp h
  rw [listing_answer refs page entitled hBefore, answer_sql hList]
  rfl

omit [External] in
theorem status_ofDbError (e : SqlxError) : (AppError.ofDbError (.sqlx e)).intoResponse.status =
    if e = .rowNotFound then 404 else 500 := by
  cases e <;> rfl

/-! ### Parameters -/

omit [External] in
/-- The limit is cut off on one side only. -/
theorem toInt_min_limit (limit : Int64) : (min limit 200).toInt = min limit.toInt 200 := by
  have hBound : (200 : Int64).toInt = 200 := rfl
  by_cases h : limit ≤ 200
  · rw [show min limit 200 = limit from if_pos h]
    rw [Int64.le_iff_toInt_le] at h
    omega
  · rw [show min limit 200 = 200 from if_neg h]
    rw [Int64.le_iff_toInt_le] at h
    omega

omit [External] in
theorem neg_iff_toInt {n : Int64} : n < 0 ↔ n.toInt < 0 := by
  rw [Int64.lt_iff_toInt_lt, show (0 : Int64).toInt = 0 from rfl]

omit [External] in
theorem min_limit_neg {limit : Int64} : min limit 200 < 0 ↔ limit < 0 := by
  rw [neg_iff_toInt, neg_iff_toInt, toInt_min_limit]
  omega

/-- A client error, or the users at the positions of the page in a list from the newest
user to the oldest, at most 200 of them. -/
def Lists (db : Db) (page : Page) (outcome : Outcome) : Prop :=
  (∃ e, outcome = .error (.err e) ∧ 400 ≤ e.intoResponse.status ∧ e.intoResponse.status < 500) ∨
  ∃ order users, outcome = .ok (.users users) ∧ users.length ≤ 200 ∧
    order.Perm db.users.rows ∧ Descending (fun row : UserRow => row.createdAt) order ∧
    users = (between order page.offset.toInt
      (page.offset.toInt + min page.limit.toInt 200)).map db.present

theorem not_lists {outcome : Outcome} {e : AppError} (h : outcome = .error (.err e))
    (hStatus : e.intoResponse.status = 500) : ¬Lists db page outcome := by
  subst h
  rintro (⟨_, ⟨⟩, _, hClient⟩ | ⟨_, _, ⟨⟩, _⟩)
  omega

/-- The database rejects a negative parameter, which the client sees as a server error. -/
theorem listing_negative (refs : db.References)
    (entitled : Entitled state db authorization .usersRead (draws.get 0).now sub)
    (h : listingFault draws = none) (negative : page.limit < 0 ∨ page.offset < 0) :
    ∃ e, outcomeOf (handle state (.listUsers authorization page)) draws db = .error (.err e) ∧
      e.intoResponse.status = 500 := by
  have rejected : ∃ message, db.listUsers (draws.get 3) (min page.limit 200) page.offset =
      .error (.database message) := by
    unfold Db.listUsers
    by_cases hOffset : page.offset < 0
    · exact ⟨_, if_pos hOffset⟩
    · have hLimit : min page.limit 200 < 0 := min_limit_neg.mpr (negative.resolve_right hOffset)
      exact ⟨_, by rw [if_neg hOffset, if_pos hLimit]⟩
  obtain ⟨message, hRows⟩ := rejected
  refine ⟨_, by rw [listing_query refs page entitled h, hRows]; rfl, ?_⟩
  exact status_ofDbError (.database message)

theorem listing_positions (refs : db.References)
    (entitled : Entitled state db authorization .usersRead (draws.get 0).now sub)
    (h : listingFault draws = none) (hLimit : 0 ≤ page.limit) (hOffset : 0 ≤ page.offset) :
    Lists db page (outcomeOf (handle state (.listUsers authorization page)) draws db) := by
  rw [← Int64.not_lt, neg_iff_toInt] at hLimit hOffset
  obtain ⟨rows, hRows, hUsers⟩ := listUsers_rows refs (draws.get 3)
    (fun hLt => hLimit (neg_iff_toInt.mp (min_limit_neg.mp hLt)))
    (fun hLt => hOffset (neg_iff_toInt.mp hLt))
  have hLength : (rows.map UserRecord.toUser).length ≤ 200 := by
    rw [hUsers, List.length_map, toInt_min_limit]
    exact Nat.le_trans (List.length_take_le _ _) (by omega)
  rw [← between_eq, toInt_min_limit, Int.toNat_of_nonneg (by omega),
    Int.toNat_of_nonneg (by omega)] at hUsers
  refine .inr ⟨db.ordered (draws.get 3), rows.map UserRecord.toUser, ?_, hLength,
    ordered_perm db _, ordered_descending db _, hUsers⟩
  rw [listing_query refs page entitled h, hRows]
  rfl

/-- For every reachable store, every caller entitled to read users and every page: the
request is refused or lists the page exactly if neither parameter is negative, where
no statement fails, and otherwise if the failure is that of a missing row. -/
theorem list_users_iff {pool : ServerPool} (run : ServerRun state migrated pool) (page : Page)
    (entitled : Entitled state pool.store authorization .usersRead (draws.get 0).now sub) :
    Lists pool.store page
        (outcomeOf (handle state (.listUsers authorization page)) draws pool.store) ↔
      (∀ e, listingFault draws = some e → e = .rowNotFound) ∧
        (listingFault draws = none → 0 ≤ page.limit ∧ 0 ≤ page.offset) := by
  have refs := run.references
  cases hFault : listingFault draws with
  | some e =>
      have status := status_ofDbError e
      rw [listing_fault refs page entitled hFault]
      constructor
      · refine fun lists => ⟨?_, nofun⟩
        rintro _ ⟨⟩
        by_contra hNot
        rw [if_neg hNot] at status
        exact not_lists rfl status lists
      · rintro ⟨missing, _⟩
        rw [if_pos (missing e rfl)] at status
        exact .inl ⟨_, rfl, by omega, by omega⟩
  | none =>
      constructor
      · refine fun lists => ⟨nofun, fun _ => ?_⟩
        by_contra hNot
        have negative : page.limit < 0 ∨ page.offset < 0 := by
          rw [← Int64.not_le, ← Int64.not_le]
          tauto
        obtain ⟨e, hOutcome, hStatus⟩ := listing_negative refs entitled hFault negative
        exact not_lists hOutcome hStatus lists
      · rintro ⟨_, bounds⟩
        obtain ⟨hLimit, hOffset⟩ := bounds rfl
        exact listing_positions refs entitled hFault hLimit hOffset

end Listing

/-! ### Listings of the reference instance -/

section Runs

attribute [local instance] reference

/-- With a limit below zero nothing fails but the query, and the answer is a server error. -/
theorem negative_limit_fails : ∃ (pool : ServerPool) (authorization : Option String) (sub : Uuid)
      (draws : Stream' Draw) (page : Page),
    ServerRun exampleState migrated pool ∧
    Entitled exampleState pool.store authorization .usersRead (draws.get 0).now sub ∧
    (∀ n, (draws.get n).fault = none) ∧
    (∃ e, outcomeOf (handle exampleState (.listUsers authorization page)) draws pool.store =
      .error (.err e) ∧ e.intoResponse.status = 500) ∧
    ¬Lists pool.store page
      (outcomeOf (handle exampleState (.listUsers authorization page)) draws pool.store) := by
  obtain ⟨e, hOutcome, hStatus⟩ := listing_negative (joined_run (moment 22).dbNow).references
    joined_reader rfl (.inl (by decide) : (⟨-1, 0⟩ : Page).limit < 0 ∨ _)
  exact ⟨joined (moment 22).dbNow, _, firstAdmin, moments 60, ⟨-1, 0⟩, joined_run _, joined_reader,
    fun _ => rfl, ⟨e, hOutcome, hStatus⟩, not_lists hOutcome hStatus⟩

/-- The greatest limit is answered as well, here with the elder of two users. -/
theorem greatest_limit_lists : (joined (moment 22).dbNow).store.users.rows.length = 2 ∧
    stopped (outcomeOf (handle exampleState (.listUsers (some (headerFor firstAdmin .admin 41))
      ⟨Int64.maxValue, 1⟩)) (moments 60) (joined (moment 22).dbNow).store) = false ∧
    Lists (joined (moment 22).dbNow).store ⟨Int64.maxValue, 1⟩
      (outcomeOf (handle exampleState (.listUsers (some (headerFor firstAdmin .admin 41))
        ⟨Int64.maxValue, 1⟩)) (moments 60) (joined (moment 22).dbNow).store) := by
  refine ⟨by decide +kernel, by decide +kernel,
    (list_users_iff (joined_run _) _ joined_reader).mpr ⟨nofun, ?_⟩⟩
  exact fun _ => by decide

end Runs

end GenericAuth
