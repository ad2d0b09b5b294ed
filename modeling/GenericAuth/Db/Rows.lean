import GenericAuth.Db.References

/-! What one call makes of the stored users and sessions, row by row: each row
as the call leaves it, and after them the row that the call inserts. -/
namespace GenericAuth

open Relational Interaction

variable [External]

/-! ### Users -/

omit [External] in
/-- A user row after a call. -/
def UserRow.after (draw : Draw) : Call Op Op.Reply → UserRow → UserRow
  | ⟨.sql (.updateRole roleId userId), .ok _⟩, row =>
      if row.id == userId then { row with roleId, updatedAt := draw.dbNow } else row
  | ⟨.sql (.updateActive active userId), .ok _⟩, row =>
      if row.id == userId then { row with isActive := active, updatedAt := draw.dbNow } else row
  | ⟨.sql (.markEmailVerified userId), .ok _⟩, row =>
      if row.id == userId then { row with emailVerified := true, updatedAt := draw.dbNow } else row
  | ⟨.sql (.updatePasswordHash passwordHash userId), .ok _⟩, row =>
      if row.id == userId then
        { row with passwordHash := some passwordHash, updatedAt := draw.dbNow }
      else row
  | _, row => row

omit [External] in
/-- The user row that a call inserts. -/
def UserRow.inserted (draw : Draw) : Call Op Op.Reply → List UserRow
  | ⟨.sql (.insertUser email passwordHash displayName roleId emailVerified), .ok _⟩ =>
      [{ id := draw.uuid, email, displayName, isActive := true, emailVerified,
         createdAt := draw.dbNow, updatedAt := draw.dbNow, passwordHash, roleId }]
  | _ => []

omit [External] in
theorem UserRow.mem_inserted {draw : Draw} {call : Call Op Op.Reply} {row : UserRow}
    (hMem : row ∈ UserRow.inserted draw call) :
    call.op = .sql (.insertUser row.email row.passwordHash row.displayName row.roleId
      row.emailVerified) ∧ row.id = draw.uuid ∧ row.isActive = true := by
  unfold UserRow.inserted at hMem
  split at hMem
  · rw [List.mem_singleton.mp hMem]
    exact ⟨rfl, rfl, rfl⟩
  · cases hMem

theorem answer_users (draw : Draw) (db : Db) (op : Op) :
    (answer draw db op).2.users.rows =
      db.users.rows.map (UserRow.after draw ⟨op, (answer draw db op).1⟩) ++
        UserRow.inserted draw ⟨op, (answer draw db op).1⟩ := by
  have same (rows : List UserRow) : rows = rows.map (fun row => row) ++ [] := by simp
  cases op with
  | sql statement =>
      cases hFault : draw.fault with
      | some error =>
          simp only [answer, hFault]
          cases statement <;> exact same _
      | none =>
          simp only [answer, hFault]
          cases statement with
          | insertUser email passwordHash displayName roleId emailVerified =>
              simp only [Db.exec, Db.insertUser]
              split
              · exact same _
              · next users inserted =>
                  split
                  · rw [Table.insert_rows inserted]
                    exact congrArg (· ++ _) (List.map_id _).symm
                  · exact same _
          | updateRole roleId userId =>
              simp only [Db.exec, Db.updateRole]
              split
              · exact same _
              · exact (List.append_nil _).symm
          | updateActive | markEmailVerified | updatePasswordHash =>
              exact (List.append_nil _).symm
          | grantPermission userId permission granted =>
              simp only [Db.exec, Db.grantPermission]
              repeat' split
              all_goals exact same _
          | upsertOauthIdentity userId provider subject email rawProfile =>
              simp only [Db.exec, Db.upsertOauthIdentity]
              repeat' split
              all_goals exact same _
          | storeRefreshToken userId tokenHash expiresAt userAgent =>
              simp only [Db.exec, Db.storeRefreshToken]
              repeat' split
              all_goals exact same _
          | _ => exact same _
  | _ => exact same _

/-- The row of a user. -/
def Db.user (db : Db) (u : Uuid) : Option UserRow := db.users.find fun row => row.id == u

omit [External] in
@[simp] theorem UserRow.after_id (draw : Draw) (call : Call Op Op.Reply) (row : UserRow) :
    (UserRow.after draw call row).id = row.id := by
  unfold UserRow.after
  split <;> (try split) <;> rfl

omit [External] in
/-- Only one statement gives a stored user another role, and likewise below. -/
theorem UserRow.after_roleId {draw : Draw} {call : Call Op Op.Reply} {row : UserRow}
    (h : ∀ roleId, call.op ≠ .sql (.updateRole roleId row.id)) :
    (UserRow.after draw call row).roleId = row.roleId := by
  unfold UserRow.after
  split
  · next _ roleId userId _ =>
      have hId : row.id ≠ userId := fun hId => h roleId (by rw [hId])
      simp [hId]
  all_goals (try split) <;> rfl

omit [External] in
theorem UserRow.after_isActive {draw : Draw} {call : Call Op Op.Reply} {row : UserRow}
    (h : ∀ active, call.op ≠ .sql (.updateActive active row.id)) :
    (UserRow.after draw call row).isActive = row.isActive := by
  unfold UserRow.after
  split
  case h_2 _ active userId _ =>
    have hId : row.id ≠ userId := fun hId => h active (by rw [hId])
    simp [hId]
  all_goals (try split) <;> rfl

omit [External] in
theorem UserRow.after_passwordHash {draw : Draw} {call : Call Op Op.Reply} {row : UserRow}
    (h : ∀ passwordHash, call.op ≠ .sql (.updatePasswordHash passwordHash row.id)) :
    (UserRow.after draw call row).passwordHash = row.passwordHash := by
  unfold UserRow.after
  split
  case h_4 _ passwordHash userId _ =>
    have hId : row.id ≠ userId := fun hId => h passwordHash (by rw [hId])
    simp [hId]
  all_goals (try split) <;> rfl

omit [External] in
/-- No statement takes a password away. -/
theorem UserRow.after_isSome {draw : Draw} {call : Call Op Op.Reply} {row : UserRow}
    (h : row.passwordHash.isSome) : (UserRow.after draw call row).passwordHash.isSome := by
  unfold UserRow.after
  split
  case h_4 =>
    split
    · rfl
    · exact h
  all_goals (try split) <;> exact h

/-- Explicit permissions change by one statement alone. -/
theorem Effect.userPermissions {draw : Draw} {db db' : Db} {op : Op} {reply : op.Reply}
    (effect : Effect draw db op reply db')
    (h : ∀ userId permission granted, op ≠ .sql (.grantPermission userId permission granted)) :
    db'.userPermissions = db.userPermissions := by
  cases effect with
  | grantNew | grantAgain => exact absurd rfl (h _ _ _)
  | _ => rfl

/-- What a call makes of the row of one user. -/
theorem answer_user (draw : Draw) (db : Db) (op : Op) (u : Uuid) :
    (answer draw db op).2.user u =
      ((db.user u).map (UserRow.after draw ⟨op, (answer draw db op).1⟩)).or
        ((UserRow.inserted draw ⟨op, (answer draw db op).1⟩).find? fun row => row.id == u) := by
  simp only [Db.user, Table.find, answer_users, List.find?_append, List.find?_map,
    Function.comp_def, UserRow.after_id]

theorem user_eq_some {db : Db} {u : Uuid} {row : UserRow} :
    db.user u = some row ↔ row ∈ db.users.rows ∧ row.id = u := by
  constructor
  · intro h
    obtain ⟨hMem, hId⟩ := Table.mem_of_find h
    exact ⟨hMem, beq_iff_eq.mp hId⟩
  · rintro ⟨hMem, rfl⟩
    exact Table.find_eq_some UserRow.clash_comm
      (fun first second h h' => by simp_all [UserRow.clash]) hMem (beq_self_eq_true _)

theorem hasUser_eq (db : Db) (u : Uuid) : db.hasUser u = (db.user u).isSome := by
  simp only [Db.hasUser, Db.user, Table.find, List.isSome_find?]

/-- The user exists and has a password. -/
def Db.HasPassword (db : Db) (u : Uuid) : Prop :=
  ∃ row ∈ db.users.rows, row.id = u ∧ row.passwordHash.isSome

theorem answer_hasPassword (draw : Draw) (db : Db) (op : Op) {u : Uuid} (h : db.HasPassword u) :
    (answer draw db op).2.HasPassword u := by
  obtain ⟨row, hMem, hId, hSome⟩ := h
  refine ⟨UserRow.after draw ⟨op, (answer draw db op).1⟩ row, ?_, (UserRow.after_id ..).trans hId,
    UserRow.after_isSome hSome⟩
  rw [answer_users]
  exact List.mem_append_left _ (List.mem_map_of_mem hMem)

/-! ### Sessions -/

omit [External] in
/-- A session row after a call. -/
def RefreshTokenRow.after (draw : Draw) : Call Op Op.Reply → RefreshTokenRow → RefreshTokenRow
  | ⟨.sql (.revokeRefreshToken tokenHash), .ok _⟩, row =>
      if row.tokenHash == tokenHash then { row with revokedAt := some draw.dbNow } else row
  | ⟨.sql (.revokeAllRefreshTokens userId), .ok _⟩, row =>
      if row.userId == userId && row.revokedAt.isNone then
        { row with revokedAt := some draw.dbNow }
      else row
  | _, row => row

omit [External] in
/-- The session row that a call inserts. -/
def RefreshTokenRow.inserted (draw : Draw) : Call Op Op.Reply → List RefreshTokenRow
  | ⟨.sql (.storeRefreshToken userId tokenHash expiresAt userAgent), .ok _⟩ =>
      [{ id := draw.uuid, userId, tokenHash, issuedAt := draw.dbNow, expiresAt, revokedAt := none,
         userAgent }]
  | _ => []

theorem answer_refreshTokens (draw : Draw) (db : Db) (op : Op) :
    (answer draw db op).2.refreshTokens.rows =
      db.refreshTokens.rows.map (RefreshTokenRow.after draw ⟨op, (answer draw db op).1⟩) ++
        RefreshTokenRow.inserted draw ⟨op, (answer draw db op).1⟩ := by
  have same (rows : List RefreshTokenRow) : rows = rows.map (fun row => row) ++ [] := by simp
  cases op with
  | sql statement =>
      cases hFault : draw.fault with
      | some error =>
          simp only [answer, hFault]
          cases statement <;> exact same _
      | none =>
          simp only [answer, hFault]
          cases statement with
          | storeRefreshToken userId tokenHash expiresAt userAgent =>
              simp only [Db.exec, Db.storeRefreshToken]
              split
              · exact same _
              · next refreshTokens inserted =>
                  split
                  · rw [Table.insert_rows inserted]
                    exact congrArg (· ++ _) (List.map_id _).symm
                  · exact same _
          | revokeRefreshToken | revokeAllRefreshTokens => exact (List.append_nil _).symm
          | insertUser email passwordHash displayName roleId emailVerified =>
              simp only [Db.exec, Db.insertUser]
              repeat' split
              all_goals exact same _
          | updateRole roleId userId =>
              simp only [Db.exec, Db.updateRole]
              split <;> exact same _
          | grantPermission userId permission granted =>
              simp only [Db.exec, Db.grantPermission]
              repeat' split
              all_goals exact same _
          | upsertOauthIdentity userId provider subject email rawProfile =>
              simp only [Db.exec, Db.upsertOauthIdentity]
              repeat' split
              all_goals exact same _
          | _ => exact same _
  | _ => exact same _

omit [External] in
/-- The call is none of the statements on sessions. -/
def keepsSessions : Call Op Op.Reply → Bool
  | ⟨.sql (.storeRefreshToken ..), _⟩ | ⟨.sql (.revokeRefreshToken _), _⟩
  | ⟨.sql (.revokeAllRefreshTokens _), _⟩ => false
  | _ => true

theorem answer_keepsSessions {draw : Draw} {db : Db} {op : Op}
    (h : keepsSessions ⟨op, (answer draw db op).1⟩ = true) :
    (answer draw db op).2.refreshTokens = db.refreshTokens := by
  have effect := answer_effect draw db op
  generalize (answer draw db op).1 = reply, (answer draw db op).2 = db' at effect h
  cases effect with
  | storeRefreshToken | revokeRefreshToken | revokeAllRefreshTokens => cases h
  | _ => rfl

end GenericAuth
