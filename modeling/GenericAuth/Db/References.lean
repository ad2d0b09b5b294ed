import GenericAuth.Db.Reply

/-! Foreign keys. Every reference points to a stored row, which no statement
deletes, so the joins of the queries lose nothing. -/
namespace GenericAuth

open Relational

variable [External] {draw : Draw} {db db' : Db} {op : Op} {reply : op.Reply}

theorem hasUser_iff {id : Uuid} : db.hasUser id = true ↔ ∃ row ∈ db.users.rows, row.id = id := by
  simp [Db.hasUser]

theorem Db.Later.hasUser {id : Uuid} (later : db.Later db') (h : db.hasUser id = true) :
    db'.hasUser id = true := by
  obtain ⟨row, hMem, rfl⟩ := hasUser_iff.mp h
  obtain ⟨row', hMem', same⟩ := later.users row hMem
  exact hasUser_iff.mpr ⟨row', hMem', same.id⟩

/-- The references that the queries follow. -/
structure Db.References (db : Db) : Prop where
  roles : ∀ row ∈ db.users.rows, (db.roles.any fun role => role.id == row.roleId) = true
  identities : ∀ row ∈ db.oauthIdentities.rows, db.hasUser row.userId = true
  sessions : ∀ row ∈ db.refreshTokens.rows, db.hasUser row.userId = true
  verifications : ∀ row ∈ db.emailVerificationTokens.rows, db.hasUser row.userId = true
  resets : ∀ row ∈ db.passwordResetTokens.rows, db.hasUser row.userId = true

theorem migrated_references : (migrated : Db).References := by
  constructor <;> intro row hMem <;> cases hMem

/-- Only the references to users depend on their table. -/
theorem Db.References.users (refs : db.References) {users : Table UserRow.clash}
    (later : db.Later { db with users })
    (roles : ∀ row ∈ users.rows, (db.roles.any fun role => role.id == row.roleId) = true) :
    ({ db with users } : Db).References where
  roles := roles
  identities row hMem := later.hasUser (refs.identities row hMem)
  sessions row hMem := later.hasUser (refs.sessions row hMem)
  verifications row hMem := later.hasUser (refs.verifications row hMem)
  resets row hMem := later.hasUser (refs.resets row hMem)

/-- Updates of users keep the role, or choose one that exists. -/
theorem Db.References.updateUsers {id : Uuid} {change : UserRow → UserRow}
    {keeps : Keeps UserRow.clash change} (refs : db.References)
    (later : db.Later (db.updateUsers id change keeps))
    (hRole : ∀ row ∈ db.users.rows, row.id = id →
      (db.roles.any fun role => role.id == (change row).roleId) = true) :
    (db.updateUsers id change keeps).References := by
  apply refs.users later
  intro row hMem
  obtain ⟨old, hOld, rfl⟩ := (Table.mem_update keeps).mp hMem
  split
  · next h => exact hRole old hOld (beq_iff_eq.mp h)
  · exact refs.roles old hOld

theorem Effect.references (effect : Effect draw db op reply db') (refs : db.References) :
    db'.References := by
  have later := effect.later
  cases effect with
  | unchanged => exact refs
  | insertUser inserted hRole =>
      apply refs.users later
      intro row hMem
      rcases (Table.mem_insert inserted).mp hMem with hOld | rfl
      · exact refs.roles row hOld
      · exact hRole
  | updateRole hRole =>
      apply refs.updateUsers later
      intro row hMem hId
      exact hRole (hasUser_iff.mpr ⟨row, hMem, hId⟩)
  | updateActive | markEmailVerified | updatePasswordHash =>
      exact refs.updateUsers later fun row hMem _ => refs.roles row hMem
  | upsertNew free inserted hUser =>
      refine { refs with identities := ?_ }
      intro row hMem
      rcases (Table.mem_insert inserted).mp hMem with hOld | rfl
      · exact refs.identities row hOld
      · exact hUser
  | upsertAgain =>
      refine { refs with identities := ?_ }
      intro row hMem
      obtain ⟨old, hOld, rfl⟩ := List.mem_map.mp hMem
      split <;> exact refs.identities old hOld
  | storeRefreshToken inserted hUser =>
      refine { refs with sessions := ?_ }
      intro row hMem
      rcases (Table.mem_insert inserted).mp hMem with hOld | rfl
      · exact refs.sessions row hOld
      · exact hUser
  | revokeRefreshToken | revokeAllRefreshTokens =>
      refine { refs with sessions := ?_ }
      intro row hMem
      obtain ⟨old, hOld, rfl⟩ := List.mem_map.mp hMem
      split <;> exact refs.sessions old hOld
  | storeEmailVerificationToken inserted hUser =>
      refine { refs with verifications := ?_ }
      intro row hMem
      rcases (Table.mem_insert inserted).mp hMem with hOld | rfl
      · exact refs.verifications row hOld
      · exact hUser
  | storePasswordResetToken inserted hUser =>
      refine { refs with resets := ?_ }
      intro row hMem
      rcases (Table.mem_insert inserted).mp hMem with hOld | rfl
      · exact refs.resets row hOld
      · exact hUser
  | consumeEmailVerificationToken =>
      refine { refs with verifications := ?_ }
      intro row hMem
      obtain ⟨old, hOld, change⟩ := mem_consumeOneTimeToken hMem
      rw [change.userId]
      exact refs.verifications old hOld
  | consumePasswordResetToken =>
      refine { refs with resets := ?_ }
      intro row hMem
      obtain ⟨old, hOld, change⟩ := mem_consumeOneTimeToken hMem
      rw [change.userId]
      exact refs.resets old hOld
  | grantNew | grantAgain => exact { refs with }

theorem answer_references (draw : Draw) (db : Db) (op : Op) (refs : db.References) :
    (answer draw db op).2.References :=
  (answer_effect draw db op).references refs

theorem Db.References.of_answer (refs : db.References) (h : answer draw db op = (reply, db')) :
    db'.References := by
  have refs' := answer_references draw db op refs
  rwa [h] at refs'

/-! ### Queries on stored users -/

/-- The join with `roles` finds a user whose role exists. -/
theorem record_some {row : UserRow} (h : (db.roles.any fun role => role.id == row.roleId) = true) :
    ∃ found, db.record row = some found ∧ found.toUserColumns = row.toUserColumns := by
  obtain ⟨role, hRole, hId⟩ := List.any_eq_true.mp h
  cases hFind : db.roles.find? fun role => role.id == row.roleId with
  | none => exact absurd hId (List.find?_eq_none.mp hFind role hRole)
  | some found =>
      exact ⟨{ toUserColumns := row.toUserColumns, roleName := found.name },
        by simp [Db.record, hFind], rfl⟩

theorem Db.References.record (refs : db.References) {row : UserRow}
    (hMem : row ∈ db.users.rows) :
    ∃ found, db.record row = some found ∧ found.toUserColumns = row.toUserColumns :=
  record_some (refs.roles row hMem)

theorem userRow_unique {row row' : UserRow} (hMem : row ∈ db.users.rows)
    (hMem' : row' ∈ db.users.rows) (hId : row.id = row'.id) : row = row' :=
  db.users.eq_of_clash UserRow.clash_comm hMem hMem' (by simp [UserRow.clash, hId])

/-- An address belongs to one user at most. -/
theorem userEmail_unique {row row' : UserRow} {email : Option String} (hMem : row ∈ db.users.rows)
    (hMem' : row' ∈ db.users.rows) (hEmail : sameEmail row.email email = true)
    (hEmail' : sameEmail row'.email email = true) : row = row' := by
  apply db.users.eq_of_clash UserRow.clash_comm hMem hMem'
  cases h : row.email <;> cases h' : row'.email <;> cases email <;>
    simp_all [UserRow.clash, sameEmail]

theorem findByEmail_some {row : UserRow} {email : String}
    (hRole : (db.roles.any fun role => role.id == row.roleId) = true)
    (hMem : row ∈ db.users.rows) (hEmail : sameEmail row.email (some email) = true) :
    ∃ found, db.findByEmail email = some found ∧ found.toUserColumns = row.toUserColumns ∧
      found.passwordHash = row.passwordHash ∧ db.record row = some found.toUserRecord := by
  have hFind : db.users.find (fun other => sameEmail other.email (some email)) = some row := by
    refine Table.find_eq_some UserRow.clash_comm (fun first second h h' => ?_) hMem hEmail
    cases hFirst : first.email <;> cases hSecond : second.email <;>
      simp_all [UserRow.clash, sameEmail]
  obtain ⟨record, hRecord, hColumns⟩ := record_some hRole
  exact ⟨{ toUserRecord := record, passwordHash := row.passwordHash },
    by simp [Db.findByEmail, hFind, hRecord], hColumns, rfl, hRecord⟩

theorem Db.References.findByEmail (refs : db.References) {row : UserRow} {email : String}
    (hMem : row ∈ db.users.rows) (hEmail : sameEmail row.email (some email) = true) :
    ∃ found, db.findByEmail email = some found ∧ found.toUserColumns = row.toUserColumns ∧
      found.passwordHash = row.passwordHash ∧ db.record row = some found.toUserRecord :=
  findByEmail_some (refs.roles row hMem) hMem hEmail

/-- A stored user is found by its id. -/
theorem Db.References.findUser (refs : db.References) {row : UserRow} (hMem : row ∈ db.users.rows) :
    ∃ found, db.findById row.id = some found ∧ found.toUserColumns = row.toUserColumns := by
  obtain ⟨found, hRecord, hColumns⟩ := refs.record hMem
  have hFind : db.users.find (fun other => other.id == row.id) = some row :=
    Table.find_eq_some UserRow.clash_comm (fun first second h h' => by simp_all [UserRow.clash])
      hMem (beq_self_eq_true _)
  exact ⟨found, by simp [Db.findById, hFind, hRecord], hColumns⟩

theorem Db.References.findById (refs : db.References) {id : Uuid} (h : db.hasUser id = true) :
    ∃ found : UserRecord, db.findById id = some found ∧ found.id = id := by
  obtain ⟨row, hMem, rfl⟩ := hasUser_iff.mp h
  obtain ⟨found, hFound, hColumns⟩ := refs.findUser hMem
  exact ⟨found, hFound, congrArg UserColumns.id hColumns⟩

/-- A subject without a user is bound to nobody, since identities refer to stored
users. -/
theorem findUserByOauth_none {provider subject : String} (refs : db.References)
    (h : answer draw db (.sql (.findUserByOauth provider subject)) = (.ok none, db')) (v : Uuid) :
    ¬db.BoundTo provider subject v := by
  rintro ⟨row, hMem, rfl, rfl, rfl⟩
  have hFind : db.oauthIdentities.find (fun other =>
      other.provider == row.provider && other.subject == row.subject) = some row :=
    Table.find_eq_some OAuthIdentityRow.clash_comm
      (fun first second h h' => by simp_all [OAuthIdentityRow.clash]) hMem (by simp)
  obtain ⟨found, hFound, _⟩ := refs.findById (refs.identities row hMem)
  have hExec := Except.ok.inj (congrArg Prod.fst (exec_of_answer h))
  simp [Db.findUserByOauth, hFind, hFound] at hExec

end GenericAuth
