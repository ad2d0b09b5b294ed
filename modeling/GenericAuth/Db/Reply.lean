import GenericAuth.Db.History

/-! What the reply of a successful statement says about the tables it found and
about those it left behind. -/
namespace GenericAuth

open Relational

variable [External] {draw : Draw} {db db' : Db}

/-! ### Users -/

/-- The join adds the name of the role and leaves the columns alone. -/
theorem record_eq_some {row : UserRow} {found : UserRecord} (h : db.record row = some found) :
    found.toUserColumns = row.toUserColumns := by
  simp only [Db.record, Option.map_eq_some_iff] at h
  obtain ⟨role, _, rfl⟩ := h
  rfl

theorem findById_db {id : Uuid} {found : UserRecord} (h : db.findById id = some found) :
    ∃ row ∈ db.users.rows, row.id = id ∧ found.toUserColumns = row.toUserColumns := by
  obtain ⟨row, hFind, hRecord⟩ := Option.bind_eq_some_iff.mp h
  obtain ⟨hMem, hId⟩ := Table.mem_of_find hFind
  exact ⟨row, hMem, by simpa using hId, record_eq_some hRecord⟩

/-- A user that is found is stored, and the reply shows its columns. -/
theorem findById_reply {id : Uuid} {found : UserRecord}
    (h : answer draw db (.sql (.findById id)) = (.ok (some found), db')) :
    ∃ row ∈ db.users.rows, row.id = id ∧ found.toUserColumns = row.toUserColumns := by
  have hExec := congrArg Prod.fst (exec_of_answer h)
  exact findById_db (Except.ok.inj hExec)

theorem findByEmail_db {email : String} {found : UserSecretRecord}
    (h : db.findByEmail email = some found) :
    ∃ row ∈ db.users.rows, sameEmail row.email (some email) = true ∧
      found.toUserColumns = row.toUserColumns ∧ found.passwordHash = row.passwordHash := by
  obtain ⟨row, hFind, hJoin⟩ := Option.bind_eq_some_iff.mp h
  obtain ⟨record, hRecord, rfl⟩ := Option.map_eq_some_iff.mp hJoin
  obtain ⟨hMem, hEmail⟩ := Table.mem_of_find hFind
  exact ⟨row, hMem, hEmail, record_eq_some hRecord, rfl⟩

/-- The stored address need not have the spelling that was asked for. -/
theorem findByEmail_reply {email : String} {found : UserSecretRecord}
    (h : answer draw db (.sql (.findByEmail email)) = (.ok (some found), db')) :
    ∃ row ∈ db.users.rows, sameEmail row.email (some email) = true ∧
      found.toUserColumns = row.toUserColumns ∧ found.passwordHash = row.passwordHash := by
  have hExec := congrArg Prod.fst (exec_of_answer h)
  exact findByEmail_db (Except.ok.inj hExec)

/-- The reply shows the row as it is stored afterwards. -/
theorem insertUser_reply {email passwordHash displayName : Option String} {roleId : Nat}
    {emailVerified : Bool} {columns : UserColumns}
    (h : answer draw db (.sql (.insertUser email passwordHash displayName roleId emailVerified)) =
      (.ok columns, db')) :
    columns.id = draw.uuid ∧ ∃ row ∈ db'.users.rows, row.toUserColumns = columns ∧
      row.email = email ∧ row.emailVerified = emailVerified := by
  have hExec := exec_of_answer h
  simp only [Db.exec, Db.insertUser] at hExec
  split at hExec
  · simp at hExec
  · next users inserted =>
      split at hExec
      · obtain ⟨hColumns, rfl⟩ := Prod.mk.inj hExec
        obtain rfl := Except.ok.inj hColumns
        exact ⟨rfl, _, (Table.mem_insert inserted).mpr (.inr rfl), rfl, rfl, rfl⟩
      · simp at hExec

/-- The new account is the only change. -/
theorem insertUser_after {email passwordHash displayName : Option String} {roleId : Nat}
    {emailVerified : Bool} {columns : UserColumns}
    (h : answer draw db (.sql (.insertUser email passwordHash displayName roleId emailVerified)) =
      (.ok columns, db')) :
    ∃ (users : Table UserRow.clash) (row : UserRow), db' = { db with users } ∧
      users.rows = db.users.rows ++ [row] ∧ row.toUserColumns = columns ∧ row.email = email := by
  have hExec := exec_of_answer h
  simp only [Db.exec, Db.insertUser] at hExec
  split at hExec
  · simp at hExec
  · next users inserted =>
      split at hExec
      · obtain ⟨hColumns, rfl⟩ := Prod.mk.inj hExec
        exact ⟨users, _, rfl, Table.insert_rows inserted, Except.ok.inj hColumns, rfl⟩
      · simp at hExec

/-- An account is created only under an id and an address that nobody has. -/
theorem insertUser_new {email passwordHash displayName : Option String} {roleId : Nat}
    {emailVerified : Bool} {columns : UserColumns}
    (h : answer draw db (.sql (.insertUser email passwordHash displayName roleId emailVerified)) =
      (.ok columns, db')) :
    ∀ row ∈ db.users.rows, row.id ≠ columns.id ∧ sameEmail row.email email = false := by
  intro row hMem
  obtain ⟨hId, _⟩ := insertUser_reply h
  have hExec := exec_of_answer h
  simp only [Db.exec, Db.insertUser] at hExec
  split at hExec
  · simp at hExec
  · next users inserted =>
      have free := Table.free_of_insert inserted row hMem
      simp only [UserRow.clash, Bool.or_eq_false_iff, beq_eq_false_iff_ne] at free
      rwa [hId]

/-- The subject of the provider is bound to the user. -/
def Db.BoundTo (db : Db) (provider subject : String) (u : Uuid) : Prop :=
  ∃ row ∈ db.oauthIdentities.rows, row.provider = provider ∧ row.subject = subject ∧ row.userId = u

theorem Db.BoundTo.unique {provider subject : String} {u v : Uuid}
    (first : db.BoundTo provider subject u) (second : db.BoundTo provider subject v) : v = u := by
  obtain ⟨row, hMem, hProvider, hSubject, rfl⟩ := first
  obtain ⟨row', hMem', hProvider', hSubject', rfl⟩ := second
  rw [db.oauthIdentities.eq_of_clash OAuthIdentityRow.clash_comm hMem hMem' (by
    simp [OAuthIdentityRow.clash, hProvider, hProvider', hSubject, hSubject'])]

theorem findUserByOauth_reply {provider subject : String} {found : UserRecord}
    (h : answer draw db (.sql (.findUserByOauth provider subject)) = (.ok (some found), db')) :
    ∃ row ∈ db.oauthIdentities.rows, row.provider = provider ∧ row.subject = subject ∧
      row.userId = found.id := by
  have hExec := Except.ok.inj (congrArg Prod.fst (exec_of_answer h))
  obtain ⟨row, hFind, hUser⟩ := Option.bind_eq_some_iff.mp hExec
  obtain ⟨hMem, hRow⟩ := Table.mem_of_find hFind
  obtain ⟨user, _, hId, hColumns⟩ := findById_db hUser
  simp only [Bool.and_eq_true, beq_iff_eq] at hRow
  refine ⟨row, hMem, hRow.1, hRow.2, ?_⟩
  rw [hColumns, hId]

/-- The subject is bound afterwards, and to this user when it was not bound. -/
theorem upsertOauthIdentity_reply {userId : Uuid} {provider subject : String}
    {email : Option String} {rawProfile : GoogleProfile} {rows : Unit}
    (h : answer draw db (.sql (.upsertOauthIdentity userId provider subject email rawProfile)) =
      (.ok rows, db')) :
    ∃ row ∈ db'.oauthIdentities.rows, row.provider = provider ∧ row.subject = subject ∧
      ((∀ old ∈ db.oauthIdentities.rows, ¬(old.provider = provider ∧ old.subject = subject)) →
        row.userId = userId) := by
  have hExec := exec_of_answer h
  simp only [Db.exec, Db.upsertOauthIdentity] at hExec
  split at hExec
  · next bound =>
      obtain ⟨-, rfl⟩ := Prod.mk.inj hExec
      obtain ⟨old, hMem, hOld⟩ := List.any_eq_true.mp bound
      refine ⟨{ old with email, rawProfile }, ?_, ?_⟩
      · exact List.mem_map.mpr ⟨old, hMem, by simp [hOld]⟩
      · simp only [Bool.and_eq_true, beq_iff_eq] at hOld
        exact ⟨hOld.1, hOld.2, fun free => absurd hOld (free old hMem)⟩
  · split at hExec
    · simp at hExec
    · next oauthIdentities inserted =>
        split at hExec
        · obtain ⟨-, rfl⟩ := Prod.mk.inj hExec
          exact ⟨_, (Table.mem_insert inserted).mpr (.inr rfl), rfl, rfl, fun _ => rfl⟩
        · simp at hExec

/-- The binding of a subject that was not bound is the only change. -/
theorem upsertOauthIdentity_new {userId : Uuid} {provider subject : String}
    {email : Option String} {rawProfile : GoogleProfile} {rows : Unit}
    (h : answer draw db (.sql (.upsertOauthIdentity userId provider subject email rawProfile)) =
      (.ok rows, db')) (unbound : ∀ v, ¬db.BoundTo provider subject v) :
    ∃ (oauthIdentities : Table OAuthIdentityRow.clash) (row : OAuthIdentityRow),
      db' = { db with oauthIdentities } ∧
      oauthIdentities.rows = db.oauthIdentities.rows ++ [row] ∧ row.userId = userId ∧
      row.provider = provider ∧ row.subject = subject ∧ row.email = email ∧
      row.rawProfile = rawProfile := by
  have hExec := exec_of_answer h
  simp only [Db.exec, Db.upsertOauthIdentity] at hExec
  split at hExec
  · next bound =>
      obtain ⟨old, hMem, hOld⟩ := List.any_eq_true.mp bound
      simp only [Bool.and_eq_true, beq_iff_eq] at hOld
      exact absurd ⟨old, hMem, hOld.1, hOld.2, rfl⟩ (unbound old.userId)
  · split at hExec
    · simp at hExec
    · next oauthIdentities inserted =>
        split at hExec
        · obtain ⟨-, rfl⟩ := Prod.mk.inj hExec
          exact ⟨oauthIdentities, _, rfl, Table.insert_rows inserted, rfl, rfl, rfl, rfl, rfl⟩
        · simp at hExec

/-! ### Refresh tokens -/

theorem refreshToken_unique {row row' : RefreshTokenRow}
    (hMem : row ∈ db.refreshTokens.rows) (hMem' : row' ∈ db.refreshTokens.rows)
    (hHash : row.tokenHash = row'.tokenHash) : row = row' :=
  db.refreshTokens.eq_of_clash RefreshTokenRow.clash_comm hMem hMem'
    (by simp [RefreshTokenRow.clash, hHash])

theorem lookupRefreshToken_reply {tokenHash : String} {userId : Uuid} {expiresAt : OffsetDateTime}
    {revokedAt : Option OffsetDateTime}
    (h : answer draw db (.sql (.lookupRefreshToken tokenHash)) =
      (.ok (some (userId, expiresAt, revokedAt)), db')) :
    ∃ row ∈ db.refreshTokens.rows, row.tokenHash = tokenHash ∧ row.userId = userId ∧
      row.expiresAt = expiresAt ∧ row.revokedAt = revokedAt := by
  have hExec := Except.ok.inj (congrArg Prod.fst (exec_of_answer h))
  obtain ⟨row, hFind, hRow⟩ := Option.map_eq_some_iff.mp hExec
  obtain ⟨hMem, hHash⟩ := Table.mem_of_find hFind
  simp only [Prod.mk.injEq] at hRow
  exact ⟨row, hMem, by simpa using hHash, hRow⟩

theorem storeRefreshToken_reply {userId : Uuid} {tokenHash : String} {expiresAt : OffsetDateTime}
    {userAgent : Option String} {id : Uuid}
    (h : answer draw db (.sql (.storeRefreshToken userId tokenHash expiresAt userAgent)) =
      (.ok id, db')) :
    ∃ row ∈ db'.refreshTokens.rows, row.userId = userId ∧ row.tokenHash = tokenHash ∧
      row.expiresAt = expiresAt ∧ row.revokedAt = none := by
  have hExec := exec_of_answer h
  simp only [Db.exec, Db.storeRefreshToken] at hExec
  split at hExec
  · simp at hExec
  · next refreshTokens inserted =>
      split at hExec
      · obtain ⟨-, rfl⟩ := Prod.mk.inj hExec
        exact ⟨_, (Table.mem_insert inserted).mpr (.inr rfl), rfl, rfl, rfl, rfl⟩
      · simp at hExec

theorem revokeRefreshToken_reply {tokenHash : String} {rows : Unit}
    (h : answer draw db (.sql (.revokeRefreshToken tokenHash)) = (.ok rows, db')) :
    ∀ row ∈ db'.refreshTokens.rows, row.tokenHash = tokenHash → row.revokedAt.isSome := by
  obtain ⟨-, rfl⟩ := Prod.mk.inj (exec_of_answer h)
  intro row hMem hHash
  obtain ⟨old, _, rfl⟩ := List.mem_map.mp hMem
  by_cases hOld : old.tokenHash = tokenHash
  · simp [hOld]
  · simp [hOld] at hHash

theorem revokeAllRefreshTokens_reply {userId : Uuid} {rows : Unit}
    (h : answer draw db (.sql (.revokeAllRefreshTokens userId)) = (.ok rows, db')) :
    ∀ row ∈ db'.refreshTokens.rows, row.userId = userId → row.revokedAt.isSome := by
  obtain ⟨-, rfl⟩ := Prod.mk.inj (exec_of_answer h)
  intro row hMem hUser
  obtain ⟨old, _, rfl⟩ := List.mem_map.mp hMem
  cases hOld : old.revokedAt with
  | none =>
      by_cases hUser' : old.userId = userId
      · simp [hUser', hOld]
      · simp [hUser'] at hUser
  | some _ => simp [hOld]

/-! ### One-time tokens -/

omit [External] in
/-- A token that was consumed was unused and in time, and is used from then on. -/
theorem consumeOneTimeToken_eq {table : Table OneTimeTokenRow.clash} {tokenHash : String}
    {userId : Uuid} (h : (Db.consumeOneTimeToken draw table tokenHash).1 = some userId) :
    ∃ row ∈ table.rows, row.tokenHash = tokenHash ∧ row.userId = userId ∧ row.usedAt = none ∧
      draw.dbNow < row.expiresAt ∧ { row with usedAt := some draw.dbNow } ∈
        (Db.consumeOneTimeToken draw table tokenHash).2.rows := by
  obtain ⟨row, hFind, rfl⟩ := Option.map_eq_some_iff.mp h
  obtain ⟨hMem, hRow⟩ := Table.mem_of_find hFind
  have hNew : { row with usedAt := some draw.dbNow } ∈
      (Db.consumeOneTimeToken draw table tokenHash).2.rows :=
    List.mem_map.mpr ⟨row, hMem, by simp [hRow]⟩
  simp only [Db.consumable, Bool.and_eq_true, beq_iff_eq, Option.isNone_iff_eq_none,
    decide_eq_true_eq] at hRow
  exact ⟨row, hMem, hRow.1.1, rfl, hRow.1.2, hRow.2, hNew⟩

theorem consumeEmailVerificationToken_reply {tokenHash : String} {userId : Uuid}
    (h : answer draw db (.sql (.consumeEmailVerificationToken tokenHash)) = (.ok (some userId), db')) :
    ∃ row ∈ db.emailVerificationTokens.rows, row.tokenHash = tokenHash ∧ row.userId = userId ∧
      row.usedAt = none ∧ draw.dbNow < row.expiresAt ∧
      { row with usedAt := some draw.dbNow } ∈ db'.emailVerificationTokens.rows := by
  obtain ⟨hReply, rfl⟩ := Prod.mk.inj (exec_of_answer h)
  exact consumeOneTimeToken_eq (Except.ok.inj hReply)

theorem consumePasswordResetToken_reply {tokenHash : String} {userId : Uuid}
    (h : answer draw db (.sql (.consumePasswordResetToken tokenHash)) = (.ok (some userId), db')) :
    ∃ row ∈ db.passwordResetTokens.rows, row.tokenHash = tokenHash ∧ row.userId = userId ∧
      row.usedAt = none ∧ draw.dbNow < row.expiresAt ∧
      { row with usedAt := some draw.dbNow } ∈ db'.passwordResetTokens.rows := by
  obtain ⟨hReply, rfl⟩ := Prod.mk.inj (exec_of_answer h)
  exact consumeOneTimeToken_eq (Except.ok.inj hReply)

omit [External] in
theorem mem_consumeOneTimeToken {table : Table OneTimeTokenRow.clash} {tokenHash : String}
    {row : OneTimeTokenRow} (hMem : row ∈ (Db.consumeOneTimeToken draw table tokenHash).2.rows) :
    ∃ old ∈ table.rows, old.Later row := by
  obtain ⟨old, hOld, rfl⟩ := List.mem_map.mp hMem
  refine ⟨old, hOld, ?_⟩
  split
  · next h => exact consumable_later h
  · exact .refl old

omit [External] in
theorem oneTimeToken_unique {table : Table OneTimeTokenRow.clash} {row row' : OneTimeTokenRow}
    (hMem : row ∈ table.rows) (hMem' : row' ∈ table.rows) (hHash : row.tokenHash = row'.tokenHash) :
    row = row' :=
  table.eq_of_clash OneTimeTokenRow.clash_comm hMem hMem' (by simp [OneTimeTokenRow.clash, hHash])

omit [External] in
theorem oneTimeToken_free {table table' : Table OneTimeTokenRow.clash} {row : OneTimeTokenRow}
    (inserted : table.insert row = some table') :
    ∀ old ∈ table.rows, old.tokenHash ≠ row.tokenHash := by
  intro old hMem hHash
  have free := Table.free_of_insert inserted old hMem
  simp [OneTimeTokenRow.clash, hHash] at free

/-- A successful store leaves the hash taken, by its own row or an older one. -/
theorem storeOneTimeToken_taken {name : String} {table table' : Table OneTimeTokenRow.clash}
    {userId : Uuid} {tokenHash : String} {expiresAt : OffsetDateTime}
    (h : Db.storeOneTimeToken draw db name table userId tokenHash expiresAt = (.ok (), table')) :
    ∃ row ∈ table'.rows, row.tokenHash = tokenHash := by
  simp only [Db.storeOneTimeToken] at h
  split at h
  · next taken =>
      obtain ⟨-, rfl⟩ := Prod.mk.inj h
      simpa using taken
  · split at h
    · simp at h
    · next inserted =>
        split at h
        · obtain ⟨-, rfl⟩ := Prod.mk.inj h
          exact ⟨_, (Table.mem_insert inserted).mpr (.inr rfl), rfl⟩
        · simp at h

end GenericAuth
