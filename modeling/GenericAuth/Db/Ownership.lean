import GenericAuth.Db.Reply

/-! Whose rows a statement changes. Every statement names its rows in its own way:
by the user, by the hash of a token, by the subject of an identity. -/
namespace GenericAuth

open Relational Interaction

variable [External]

/-- The rows that belong to one user. -/
structure Account where
  users : List UserRow
  oauthIdentities : List OAuthIdentityRow
  refreshTokens : List RefreshTokenRow
  emailVerificationTokens : List OneTimeTokenRow
  passwordResetTokens : List OneTimeTokenRow
  userPermissions : List UserPermissionRow
  deriving DecidableEq

def Db.account (db : Db) (u : Uuid) : Account where
  users := db.users.rows.filter fun row => row.id == u
  oauthIdentities := db.oauthIdentities.rows.filter fun row => row.userId == u
  refreshTokens := db.refreshTokens.rows.filter fun row => row.userId == u
  emailVerificationTokens := db.emailVerificationTokens.rows.filter fun row => row.userId == u
  passwordResetTokens := db.passwordResetTokens.rows.filter fun row => row.userId == u
  userPermissions := db.userPermissions.rows.filter fun row => row.userId == u

/-- The user owns the refresh token with this hash. -/
def Db.OwnsSession (db : Db) (tokenHash : String) (u : Uuid) : Prop :=
  ∃ row ∈ db.refreshTokens.rows, row.tokenHash = tokenHash ∧ row.userId = u

/-- The user owns the one-time token with this hash. -/
def Owns (table : Table OneTimeTokenRow.clash) (tokenHash : String) (u : Uuid) : Prop :=
  ∃ row ∈ table.rows, row.tokenHash = tokenHash ∧ row.userId = u

/-- The operation may change rows of the user. -/
def Touches (draw : Draw) (db : Db) : Op → Uuid → Prop
  | .sql (.insertUser ..), u => u = draw.uuid
  | .sql (.updateRole _ userId), u | .sql (.updateActive _ userId), u
  | .sql (.markEmailVerified userId), u | .sql (.updatePasswordHash _ userId), u
  | .sql (.grantPermission userId _ _), u | .sql (.storeRefreshToken userId ..), u
  | .sql (.revokeAllRefreshTokens userId), u | .sql (.storeEmailVerificationToken userId ..), u
  | .sql (.storePasswordResetToken userId ..), u => u = userId
  -- a subject that is bound stays with its user, whoever is named
  | .sql (.upsertOauthIdentity userId provider subject ..), u =>
      db.BoundTo provider subject u ∨ (∀ v, ¬db.BoundTo provider subject v) ∧ u = userId
  | .sql (.revokeRefreshToken tokenHash), u => db.OwnsSession tokenHash u
  | .sql (.consumeEmailVerificationToken tokenHash), u =>
      Owns db.emailVerificationTokens tokenHash u
  | .sql (.consumePasswordResetToken tokenHash), u => Owns db.passwordResetTokens tokenHash u
  | _, _ => False

theorem updateUsers_account {db : Db} {id v : Uuid} {change : UserRow → UserRow}
    {keeps : Keeps UserRow.clash change} (hId : ∀ row, (change row).id = row.id) (h : v ≠ id) :
    (db.updateUsers id change keeps).account v = db.account v := by
  have hUsers : ((db.updateUsers id change keeps).users.rows.filter fun row => row.id == v) =
      db.users.rows.filter fun row => row.id == v := by
    apply Table.filter_update (fun row : UserRow => row.id) rfl hId
    intro row _ hRow
    rw [beq_iff_eq.mp hRow]
    exact h.symm
  rw [Db.account, hUsers]
  rfl

omit [External] in
theorem consume_account {draw : Draw} {table : Table OneTimeTokenRow.clash} {tokenHash : String}
    {v : Uuid} (h : ¬Owns table tokenHash v) :
    ((Db.consumeOneTimeToken draw table tokenHash).2.rows.filter fun row => row.userId == v) =
      table.rows.filter fun row => row.userId == v := by
  refine Table.filter_update OneTimeTokenRow.userId rfl (fun _ => rfl) fun row hMem hRow hUser => ?_
  simp only [Db.consumable, Bool.and_eq_true, beq_iff_eq] at hRow
  exact h ⟨row, hMem, hRow.1.1, hUser⟩

/-- The frame of a statement: the rows of all other users are as they were. -/
theorem Effect.account {draw : Draw} {db db' : Db} {op : Op} {reply : op.Reply} {v : Uuid}
    (effect : Effect draw db op reply db') (h : ¬Touches draw db op v) :
    db'.account v = db.account v := by
  cases effect with
  | unchanged => rfl
  | insertUser inserted =>
      have hRows := Table.filter_insert (fun row : UserRow => row.id) (v := v) inserted (Ne.symm h)
      exact congrArg (fun rows => { db.account v with users := rows }) hRows
  | updateRole => exact updateUsers_account (fun _ => rfl) h
  | updateActive => exact updateUsers_account (fun _ => rfl) h
  | markEmailVerified => exact updateUsers_account (fun _ => rfl) h
  | updatePasswordHash => exact updateUsers_account (fun _ => rfl) h
  | grantNew hSelected inserted =>
      have hRows := Table.filter_insert UserPermissionRow.userId (v := v) inserted (Ne.symm h)
      exact congrArg (fun rows => { db.account v with userPermissions := rows }) hRows
  | @grantAgain userId permission granted selected =>
      have hRows : ((db.regrant ⟨userId, selected.id, granted⟩).rows.filter
          fun row => row.userId == v) = _ :=
        Table.filter_update UserPermissionRow.userId rfl (fun _ => rfl) fun row _ hRow hUser => by
          have hClash := (Bool.and_eq_true_iff.mp hRow).1
          exact h (hUser.symm.trans (beq_iff_eq.mp hClash))
      exact congrArg (fun rows => { db.account v with userPermissions := rows }) hRows
  | @upsertNew userId provider subject email rawProfile oauthIdentities free inserted =>
      have unbound (u : Uuid) : ¬db.BoundTo provider subject u :=
        fun ⟨row, hMem, hProvider, hSubject, _⟩ => free row hMem ⟨hProvider, hSubject⟩
      have hUser : userId ≠ v := fun hUser => h (.inr ⟨unbound, hUser.symm⟩)
      have hRows := Table.filter_insert OAuthIdentityRow.userId (v := v) inserted hUser
      exact congrArg (fun rows => { db.account v with oauthIdentities := rows }) hRows
  | @upsertAgain provider subject userId email rawProfile =>
      have hRows : ((db.reprofile provider subject email rawProfile).rows.filter
          fun row => row.userId == v) = _ :=
        Table.filter_update OAuthIdentityRow.userId rfl (fun _ => rfl) fun row hMem hRow hUser => by
          obtain ⟨hProvider, hSubject⟩ := Bool.and_eq_true_iff.mp hRow
          exact h (.inl ⟨row, hMem, beq_iff_eq.mp hProvider, beq_iff_eq.mp hSubject, hUser⟩)
      exact congrArg (fun rows => { db.account v with oauthIdentities := rows }) hRows
  | storeRefreshToken inserted =>
      have hRows := Table.filter_insert RefreshTokenRow.userId (v := v) inserted (Ne.symm h)
      exact congrArg (fun rows => { db.account v with refreshTokens := rows }) hRows
  | revokeRefreshToken tokenHash =>
      have hRows : ((db.revokeRefreshToken draw tokenHash).refreshTokens.rows.filter
          fun row => row.userId == v) = _ :=
        Table.filter_update RefreshTokenRow.userId rfl (fun _ => rfl) fun row hMem hRow hUser =>
          h ⟨row, hMem, beq_iff_eq.mp hRow, hUser⟩
      exact congrArg (fun rows => { db.account v with refreshTokens := rows }) hRows
  | revokeAllRefreshTokens userId =>
      have hRows : ((db.revokeAllRefreshTokens draw userId).refreshTokens.rows.filter
          fun row => row.userId == v) = _ :=
        Table.filter_update RefreshTokenRow.userId rfl (fun _ => rfl) fun row _ hRow hUser =>
          h (hUser.symm.trans (beq_iff_eq.mp (Bool.and_eq_true_iff.mp hRow).1))
      exact congrArg (fun rows => { db.account v with refreshTokens := rows }) hRows
  | storeEmailVerificationToken inserted =>
      have hRows := Table.filter_insert OneTimeTokenRow.userId (v := v) inserted (Ne.symm h)
      exact congrArg (fun rows => { db.account v with emailVerificationTokens := rows }) hRows
  | consumeEmailVerificationToken tokenHash =>
      exact congrArg (fun rows => { db.account v with emailVerificationTokens := rows })
        (consume_account h)
  | storePasswordResetToken inserted =>
      have hRows := Table.filter_insert OneTimeTokenRow.userId (v := v) inserted (Ne.symm h)
      exact congrArg (fun rows => { db.account v with passwordResetTokens := rows }) hRows
  | consumePasswordResetToken tokenHash =>
      exact congrArg (fun rows => { db.account v with passwordResetTokens := rows })
        (consume_account h)

theorem answer_account {draw : Draw} {db db' : Db} {op : Op} {reply : op.Reply} {v : Uuid}
    (hAnswer : answer draw db op = (reply, db')) (h : ¬Touches draw db op v) :
    db'.account v = db.account v := by
  have effect := answer_effect draw db op
  rw [hAnswer] at effect
  exact effect.account h

/-! ### Deletions -/

/-- Every row that was stored, as its primary key identifies it, still is. -/
structure Db.NoneDeleted (before after : Db) : Prop where
  users : Table.Kept (fun row => row.id) before.users after.users
  oauthIdentities :
    Table.Kept OAuthIdentityRow.id before.oauthIdentities after.oauthIdentities
  refreshTokens : Table.Kept RefreshTokenRow.id before.refreshTokens after.refreshTokens
  emailVerificationTokens : Table.Kept OneTimeTokenRow.id before.emailVerificationTokens
    after.emailVerificationTokens
  passwordResetTokens :
    Table.Kept OneTimeTokenRow.id before.passwordResetTokens after.passwordResetTokens
  userPermissions : Table.Kept (fun row => (row.userId, row.permissionId)) before.userPermissions
    after.userPermissions

theorem Db.NoneDeleted.refl (db : Db) : db.NoneDeleted db :=
  ⟨.refl _, .refl _, .refl _, .refl _, .refl _, .refl _⟩

theorem Db.NoneDeleted.trans {first second third : Db} (early : first.NoneDeleted second)
    (late : second.NoneDeleted third) : first.NoneDeleted third where
  users := early.users.trans late.users
  oauthIdentities := early.oauthIdentities.trans late.oauthIdentities
  refreshTokens := early.refreshTokens.trans late.refreshTokens
  emailVerificationTokens := early.emailVerificationTokens.trans late.emailVerificationTokens
  passwordResetTokens := early.passwordResetTokens.trans late.passwordResetTokens
  userPermissions := early.userPermissions.trans late.userPermissions

theorem Effect.noneDeleted {draw : Draw} {db db' : Db} {op : Op} {reply : op.Reply}
    (effect : Effect draw db op reply db') : db.NoneDeleted db' := by
  have same := Db.NoneDeleted.refl db
  cases effect with
  | unchanged => exact same
  | insertUser inserted => exact { same with users := Table.kept_insert inserted }
  | updateRole | updateActive | updatePasswordHash | markEmailVerified =>
      exact { same with users := Table.kept_update rfl fun _ => rfl }
  | grantNew hSelected inserted => exact { same with userPermissions := Table.kept_insert inserted }
  | grantAgain => exact { same with userPermissions := Table.kept_update rfl fun _ => rfl }
  | upsertNew free inserted => exact { same with oauthIdentities := Table.kept_insert inserted }
  | upsertAgain => exact { same with oauthIdentities := Table.kept_update rfl fun _ => rfl }
  | storeRefreshToken inserted => exact { same with refreshTokens := Table.kept_insert inserted }
  | revokeRefreshToken | revokeAllRefreshTokens =>
      exact { same with refreshTokens := Table.kept_update rfl fun _ => rfl }
  | storeEmailVerificationToken inserted =>
      exact { same with emailVerificationTokens := Table.kept_insert inserted }
  | consumeEmailVerificationToken =>
      exact { same with emailVerificationTokens := Table.kept_update rfl fun _ => rfl }
  | storePasswordResetToken inserted =>
      exact { same with passwordResetTokens := Table.kept_insert inserted }
  | consumePasswordResetToken =>
      exact { same with passwordResetTokens := Table.kept_update rfl fun _ => rfl }

theorem answer_noneDeleted (draw : Draw) (db : Db) (op : Op) :
    db.NoneDeleted (answer draw db op).2 :=
  (answer_effect draw db op).noneDeleted

end GenericAuth
