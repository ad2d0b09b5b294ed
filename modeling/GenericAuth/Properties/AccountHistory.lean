import GenericAuth.Api.Run
import GenericAuth.Auth.Reference
import GenericAuth.Properties.RegistryRefinement

/-! The history of accounts. What the lookups of accounts and permissions answer
is what the statements so far have made of the account, taken in the order in
which they were executed, whoever has sent them. -/
namespace GenericAuth

open Interaction Relational

/-! ### In the registry -/

/-- What becomes of an account by a call. -/
def UserAccount.hear (userId : Uuid) (account : Option UserAccount) (answer : Answer Draw Op Op.Reply) :
    Option UserAccount :=
  match (⟨answer.op, answer.reply⟩ : Call Op Op.Reply) with
  | ⟨.sql (.insertUser email passwordHash displayName roleId emailVerified), .ok columns⟩ =>
      if columns.id = userId then
        some (.opened answer.draw email passwordHash displayName (Registry.roleOf roleId) emailVerified)
      else account
  | ⟨.sql (.updateRole roleId id), .ok _⟩ =>
      if id = userId then account.map fun account =>
        { account with role := Registry.roleOf roleId, updatedAt := answer.draw.dbNow }
      else account
  | ⟨.sql (.updateActive isActive id), .ok _⟩ =>
      if id = userId then account.map fun account =>
        { account with isActive, updatedAt := answer.draw.dbNow }
      else account
  | ⟨.sql (.markEmailVerified id), .ok _⟩ =>
      if id = userId then account.map fun account =>
        { account with emailVerified := true, updatedAt := answer.draw.dbNow }
      else account
  | ⟨.sql (.updatePasswordHash passwordHash id), .ok _⟩ =>
      if id = userId then account.map fun account =>
        { account with passwordHash := some passwordHash, updatedAt := answer.draw.dbNow }
      else account
  | _ => account

/-- What becomes of an override by a call. -/
def hearOverride (userId : Uuid) (name : String) (override : Option Bool)
    (answer : Answer Draw Op Op.Reply) : Option Bool :=
  match (⟨answer.op, answer.reply⟩ : Call Op Op.Reply) with
  | ⟨.sql (.grantPermission id name' granted), .ok _⟩ =>
      if id = userId ∧ name' = name ∧ name ∈ Registry.catalogue then some granted else override
  | _ => override

theorem account_changeAccount (registry : Registry) (userId id : Uuid)
    (change : UserAccount → UserAccount) :
    (registry.changeAccount id change).account userId =
      if id = userId then (registry.account userId).map change else registry.account userId := by
  by_cases hId : id = userId
  · subst hId
    simp [Registry.changeAccount]
  · simp [Registry.changeAccount, hId, Ne.symm hId]

section Steps

variable [External] {draw : Draw} {before after : Registry} {op : Op} {reply : op.Reply}

theorem hear_step (userId : Uuid) (i : Nat) (step : Registry.Step draw before op reply after) :
    after.account userId = UserAccount.hear userId (before.account userId) ⟨i, draw, op, reply⟩ := by
  cases op with
  | sql statement =>
      cases reply with
      | error error =>
          obtain rfl := step.1
          cases statement <;> rfl
      | ok rows =>
          obtain ⟨_, does⟩ := step
          have frame := does.frame
          cases statement with
          | insertUser email passwordHash displayName roleId emailVerified =>
              obtain ⟨_, _, role, rfl, rfl, rfl⟩ := does
              by_cases hId : draw.uuid = userId
              · subst hId
                simp [UserAccount.hear, UserAccount.columns]
              · simp [UserAccount.hear, UserAccount.columns, hId, Ne.symm hId]
          | updateRole roleId id =>
              simp only [Registry.Does] at does
              split at does
              · next hNone =>
                  obtain rfl := does
                  simp only [UserAccount.hear]
                  split
                  · next hId => rw [← hId, hNone, Option.map_none]
                  · rfl
              · obtain ⟨role, rfl, rfl⟩ := does
                simp [UserAccount.hear, account_changeAccount]
          | updateActive | markEmailVerified | updatePasswordHash =>
              obtain rfl := does
              exact account_changeAccount _ _ _ _
          | _ =>
              rw [frame.account (by simp [Registry.written])]
              rfl
  | _ =>
      obtain rfl := step
      rfl

theorem hearOverride_step (userId : Uuid) (name : String) (i : Nat)
    (step : Registry.Step draw before op reply after) :
    after.override (userId, name) =
      hearOverride userId name (before.override (userId, name)) ⟨i, draw, op, reply⟩ := by
  cases op with
  | sql statement =>
      cases reply with
      | error error =>
          obtain rfl := step.1
          cases statement <;> rfl
      | ok rows =>
          obtain ⟨_, does⟩ := step
          have frame := does.frame
          cases statement with
          | grantPermission id name' granted =>
              simp only [Registry.Does] at does
              split at does
              · next hKnown =>
                  obtain ⟨_, rfl⟩ := does
                  by_cases hKey : (userId, name) = (id, name')
                  · obtain ⟨rfl, rfl⟩ := Prod.mk.inj hKey
                    simp [hearOverride, hKnown]
                  · simp only [Function.update_of_ne hKey, hearOverride]
                    split
                    · next h => exact absurd (by rw [h.1, h.2.1]) hKey
                    · rfl
              · next hUnknown =>
                  obtain rfl := does
                  simp only [hearOverride]
                  split
                  · next h => exact absurd (h.2.1 ▸ h.2.2) hUnknown
                  · rfl
          | _ =>
              rw [frame.override (by simp [Registry.written])]
              rfl
  | _ =>
      obtain rfl := step
      rfl

end Steps

/-! ### In the runs of the server -/

section Runs

variable [External] {state : AppState} {pool : ServerPool} {l i : Nat} {userId : Uuid}

/-- The answers of the first `l` steps. -/
def answersBefore (pool : ServerPool) (l : Nat) : List (Answer Draw Op Op.Reply) :=
  (pool.log.take l).map (Event.answer answer)

/-- What the first `l` steps have made of an account. -/
def accountBefore (pool : ServerPool) (l : Nat) (userId : Uuid) : Option UserAccount :=
  (answersBefore pool l).foldl (UserAccount.hear userId) none

/-- What they have set for a permission of a user. -/
def overrideBefore (pool : ServerPool) (l : Nat) (userId : Uuid) (name : String) : Option Bool :=
  (answersBefore pool l).foldl (hearOverride userId name) none

theorem account_eq_before (run : ServerRun state migrated pool) (h : l ≤ pool.log.length) :
    (pool.storeAt l).registry.account userId = accountBefore pool l userId := by
  rw [answer_refines.replayed run migrated_sound (fun registry => registry.account userId)
    (UserAccount.hear userId) (fun i _ _ _ _ _ => hear_step userId i) h, migrated_registry]
  rfl

theorem override_eq_before (run : ServerRun state migrated pool) (h : l ≤ pool.log.length)
    {name : String} :
    (pool.storeAt l).registry.override (userId, name) = overrideBefore pool l userId name := by
  rw [answer_refines.replayed run migrated_sound (fun registry => registry.override (userId, name))
    (hearOverride userId name) (fun i _ _ _ _ _ => hearOverride_step userId name i) h,
    migrated_registry]
  rfl

/-- Lookups by id and by address find exactly the account that the earlier
statements have made, and permissions are an override, else the role's. -/
theorem account_history (run : ServerRun state migrated pool) :
    (∀ found, Did pool l i (.findById userId) found →
      found = (accountBefore pool l userId).map fun account => account.record userId) ∧
    (∀ email found, Did pool l i (.findByEmail email) found → ∀ record : UserSecretRecord,
      found = some record ↔ ∃ account, accountBefore pool l record.id = some account ∧
        sameEmail account.email (some email) = true ∧ record = account.secretRecord record.id) ∧
    ∀ names, Did pool l i (.permissionsFor userId) names → names.Nodup ∧ ∀ name, name ∈ names ↔
      (overrideBefore pool l userId name).getD ((accountBefore pool l userId).any fun account =>
        Registry.grants account.role name) = true := by
  refine ⟨fun found lookup => ?_, fun email found lookup => ?_, fun names lookup => ?_⟩
  all_goals
    have hEnd := Nat.le_of_lt lookup.lt_length
    obtain ⟨draw, step⟩ := lookup
    obtain ⟨_, does⟩ := answer_refines.executed run migrated_sound step
  · rw [does.2, account_eq_before run hEnd]
  · intro record
    rw [does.2 record, account_eq_before run hEnd]
  · refine ⟨does.2.1, fun name => ?_⟩
    rw [does.2.2 name, Registry.permits, override_eq_before run hEnd, account_eq_before run hEnd]

end Runs

section Example

attribute [local instance] reference

/-- An administrator makes a user a moderator, who then asks for their permissions. -/
def inspection : ServerPool :=
  Pool.play answer (handle exampleState) migrated
    (.arrive (.createAdmin ⟨"admin@example.org", "password"⟩) :: steps 0 0 4 ++
      .arrive (.register ⟨"user@example.org", "password", none⟩) :: steps 1 20 14 ++
      .arrive (.setRole (some (headerFor firstAdmin .admin 41)) (moment 22).uuid ⟨.moderator⟩) ::
        steps 2 60 6 ++
      .arrive (.myPermissions (some (headerFor (moment 22).uuid .user 41))) :: steps 3 80 2)

theorem account_history_inspection : ∃ names : List String,
    names.contains Permission.usersRead.asStr = true ∧ ∀ name, name ∈ names ↔
      (overrideBefore inspection 23 (moment 22).uuid name).getD
        ((accountBefore inspection 23 (moment 22).uuid).any fun account =>
          Registry.grants account.role name) = true := by
  have run : ServerRun exampleState migrated inspection := Runs.play _
  obtain ⟨names, lookup, hNames⟩ := run.did_of_didWith 23 3 (.permissionsFor (moment 22).uuid)
    (fun names => names.contains Permission.usersRead.asStr) (by decide +kernel)
  exact ⟨names, hNames, ((account_history run).2.2 names lookup).2⟩

end Example

end GenericAuth
