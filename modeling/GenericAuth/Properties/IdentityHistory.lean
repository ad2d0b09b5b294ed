import GenericAuth.Auth.Reference
import GenericAuth.Interaction.Since
import GenericAuth.Properties.GoogleIdentity
import GenericAuth.Properties.RegistryRefinement

/-! The history of an identity. A provider's subject belongs to the user of the
first statement that has bound it. Later statements renew the profile and leave the
user, whichever request they come from. -/
namespace GenericAuth

open Interaction Relational

/-! ### In the registry -/

/-- The call binds the subject to this user, unless it is bound already. -/
def bindsSubject (provider subject : String) (userId : Uuid) (_ : Draw) (_ : Registry) :
    Call Op Op.Reply → Prop
  | ⟨.sql (.upsertOauthIdentity userId' provider' subject' _ _), .ok _⟩ =>
      provider' = provider ∧ subject' = subject ∧ userId' = userId
  | _ => False

/-- The user to whom a subject belongs. -/
def Registry.holder (registry : Registry) (provider subject : String) : Option Uuid :=
  (registry.identity (provider, subject)).map Identity.owner

section Steps

variable [External] {draw : Draw} {before after : Registry} {op : Op} {reply : op.Reply}
    {provider subject : String}

theorem holder_step (step : Registry.Step draw before op reply after) (userId : Uuid) :
    after.holder provider subject = some userId ↔ before.holder provider subject = some userId ∨
      before.holder provider subject = none ∧
        bindsSubject provider subject userId draw before ⟨op, reply⟩ := by
  unfold Registry.holder
  cases op with
  | sql statement =>
      cases reply with
      | error error =>
          obtain rfl := step.1
          cases statement <;> simp [bindsSubject]
      | ok rows =>
          obtain ⟨_, does⟩ := step
          have kept := does.frame.identity
          cases statement with
          | upsertOauthIdentity userId' provider' subject' email rawProfile =>
              obtain ⟨identity, hIdentity, rfl⟩ := does
              by_cases hKey : (provider, subject) = (provider', subject')
              · obtain ⟨rfl, rfl⟩ := Prod.mk.inj hKey
                simp only [Function.update_self, bindsSubject, Option.map_some, Option.some.injEq]
                split at hIdentity
                · next bound hBound =>
                    obtain rfl := hIdentity
                    simp [hBound]
                · next hFree =>
                    obtain ⟨_, rfl⟩ := hIdentity
                    simp [hFree]
              · simp only [Function.update_of_ne hKey, bindsSubject]
                grind
          | _ => simp [kept (by simp [Registry.written]), bindsSubject]
  | _ =>
      obtain rfl := step
      simp [bindsSubject]

end Steps

/-! ### In the runs of the server -/

section Runs

variable [External] {state : AppState} {pool : ServerPool} {k l i : Nat} {provider subject : String}

/-- Step `k` was a successful statement that binds the subject to this user. -/
def BindsAt (pool : ServerPool) (k : Nat) (provider subject : String) (userId : Uuid) : Prop :=
  ∃ j email rawProfile, Did pool k j (.upsertOauthIdentity userId provider subject email rawProfile) ()

theorem called_bindsSubject {userId : Uuid} :
    pool.Called answer Db.registry k (bindsSubject provider subject userId) ↔
      BindsAt pool k provider subject userId := by
  constructor
  · rintro ⟨j, draw, op, reply, step, h⟩
    unfold bindsSubject at h
    split at h
    · next hCall =>
        obtain ⟨rfl, rfl, rfl⟩ := h
        exact ⟨j, _, _, draw, step.of_call hCall⟩
    · cases h
  · rintro ⟨j, email, rawProfile, draw, step⟩
    exact ⟨j, draw, _, _, step, rfl, rfl, rfl⟩

theorem holder_history (run : ServerRun state migrated pool) (provider subject : String) (l : Nat) :
    ((pool.storeAt l).registry.holder provider subject = none ↔
      ∀ k < l, ∀ userId, ¬BindsAt pool k provider subject userId) ∧
    ∀ userId, (pool.storeAt l).registry.holder provider subject = some userId ↔
      ∃ k < l, BindsAt pool k provider subject userId ∧
        ∀ m < k, ∀ other, ¬BindsAt pool m provider subject other := by
  have history := answer_refines.first run migrated_sound
    (fun registry => registry.holder provider subject) (bindsSubject provider subject)
    (by rw [migrated_registry]; rfl) (fun _ _ _ _ _ => holder_step) l
  simpa only [called_bindsSubject] using history

/-- The lookup of a subject finds nobody exactly when the subject was never bound,
and it finds a user exactly when the first binding was to this user. -/
theorem identity_history (run : ServerRun state migrated pool) {found : Option UserRecord}
    (lookup : Did pool l i (.findUserByOauth provider subject) found) :
    (found = none ↔ ∀ k < l, ∀ userId, ¬BindsAt pool k provider subject userId) ∧
    ∀ userId, found.map (fun record => record.id) = some userId ↔
      ∃ k < l, BindsAt pool k provider subject userId ∧
        ∀ m < k, ∀ other, ¬BindsAt pool m provider subject other := by
  obtain ⟨draw, step⟩ := lookup
  obtain ⟨_, _, hFound⟩ := answer_refines.executed run migrated_sound step
  have hHolder : found.map (fun record => record.id) =
      (pool.storeAt l).registry.holder provider subject := by
    rw [hFound, Registry.holder]
    cases hIdentity : (pool.storeAt l).registry.identity (provider, subject) with
    | none => rfl
    | some identity =>
        obtain ⟨account, hAccount⟩ := Option.isSome_iff_exists.mp
          ((run.registry_sound l).identities _ identity hIdentity)
        simp only [Option.bind_some, hAccount, Option.map_some]
        rfl
  obtain ⟨hNone, hSome⟩ := holder_history run provider subject l
  rw [← hNone, ← hHolder, Option.map_eq_none_iff]
  exact ⟨Iff.rfl, fun userId => by rw [hHolder, hSome]⟩

end Runs

section Example

attribute [local instance] reference

/-- After two overlapping sign-ins for one subject, which create a user each, a
third one looks the subject up. -/
def thirdSignIn : ServerPool :=
  Pool.play answer (handle exampleState) migrated
    ([.arrive (.googleCallback ⟨"code", none⟩), .arrive (.googleCallback ⟨"code", none⟩),
      exchange 0 0 bareProfile] ++ steps 0 1 1 ++ [exchange 1 10 bareProfile] ++ steps 1 11 9 ++
      steps 0 30 8 ++ [.arrive (.googleCallback ⟨"code", none⟩), exchange 2 50 bareProfile] ++
      steps 2 51 1)

/-- It finds the user who was bound first. -/
theorem identity_history_third : ∃ k < 21, BindsAt thirdSignIn k "google" "1001" (moment 13).uuid ∧
    ∀ m < k, ∀ other, ¬BindsAt thirdSignIn m "google" "1001" other := by
  have run : ServerRun exampleState migrated thirdSignIn := Runs.play _
  obtain ⟨found, lookup, hFound⟩ := run.did_of_didWith 21 2 (.findUserByOauth "google" "1001")
    (fun found => found.map (fun record => record.id) == some (moment 13).uuid) (by decide +kernel)
  exact ((identity_history run lookup).2 _).mp (beq_iff_eq.mp hFound)

end Example

end GenericAuth
