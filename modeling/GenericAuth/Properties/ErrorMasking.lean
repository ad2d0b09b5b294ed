import GenericAuth.Api.Masking
import GenericAuth.Auth.Reference

/-! The texts of database errors stay in the server. Two runs with one schedule, in which
statements fail with different texts, look the same to every HTTP client. -/
namespace GenericAuth

open Interaction

section Runs

variable [External] [Framework] (state : AppState) (start : Db)

/-- What the user of the program sees of its end. The command prints its error. -/
def Contact.Sees : Contact → Finish → Finish → Prop
  | .http _, finish, finish' => finish = finish'
  | .createAdmin _, _, _ => True

theorem contact_agree (contact : Contact) : (contact.serve state).Agree Op.Alike
    contact.Sees (contact.serve state) := by
  cases contact with
  | http http => exact (serve_agree state http).map _ _ fun _ _ => congrArg Finish.response
  | createAdmin args =>
      exact Program.Agree.map (handle_masks state (.createAdmin args)) _ _ fun _ _ _ => trivial

/-- When statements fail with other texts at the same places, the same operations take
place on the same stores, and every HTTP client gets the same response. -/
theorem database_errors_masked {moves moves' : List (Pool.Move Contact Draw)}
    (h : List.Forall₂ (Pool.Move.Similar Draw.Alike) moves moves') :
    let pool := Pool.play answer (Contact.serve state) start moves
    let pool' := Pool.play answer (Contact.serve state) start moves'
    pool.store = pool'.store ∧
    pool.log.map (fun event => (event.client, event.before, event.op)) =
      pool'.log.map (fun event => (event.client, event.before, event.op)) ∧
    ∀ i http finish, pool.Returned i (.http http) finish ↔ pool'.Returned i (.http http) finish := by
  intro pool pool'
  have agree : pool.Agree Op.Alike Contact.Sees pool' :=
    play_agree answer_respects (contact_agree state) h
  refine ⟨agree.store, agree.log, fun i http finish => ?_⟩
  have both := agree.finished i
  rw [← Pool.finished_iff, ← Pool.finished_iff]
  generalize pool.finished i = client at both
  generalize pool'.finished i = client' at both
  cases both with
  | none => rfl
  | @some client client' same =>
      obtain ⟨contact, finish⟩ := client
      obtain ⟨contact', finish'⟩ := client'
      obtain ⟨rfl, sees⟩ := same
      cases contact with
      | createAdmin args => simp
      | http http =>
          obtain rfl : finish = finish' := sees
          rfl

end Runs

section Example

attribute [local instance] reference referenceFramework

/-- A registration whose last statement fails. -/
def failedRegistration (error : SqlxError) : List (Pool.Move Contact Draw) :=
  .arrive (.http ⟨.post, "/api/v1/auth/register".toList, none, none, jsonBody registrationText⟩) ::
    (List.range 8).map fun k =>
      .step 0 { moment k with fault := if k = 7 then some error else none }

theorem failedRegistration_similar (text text' : String) :
    List.Forall₂ (Pool.Move.Similar Draw.Alike) (failedRegistration (.database text))
      (failedRegistration (.database text')) := by
  refine .cons (.arrive _) (List.forall₂_map_left_iff.mpr (List.forall₂_map_right_iff.mpr
    (List.forall₂_same.mpr fun k _ => .step 0 ⟨rfl, ?_⟩)))
  by_cases hLast : k = 7
  · simp only [hLast, if_true]
    exact .some (by simp [SqlxError.Alike])
  · simp only [hLast, if_false]
    exact .none

theorem database_errors_masked_register :
    let serve := Contact.serve exampleState
    let pool := Pool.play answer serve migrated (failedRegistration (.database "disk full"))
    let pool' := Pool.play answer serve migrated (failedRegistration (.database "no connection"))
    (pool.finished 0).bind (fun client => client.2.status) = some 500 ∧
    pool.store = pool'.store ∧
    ∀ i http finish, pool.Returned i (.http http) finish ↔ pool'.Returned i (.http http) finish := by
  have masked := database_errors_masked exampleState migrated
    (failedRegistration_similar "disk full" "no connection")
  exact ⟨by decide +kernel, masked.1, masked.2.2⟩

end Example

end GenericAuth
