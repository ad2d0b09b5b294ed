import GenericAuth.Interaction.Restart
import GenericAuth.Properties.OneTimeTokens
import GenericAuth.Properties.RegistryRefinement

/-! The server with crashes. A life of the server ends at any moment, as after a panic in
a release build: its requests are lost, and only the tables remain. The next life
begins with them, perhaps with other settings. The tables do not show the difference. -/
namespace GenericAuth

open Interaction Relational

section Lives

variable [External] {lives : List (AppState × ServerPool)} {db : Db}

/-- Some lives of the server, each with its settings. -/
abbrev ServerLives (start : Db) (lives : List (AppState × ServerPool)) (db : Db) : Prop :=
  Restarts answer handle start lives db

/-- The conversations of all lives. -/
def conversations (lives : List (AppState × ServerPool)) :
    Pool (AppState × Request) Db Draw Op Op.Reply Outcome :=
  (Pool.initial migrated).merged (lives.map fun life => life.2.tag life.1)

/-- With crashes and changing settings, the clients still have conversations that
clients of one registry could have had, and the tables end as that registry. -/
theorem restarts_refine_registry (restarts : ServerLives migrated lives db) :
    Interleaving Registry.Step (fun request : AppState × Request => handle request.1 request.2)
      Registry.empty (conversations lives).clients
      ((conversations lives).log.map (Event.answer answer)) db.registry ∧ db.registry.Sound := by
  have prior : Runs answer (fun request : AppState × Request => handle request.1 request.2)
      migrated (Pool.initial migrated) := .initial
  obtain ⟨run, hStore⟩ := restarts.run prior rfl
  have reached := answer_refines.interleaving run migrated_sound
  rw [migrated_registry, hStore] at reached
  exact ⟨reached, reached.invariant Registry.empty_sound
    fun _ _ _ _ _ step sound => sound.step step⟩

/-- As long as the settings stay the same, the lives are one run without crashes, so
whatever holds of all runs holds across crashes. -/
theorem restarts_run {state : AppState} (restarts : ServerLives migrated lives db)
    (same : ∀ life ∈ lives, life.1 = state) :
    ServerRun state migrated ((Pool.initial migrated).merged (lives.map Prod.snd)) ∧
      ((Pool.initial migrated).merged (lives.map Prod.snd)).store = db :=
  restarts.run_same same .initial rfl

end Lives

section Example

attribute [local instance] reference

/-- A registration is cut after its account was created. -/
def cutRegistration : ServerPool :=
  Pool.play answer (handle exampleState) migrated (registration.take 4)

/-- In the next life the user asks for a reset link. -/
def recoveryLife : ServerPool :=
  Pool.play answer (handle exampleState) cutRegistration.store
    (.arrive (.forgotPassword ⟨"user@example.org"⟩) :: steps 0 20 6)

theorem cut_recovery : ServerLives migrated
    [(exampleState, cutRegistration), (exampleState, recoveryLife)] recoveryLife.store :=
  .started (Runs.play _) (.started (Runs.play _) (.stopped _))

theorem restarts_refine_registry_cut :
    Interleaving Registry.Step (fun request : AppState × Request => handle request.1 request.2)
      Registry.empty
      (conversations [(exampleState, cutRegistration), (exampleState, recoveryLife)]).clients
      ((conversations [(exampleState, cutRegistration), (exampleState, recoveryLife)]).log.map
        (Event.answer answer)) recoveryLife.store.registry ∧ recoveryLife.store.registry.Sound :=
  restarts_refine_registry cut_recovery

/-- The link of the second life is for the account of the first one. -/
example : ServerRun exampleState migrated
      ((Pool.initial migrated).merged [cutRegistration, recoveryLife]) ∧
    (resetTokens recoveryLife.store firstUser).length = 1 := by
  have same : ∀ life ∈ [(exampleState, cutRegistration), (exampleState, recoveryLife)],
      life.1 = exampleState := by simp
  exact ⟨(restarts_run cut_recovery same).1, by decide +kernel⟩

end Example

end GenericAuth
