import GenericAuth.Auth.Reference
import GenericAuth.Properties.RegistryRefinement

/-! One account for each address, under any spelling that the database takes for the
same. Of all requests that try to open one, overlapping or not, at most one does. -/
namespace GenericAuth

open Interaction Relational

section Runs

variable [External] {state : AppState} {pool : ServerPool} {k l i j : Nat}

/-- In step `k` an account with this address was created. -/
def CreatedWith (pool : ServerPool) (k i : Nat) (email : Option String) (userId : Uuid) : Prop :=
  ∃ passwordHash displayName roleId emailVerified columns,
    Did pool k i (.insertUser email passwordHash displayName roleId emailVerified) columns ∧
      columns.id = userId

/-- It is there ever after, with the address as it was given. -/
theorem CreatedWith.account (run : ServerRun state migrated pool) {email : Option String}
    {userId : Uuid} (created : CreatedWith pool k i email userId) (h : k < l) :
    ∃ account, (pool.storeAt l).registry.account userId = some account ∧ account.email = email := by
  obtain ⟨_, _, _, _, columns, ⟨draw, step⟩, hUser⟩ := created
  obtain ⟨_, row, hMem, hColumns, hEmail, _⟩ := insertUser_reply step.effect
  obtain ⟨row', hMem', later⟩ := (run.later h).users row hMem
  have hId : row'.id = userId := later.id.trans ((congrArg UserColumns.id hColumns).trans hUser)
  refine ⟨.ofRow row', ?_, later.email.trans hEmail⟩
  simp only [Db.registry, user_eq_some.mpr ⟨hMem', hId⟩, Option.map_some]

/-- A second account is refused, however its address is spelled. -/
theorem CreatedWith.unique_of_lt (run : ServerRun state migrated pool) {email email' : Option String}
    {userId userId' : Uuid} (first : CreatedWith pool k i email userId)
    (second : CreatedWith pool l j email' userId') (same : sameEmail email email' = true)
    (h : k < l) : False := by
  obtain ⟨account, hAccount, hEmail⟩ := first.account run h
  obtain ⟨_, _, _, _, _, ⟨draw, step⟩, _⟩ := second
  obtain ⟨_, _, hFree, _⟩ := answer_refines.executed run migrated_sound step
  have hOther := hFree userId account hAccount
  rw [hEmail, same] at hOther
  cases hOther

theorem CreatedWith.unique (run : ServerRun state migrated pool) {email email' : Option String}
    {userId userId' : Uuid} (first : CreatedWith pool k i email userId)
    (second : CreatedWith pool l j email' userId') (same : sameEmail email email' = true) : k = l := by
  rcases Nat.lt_trichotomy k l with hkl | hkl | hlk
  · exact (first.unique_of_lt run second same hkl).elim
  · exact hkl
  · rw [sameEmail_comm] at same
    exact (second.unique_of_lt run first same hlk).elim

/-- A registration that returns a pair has created its account. -/
theorem ServerRun.created_of_register (run : ServerRun state migrated pool) {body : RegisterReq}
    {pair : TokenPair} (returned : pool.Returned i (.register body) (.ok (.tokenPair pair))) :
    ∃ k userId, CreatedWith pool k i (some body.email) userId := by
  obtain ⟨userId, _, _, _, created, _⟩ := run.finished returned
  obtain ⟨email, _, _, _, _, columns, saw, hUser⟩ := created
  obtain ⟨k, did⟩ := run.did_of_saw_full saw
  obtain ⟨⟨rfl, _⟩, _⟩ := run.allowed returned.serves did
  exact ⟨k, userId, _, _, _, _, columns, did, hUser⟩

/-- Accounts are created at most once for each address, two registrations for one
address are never both answered with a pair, and from its creation on an account is
found under every spelling of its address. -/
theorem one_account_per_address (run : ServerRun state migrated pool) :
    (∀ k l i j email email' userId userId', CreatedWith pool k i email userId →
      CreatedWith pool l j email' userId' → sameEmail email email' = true → k = l) ∧
    (∀ i j body body' pair pair', pool.Returned i (.register body) (.ok (.tokenPair pair)) →
      pool.Returned j (.register body') (.ok (.tokenPair pair')) →
      sameEmail (some body.email) (some body'.email) = true → i = j) ∧
    ∀ k l i j email userId spelling found, CreatedWith pool k i email userId → k < l →
      sameEmail email (some spelling) = true → Did pool l j (.findByEmail spelling) found →
      ∃ record, found = some record ∧ record.id = userId ∧ record.email = email := by
  refine ⟨fun _ _ _ _ _ _ _ _ first second same => first.unique run second same, ?_, ?_⟩
  · intro i j body body' pair pair' returned returned' same
    obtain ⟨k, _, first⟩ := run.created_of_register returned
    obtain ⟨l, _, second⟩ := run.created_of_register returned'
    obtain rfl := first.unique run second same
    obtain ⟨_, _, _, _, _, did, _⟩ := first
    obtain ⟨_, _, _, _, _, did', _⟩ := second
    exact (did.unique did').1
  · rintro k l i j email userId spelling found created h same ⟨draw, lookup⟩
    obtain ⟨account, hAccount, rfl⟩ := created.account run h
    obtain ⟨_, _, hFound⟩ := answer_refines.executed run migrated_sound lookup
    exact ⟨account.secretRecord userId, (hFound _).mpr ⟨account, hAccount, same, rfl⟩, rfl, rfl⟩

end Runs

section Example

attribute [local instance] reference

/-- Two registrations for one address, whose statements overlap. -/
def registersAtOnce : ServerPool :=
  Pool.play answer (handle exampleState) migrated
    (.arrive (.register ⟨"user@example.org", "password", none⟩) ::
      .arrive (.register ⟨"user@example.org", "another one", none⟩) ::
        steps 1 0 2 ++ steps 0 20 14 ++ steps 1 40 8)

/-- Only the first one that inserts its account returns a pair. -/
theorem one_account_per_address_atOnce :
    (pairOf registersAtOnce 0).isSome = true ∧ ∀ j body' pair',
      registersAtOnce.Returned j (.register body') (.ok (.tokenPair pair')) →
        sameEmail (some "user@example.org") (some body'.email) = true → 0 = j := by
  have run : ServerRun exampleState migrated registersAtOnce := Runs.play _
  have first : (pairOf registersAtOnce 0).map Prod.fst =
      some (.register ⟨"user@example.org", "password", none⟩) := by decide +kernel
  obtain ⟨pair, returned⟩ := returned_of_pairOf_request first
  refine ⟨by decide +kernel, fun j body' pair' returned' same => ?_⟩
  exact (one_account_per_address run).2.1 0 j _ body' pair pair' returned returned' same

end Example

end GenericAuth
