import GenericAuth.Api.Accounts
import GenericAuth.Api.Admin

/-! Administration is mediated. Each handler of an admin route repeats the same
checks and then makes its one change, and no other request changes a role, an
activation or an explicit permission. -/
namespace GenericAuth

open Interaction Relational

variable [External] {state : AppState} {request : Request} {draws : Stream' Draw} {db : Db}

/-- What a request that is executed alone may do to roles, activations and
explicit permissions, and when it may list the users. -/
structure Mediated (state : AppState) (request : Request) (draws : Stream' Draw) (db : Db) : Prop where
  role : ∀ row ∈ db.users.rows, ∀ row' ∈ (storeAfter (handle state request) draws db).users.rows,
    row'.id = row.id → row'.roleId ≠ row.roleId →
    ∃ authorization body, request = .setRole authorization row.id body ∧
      ∃ sub, Entitled state db authorization .usersAssignRoles (draws.get 0).now sub
  active : ∀ row ∈ db.users.rows, ∀ row' ∈ (storeAfter (handle state request) draws db).users.rows,
    row'.id = row.id → row'.isActive ≠ row.isActive →
    ∃ authorization body, request = .setActive authorization row.id body ∧
      ∃ sub, Entitled state db authorization .usersManage (draws.get 0).now sub
  overrides : (storeAfter (handle state request) draws db).userPermissions.rows ≠
      db.userPermissions.rows →
    ∃ authorization id body, request = .grantPermission authorization id body ∧
      ∃ sub, Entitled state db authorization .usersAssignRoles (draws.get 0).now sub
  listing : ∀ authorization page payload, request = .listUsers authorization page →
    outcomeOf (handle state request) draws db = .ok payload →
    ∃ sub, Entitled state db authorization .usersRead (draws.get 0).now sub
  refused : ∀ authorization p stop, adminCall request = some (authorization, p) →
    outcomeOf (handle state request) draws db = .error stop →
    storeAfter (handle state request) draws db = db

/-- A column that differs has changed the store. -/
theorem storeAfter_ne {Value : Type} (column : UserRow → Value) {row row' : UserRow}
    (hMem : row ∈ db.users.rows)
    (hMem' : row' ∈ (storeAfter (handle state request) draws db).users.rows)
    (hId : row'.id = row.id) (hColumn : column row' ≠ column row) :
    storeAfter (handle state request) draws db ≠ db := by
  intro same
  rw [same] at hMem'
  exact hColumn (congrArg column (userRow_unique hMem' hMem hId))

/-- Every request is mediated, in every store and whatever fails. -/
theorem admin_mediated (state : AppState) (request : Request) (draws : Stream' Draw) (db : Db) :
    Mediated state request draws db where
  role row hMem row' hMem' hId hColumn := by
    have changed := storeAfter_ne (fun row => row.roleId) hMem hMem' hId hColumn
    by_contra hOther
    refine hColumn (roleId_alone hMem hMem' hId fun authorization body hRequest => ?_)
    subst hRequest
    exact hOther ⟨authorization, body, rfl, entitled_of_change rfl changed⟩
  active row hMem row' hMem' hId hColumn := by
    have changed := storeAfter_ne (fun row => row.isActive) hMem hMem' hId hColumn
    by_contra hOther
    refine hColumn (isActive_alone hMem hMem' hId fun authorization body hRequest => ?_)
    subst hRequest
    exact hOther ⟨authorization, body, rfl, entitled_of_change rfl changed⟩
  overrides hRows := by
    have changed : storeAfter (handle state request) draws db ≠ db := fun same =>
      hRows (congrArg (fun db => db.userPermissions.rows) same)
    by_contra hOther
    refine hRows (congrArg Table.rows (userPermissions_alone fun authorization id body hRequest => ?_))
    subst hRequest
    exact hOther ⟨authorization, id, body, rfl, entitled_of_change rfl changed⟩
  listing authorization page payload hRequest hOutcome := by
    subst hRequest
    exact entitled_of_ok rfl hOutcome
  refused authorization p stop hCall failed := admin_error hCall failed

end GenericAuth
