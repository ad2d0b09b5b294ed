import GenericAuth.Api.Admin
import GenericAuth.Api.Run
import GenericAuth.Auth.Reference
import GenericAuth.Relational.Paging
import Mathlib.Algebra.Group.Nat.Defs
import Mathlib.Data.Int.Order.Basic

/-! Walking through the list of users page by page. Each page is a query of its own,
which orders users that were created at the same time as it likes. -/
namespace GenericAuth

open Interaction Relational

section Paging

variable [External] {state : AppState} {authorization : Option String} {draws : Stream' Draw}
    {db : Db} {sub : Uuid}

/-- The user of a row, as queries present it. -/
def Db.present (db : Db) (row : UserRow) : User :=
  { id := row.id, email := row.email, displayName := row.displayName,
    role := ((db.roles.find? fun role => role.id == row.roleId).bind fun role =>
      Role.parse role.name).getD .user,
    isActive := row.isActive, emailVerified := row.emailVerified, createdAt := row.createdAt,
    updatedAt := row.updatedAt }

theorem present_of_record {row : UserRow} {found : UserRecord} (h : db.record row = some found) :
    found.toUser = db.present row := by
  obtain ⟨role, hRole, rfl⟩ := Option.map_eq_some_iff.mp h
  simp [UserRecord.toUser, Db.present, hRole]

/-- The joined query presents every row. -/
theorem Db.References.present (refs : db.References) {rows : List UserRow}
    (hRows : ∀ row ∈ rows, row ∈ db.users.rows) :
    (rows.filterMap db.record).map UserRecord.toUser = rows.map db.present := by
  induction rows with
  | nil => rfl
  | cons row rest ih =>
      obtain ⟨found, hRecord, _⟩ := refs.record (hRows row List.mem_cons_self)
      have hRest := ih fun other hMem => hRows other (List.mem_cons_of_mem _ hMem)
      rw [List.filterMap_cons_some hRecord, List.map_cons, List.map_cons, hRest,
        present_of_record hRecord]

/-! ### Orders -/

omit [External] in
theorem newestFirst_iff {draw : Draw} {first second : UserRow} :
    Db.newestFirst draw first second = true ↔ second.createdAt < first.createdAt ∨
      first.createdAt = second.createdAt ∧ draw.tieBreak first.id ≤ draw.tieBreak second.id := by
  simp [Db.newestFirst]

/-- The order of the users for a query. -/
def Db.ordered (db : Db) (draw : Draw) : List UserRow :=
  db.users.rows.mergeSort (Db.newestFirst draw)

theorem ordered_perm (db : Db) (draw : Draw) : (db.ordered draw).Perm db.users.rows :=
  List.mergeSort_perm _ _

theorem ordered_pairwise (db : Db) (draw : Draw) :
    (db.ordered draw).Pairwise fun first second => Db.newestFirst draw first second = true := by
  apply List.pairwise_mergeSort
  · intro first second third h h'
    rw [newestFirst_iff] at h h' ⊢
    grind
  · intro first second
    rw [Bool.or_eq_true, newestFirst_iff, newestFirst_iff]
    grind

theorem ordered_descending (db : Db) (draw : Draw) :
    Descending (fun row : UserRow => row.createdAt) (db.ordered draw) := by
  apply (ordered_pairwise db draw).imp
  intro first second h
  rw [newestFirst_iff] at h
  rcases h with hLt | ⟨hEq, _⟩
  · exact Int.le_of_lt hLt
  · exact Int.le_of_eq hEq.symm

theorem users_nodup (db : Db) : (db.users.rows.map fun row => row.id).Nodup := by
  apply List.pairwise_map.mpr
  apply db.users.distinct.imp
  intro first second hClash hId
  simp [UserRow.clash, hId] at hClash

/-- Where no two users are tied the order is determined. -/
theorem ordered_eq {draw : Draw} {rows : List UserRow} (perm : rows.Perm db.users.rows)
    (untied : ∀ first ∈ rows, ∀ second ∈ rows,
      draw.tieBreak first.id = draw.tieBreak second.id → first.id = second.id)
    (sorted : rows.Pairwise fun first second => Db.newestFirst draw first second = true) :
    db.ordered draw = rows := by
  have reordered := (ordered_perm db draw).trans perm.symm
  refine reordered.eq_of_pairwise ?_ (ordered_pairwise db draw) sorted
  intro first second hFirst hSecond h h'
  rw [newestFirst_iff] at h h'
  have hFirst := reordered.mem_iff.mp hFirst
  have hTies : draw.tieBreak first.id = draw.tieBreak second.id := by grind
  exact userRow_unique (perm.mem_iff.mp hFirst) (perm.mem_iff.mp hSecond)
    (untied first hFirst second hSecond hTies)

/-- Every order by the time of creation can be the one of a query. -/
theorem exists_ties {rows : List UserRow} (perm : rows.Perm db.users.rows)
    (descending : Descending (fun row : UserRow => row.createdAt) rows) :
    ∃ ties : Uuid → Nat, ∀ draw : Draw, db.ordered { draw with tieBreak := ties } = rows := by
  have nodup : (rows.map fun row => row.id).Nodup :=
    (perm.map _).nodup_iff.mpr (users_nodup db)
  let ties (id : Uuid) : Nat := (rows.map fun row => row.id).idxOf id
  refine ⟨ties, fun draw => ordered_eq perm ?_ ?_⟩
  · intro first hFirst second _ hTies
    exact (List.idxOf_inj (List.mem_map_of_mem (f := fun row : UserRow => row.id) hFirst)).mp hTies
  · apply List.pairwise_iff_getElem.mpr
    intro i j hi hj hij
    have place (k : Nat) (hk : k < rows.length) : ties rows[k].id = k := by
      have hIdx := nodup.idxOf_getElem k (by rwa [List.length_map])
      rwa [List.getElem_map] at hIdx
    have hLe := List.pairwise_iff_getElem.mp descending i j hi hj hij
    rw [newestFirst_iff]
    simp only [place]
    grind

/-! ### Requests for pages -/

/-- Page `k` of `n` users each, unless its offset is no 64-bit number. -/
def Page.nth (n k : Nat) : Option Page :=
  if k * n < 2 ^ 63 then some ⟨.ofNat n, .ofNat (k * n)⟩ else none

/-- The users that a request for page `k` lists. -/
def listed (state : AppState) (authorization : Option String) (db : Db) (n k : Nat)
    (draws : Stream' Draw) : Option (List User) :=
  (Page.nth n k).bind fun page =>
    match outcomeOf (handle state (.listUsers authorization page)) draws db with
    | .ok (.users users) => some users
    | _ => none

/-- The same draws, with an order of equal keys. -/
def withTies (draws : Stream' Draw) (ties : Uuid → Nat) : Stream' Draw :=
  draws.map fun draw => { draw with tieBreak := ties }

omit [External] in
theorem withTies_get (draws : Stream' Draw) (ties : Uuid → Nat) (k : Nat) :
    (withTies draws ties).get k = { draws.get k with tieBreak := ties } := rfl

omit [External] in
theorem ofNat_not_neg {m : Nat} (h : m < 2 ^ 63) : ¬Int64.ofNat m < 0 := by
  rw [Int64.lt_iff_toInt_lt, Int64.toInt_ofNat_of_lt h, show (0 : Int64).toInt = 0 from rfl]
  omega

omit [External] in
theorem min_limit {n : Nat} (hn : n ≤ 200) : min (Int64.ofNat n) 200 = Int64.ofNat n := by
  apply if_pos
  rw [Int64.le_iff_toInt_le, Int64.toInt_ofNat_of_lt (by omega), show (200 : Int64).toInt = 200 from rfl]
  omega

/-- With parameters that are not negative the query skips and limits its rows. -/
theorem listUsers_rows (refs : db.References) (draw : Draw) {limit offset : Int64}
    (hLimit : ¬limit < 0) (hOffset : ¬offset < 0) :
    ∃ rows, db.listUsers draw limit offset = .ok rows ∧ rows.map UserRecord.toUser =
      (((db.ordered draw).drop offset.toInt.toNat).take limit.toInt.toNat).map db.present := by
  refine ⟨_, by rw [Db.listUsers, if_neg hOffset, if_neg hLimit], ?_⟩
  rw [List.map_take, List.map_drop, List.map_take, List.map_drop]
  congr 2
  apply refs.present
  intro row hMem
  exact (ordered_perm db draw).mem_iff.mp hMem

/-- An entitled caller sees a page of the query's order. -/
theorem listed_page {n k : Nat} (hFaults : ∀ i, (draws.get i).fault = none) (refs : db.References)
    (entitled : Entitled state db authorization .usersRead (draws.get 0).now sub) (hn : n ≤ 200)
    (hk : k * n < 2 ^ 63) :
    listed state authorization db n k draws =
      some ((page (db.ordered (draws.get 3)) n k).map db.present) := by
  have hLimit : n < 2 ^ 63 := by omega
  obtain ⟨rows, hRows, hUsers⟩ := listUsers_rows refs (draws.get 3) (ofNat_not_neg hLimit)
    (ofNat_not_neg hk)
  rw [Int64.toInt_ofNat_of_lt hk, Int64.toInt_ofNat_of_lt hLimit, Int.toNat_natCast,
    Int.toNat_natCast] at hUsers
  have hNth : Page.nth n k = some ⟨.ofNat n, .ofNat (k * n)⟩ := if_pos hk
  simp only [listed, hNth, Option.bind_some, outcomeOf]
  rw [entitled.exec rfl hFaults refs]
  simp [adminWork, min_limit hn, answer_sql, hFaults, Db.exec, hRows, hUsers, page,
    -Int64.ofNat_mul]

theorem listed_some {n k : Nat} {users : List User}
    (h : listed state authorization db n k draws = some users) :
    k * n < 2 ^ 63 := by
  obtain ⟨page, hPage, _⟩ := Option.bind_eq_some_iff.mp h
  by_contra hNot
  rw [Page.nth, if_neg hNot] at hPage
  cases hPage

theorem present_nodup (db : Db) : (db.users.rows.map db.present).Nodup := by
  apply List.Nodup.of_map User.id
  rw [List.map_map]
  exact users_nodup db

/-- For an entitled caller, a page size from 1 to 200 and a reachable store that stays
as it is, when no statement fails: the pages list every user once, whatever order each
query gives to users created at the same time, exactly if no such group of users
reaches over a boundary between pages, and the walk can reach the end of the list. -/
theorem pages_complete_iff {pool : ServerPool} (run : ServerRun state migrated pool) {n : Nat}
    (hn : 0 < n) (hLimit : n ≤ 200) (draws : Nat → Stream' Draw)
    (hFaults : ∀ k i, ((draws k).get i).fault = none)
    (entitled : ∀ k, Entitled state pool.store authorization .usersRead ((draws k).get 0).now sub) :
    (∀ ties : Nat → Uuid → Nat, ∃ all,
      Walk (fun k => listed state authorization pool.store n k (withTies (draws k) (ties k))) 0 all ∧
        all.Perm (pool.store.users.rows.map pool.store.present)) ↔
    (∀ k, Aligned (fun row : UserRow => row.createdAt) pool.store.users.rows (k * n)) ∧
      ∃ k, pool.store.users.rows.length ≤ k * n ∧ k * n < 2 ^ 63 := by
  have refs := run.references
  have hPage (ties : Nat → Uuid → Nat) (k : Nat) (hk : k * n < 2 ^ 63) :
      listed state authorization pool.store n k (withTies (draws k) (ties k)) =
        some ((page (pool.store.ordered ((withTies (draws k) (ties k)).get 3)) n k).map
          pool.store.present) :=
    listed_page (fun i => hFaults k i) refs (entitled k) hLimit hk
  have hPages (ties : Nat → Uuid → Nat) (k : Nat) (users : List User)
      (h : listed state authorization pool.store n k (withTies (draws k) (ties k)) = some users) :
      users = (page (pool.store.ordered ((withTies (draws k) (ties k)).get 3)) n k).map
          pool.store.present := by
    rw [hPage ties k (listed_some h)] at h
    exact (Option.some.inj h).symm
  constructor
  · intro complete
    constructor
    · intro k
      by_contra split
      -- the page before the boundary and the one behind it show the same user
      let first := pool.store.ordered ((withTies (draws (k - 1)) fun _ => 0).get 3)
      have hFirst : first.Perm pool.store.users.rows := ordered_perm _ _
      obtain ⟨second, descending, perm, hk, row, hBefore, hBehind⟩ :=
        exists_repeated hn (ordered_descending _ _ : Descending _ first)
          fun aligned => split (aligned.perm hFirst.symm)
      obtain ⟨other, hOther⟩ := exists_ties (perm.trans hFirst) descending
      let ties (j : Nat) : Uuid → Nat := if j = k then other else fun _ => 0
      obtain ⟨all, walk, hAll⟩ := complete ties
      have hBefore' : row ∈ page (pool.store.ordered ((withTies (draws (k - 1)) (ties (k - 1))).get 3))
          n (k - 1) := by
        simpa only [ties, if_neg (show k - 1 ≠ k by omega)] using hBefore
      have hBehind' : row ∈ page (pool.store.ordered ((withTies (draws k) (ties k)).get 3)) n k := by
        rw [show ties k = other from if_pos rfl, withTies_get, hOther]
        exact hBehind
      exact walk.incomplete hn (hPages ties) (fun _ => ordered_perm _ _) (present_nodup _)
        (show k - 1 < k by omega) hBefore' hBehind' hAll
    · obtain ⟨all, walk, _⟩ := complete fun _ _ => 0
      obtain ⟨m, hLast, _⟩ := walk.collected (hPages fun _ _ => 0)
      refine ⟨m, ?_, listed_some hLast⟩
      have hEmpty := List.map_eq_nil_iff.mp (hPages (fun _ _ => 0) m [] hLast).symm
      rwa [page_eq_nil hn, (ordered_perm _ _).length_eq] at hEmpty
  · rintro ⟨aligned, m, hEnd, hm⟩ ties
    refine exists_complete_walk hn aligned (fun k => ordered_descending _ _)
      (fun k => ordered_perm _ _) hEnd fun k hk => hPage ties k ?_
    exact Nat.lt_of_le_of_lt (Nat.mul_le_mul_right n hk) hm

end Paging

/-! ### Users of the reference instance -/

section Runs

attribute [local instance] reference

/-- After the administrator a user has registered, whom the database finds created at
this time. -/
def joined (dbNow : OffsetDateTime) : ServerPool :=
  Pool.play answer (handle exampleState) migrated
    (.arrive (.createAdmin ⟨"admin@example.org", "password"⟩) :: steps 0 0 4 ++
      .arrive (.register ⟨"user@example.org", "password", none⟩) ::
        (List.range 14).map fun k => .step 1 { moment (20 + k) with dbNow })

theorem joined_run (dbNow : OffsetDateTime) : ServerRun exampleState migrated (joined dbNow) :=
  Runs.play _

theorem joined_entitled {dbNow : OffsetDateTime}
    (hUser : ∃ row ∈ (joined dbNow).store.users.rows, row.id = firstAdmin ∧ row.emailVerified = true)
    (hMem : Permission.usersRead.asStr ∈ (joined dbNow).store.permissionsFor firstAdmin) :
    Entitled exampleState (joined dbNow).store (some (headerFor firstAdmin .admin 41)) .usersRead
      (moment 60).now firstAdmin := by
  have accepted : acceptedAt (headerFor firstAdmin .admin 41) (moment 60).now = some firstAdmin := by
    decide +kernel
  exact ⟨presents_of_acceptedAt accepted, hUser, hMem⟩

theorem joined_reader : Entitled exampleState (joined (moment 22).dbNow).store
    (some (headerFor firstAdmin .admin 41)) .usersRead ((moments 60).get 0).now firstAdmin :=
  joined_entitled (by decide +kernel) (by decide +kernel)

/-- The order of equal keys changes after the first page. -/
def turned (k : Nat) : Stream' Draw :=
  withTies (moments 60) fun id => if k = 0 then id.toNat else 2 ^ 128 - id.toNat

def adminUser : User where
  id := firstAdmin
  email := some "admin@example.org"
  displayName := none
  role := .admin
  isActive := true
  emailVerified := true
  createdAt := (moment 2).dbNow
  updatedAt := (moment 2).dbNow

/-- Of two users created at the same time one is listed twice and the other never. -/
theorem page_repeated : ∃ (pool : ServerPool) (authorization : Option String) (sub : Uuid)
      (draws : Nat → Stream' Draw),
    ServerRun exampleState migrated pool ∧ (∀ k i, ((draws k).get i).fault = none) ∧
    (∀ k, Entitled exampleState pool.store authorization .usersRead ((draws k).get 0).now sub) ∧
    Walk (fun k => listed exampleState authorization pool.store 1 k (draws k)) 0
      [adminUser, adminUser] ∧
    ∀ all, Walk (fun k => listed exampleState authorization pool.store 1 k (draws k)) 0 all →
      ¬all.Perm (pool.store.users.rows.map pool.store.present) := by
  have entitled : Entitled exampleState (joined (moment 2).dbNow).store
      (some (headerFor firstAdmin .admin 41)) .usersRead (moment 60).now firstAdmin :=
    joined_entitled (by decide +kernel) (by decide +kernel)
  have noFaults (k n : Nat) : ((turned k).get n).fault = none := rfl
  have hListed (k : Nat) (hk : k * 1 < 2 ^ 63) :=
    listed_page (noFaults k) (joined_run _).references entitled (by decide) hk
  have hFirst : listed exampleState (some (headerFor firstAdmin .admin 41))
      (joined (moment 2).dbNow).store 1 0 (turned 0) = some [adminUser] := by
    rw [hListed 0 (by decide), ordered_eq (.refl _) (by decide +kernel) (by decide +kernel)]
    decide +kernel
  have hSecond : listed exampleState (some (headerFor firstAdmin .admin 41))
      (joined (moment 2).dbNow).store 1 1 (turned 1) = some [adminUser] := by
    rw [hListed 1 (by decide),
      ordered_eq (List.reverse_perm _) (by decide +kernel) (by decide +kernel)]
    decide +kernel
  have hThird : listed exampleState (some (headerFor firstAdmin .admin 41))
      (joined (moment 2).dbNow).store 1 2 (turned 2) = some [] := by
    rw [hListed 2 (by decide),
      ordered_eq (List.reverse_perm _) (by decide +kernel) (by decide +kernel)]
    decide +kernel
  have walk : Walk (fun k => listed exampleState (some (headerFor firstAdmin .admin 41))
      (joined (moment 2).dbNow).store 1 k (turned k)) 0 ([adminUser] ++ ([adminUser] ++ [])) := by
    apply Walk.next hFirst
    apply Walk.next hSecond
    exact .last hThird
  have repeated : ¬[adminUser, adminUser].Perm ((joined (moment 2).dbNow).store.users.rows.map
      (joined (moment 2).dbNow).store.present) := by
    decide +kernel
  refine ⟨joined (moment 2).dbNow, some (headerFor firstAdmin .admin 41), firstAdmin, turned,
    joined_run _, fun _ _ => rfl, fun _ => entitled, walk, ?_⟩
  intro all walk'
  rwa [walk'.unique walk]

/-- Users created one after the other are listed once each. -/
theorem pages_complete_joined : (joined (moment 22).dbNow).store.users.rows.length = 2 ∧
    ∀ ties : Nat → Uuid → Nat, ∃ all,
      Walk (fun k => listed exampleState (some (headerFor firstAdmin .admin 41))
        (joined (moment 22).dbNow).store 1 k (withTies (moments 60) (ties k))) 0 all ∧
      all.Perm ((joined (moment 22).dbNow).store.users.rows.map
        (joined (moment 22).dbNow).store.present) := by
  have hLength : (joined (moment 22).dbNow).store.users.rows.length = 2 := by decide +kernel
  have aligned (k : Nat) : Aligned (fun row : UserRow => row.createdAt)
      (joined (moment 22).dbNow).store.users.rows (k * 1) := by
    rcases Nat.lt_or_ge k 2 with hk | hk
    · have early : ∀ b < 2, Aligned (fun row : UserRow => row.createdAt)
          (joined (moment 22).dbNow).store.users.rows b := by
        decide +kernel
      exact early (k * 1) (by omega)
    · exact aligned_of_length_le (by omega)
  exact ⟨hLength, (pages_complete_iff (joined_run _) (by decide) (by decide) (fun _ => moments 60)
    (fun _ _ => rfl) fun _ => joined_reader).mpr ⟨aligned, 2, by omega, by decide⟩⟩

end Runs

end GenericAuth
