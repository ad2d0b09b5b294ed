import GenericAuth.Auth.Reference

/-! One account per subject of the identity provider. A callback looks the
subject up, creates a user when there is none, and binds the subject last, while
the binding statement keeps an older binding. One subject has one account in the
runs where the sign-ups for it do not overlap. -/
namespace GenericAuth

open Interaction Relational

section Identity

variable [External] {state : AppState} {start : Db} {pool : ServerPool} {i j k l m : Nat}
    {sub : String} {userId : Uuid}

/-- Client `i` is a callback whose code the provider exchanged for a profile
with this subject. -/
def CallbackFor (pool : ServerPool) (i : Nat) (sub : String) : Prop :=
  ∃ q l draw profile, pool.Serves i (.googleCallback q) ∧
    pool.Executed answer l i draw (.exchangeCode q.code) (.ok profile) ∧ profile.sub = sub

/-- Step `k` of client `i` created this user. -/
def CreatedUser (pool : ServerPool) (k i : Nat) (userId : Uuid) : Prop :=
  ∃ email passwordHash displayName roleId emailVerified columns,
    Did pool k i (.insertUser email passwordHash displayName roleId emailVerified) columns ∧
      columns.id = userId

/-- Step `k` of client `i` bound the subject, or found it bound. -/
def BoundSubject (pool : ServerPool) (k i : Nat) (sub : String) (userId : Uuid) : Prop :=
  ∃ email rawProfile, Did pool k i (.upsertOauthIdentity userId "google" sub email rawProfile) ()

/-- Step `k` of client `i` looked the subject up. -/
def LookedUp (pool : ServerPool) (k i : Nat) (sub : String) : Prop :=
  ∃ found, Did pool k i (.findUserByOauth "google" sub) found

/-- From its lookup of the subject until its binding, a callback that creates a user is
the only one to look the subject up. -/
def OneAtATime (pool : ServerPool) (sub : String) : Prop :=
  ∀ f c i userId, CallbackFor pool i sub → LookedUp pool f i sub → CreatedUser pool c i userId →
    ∀ g j, f < g → j ≠ i → LookedUp pool g j sub →
      ∃ m < g, ∃ owner, BoundSubject pool m i sub owner

/-! ### Bindings over a run -/

theorem ServerRun.bound_later (run : ServerRun state start pool) (h : k ≤ l)
    (bound : (pool.storeAt k).BoundTo "google" sub userId) :
    (pool.storeAt l).BoundTo "google" sub userId := by
  obtain ⟨row, hMem, hProvider, hSubject, hUser⟩ := bound
  obtain ⟨row', hMem', later⟩ := (run.later h).oauthIdentities row hMem
  exact ⟨row', hMem', later.provider.trans hProvider, later.subject.trans hSubject,
    later.userId.trans hUser⟩

/-- The subject is bound after a binding step. -/
theorem BoundSubject.bound (bound : BoundSubject pool k i sub userId) :
    ∃ owner, (pool.storeAt (k + 1)).BoundTo "google" sub owner ∧
      ((∀ other, ¬(pool.storeAt k).BoundTo "google" sub other) → owner = userId) := by
  obtain ⟨email, rawProfile, draw, step⟩ := bound
  obtain ⟨row, hMem, hProvider, hSubject, hNew⟩ := upsertOauthIdentity_reply step.effect
  refine ⟨row.userId, ⟨row, hMem, hProvider, hSubject, rfl⟩, fun free => hNew ?_⟩
  rintro old hOld ⟨hOldProvider, hOldSubject⟩
  exact free old.userId ⟨old, hOld, hOldProvider, hOldSubject, rfl⟩

/-- Only a binding statement for the subject binds it. -/
theorem bound_step {draw : Draw} {db : Db} {op : Op}
    (bound : (answer draw db op).2.BoundTo "google" sub userId) :
    db.BoundTo "google" sub userId ∨ ∃ email rawProfile,
      (⟨op, (answer draw db op).1⟩ : Call Op Op.Reply) =
        ⟨.sql (.upsertOauthIdentity userId "google" sub email rawProfile), .ok ()⟩ := by
  obtain ⟨row, hMem, hProvider, hSubject, hUser⟩ := bound
  have effect := answer_effect draw db op
  generalize (answer draw db op).1 = reply, (answer draw db op).2 = db' at effect hMem
  cases effect with
  | @upsertNew userId' provider subject email rawProfile _ _ inserted =>
      rcases (Table.mem_insert inserted).mp hMem with hOld | rfl
      · exact .inl ⟨row, hOld, hProvider, hSubject, hUser⟩
      · simp only at hProvider hSubject hUser
        subst hProvider hSubject hUser
        exact .inr ⟨email, rawProfile, rfl⟩
  | upsertAgain userId' email rawProfile bound =>
      obtain ⟨old, hOld, rfl⟩ := List.mem_map.mp hMem
      refine .inl ⟨old, hOld, ?_⟩
      split at hProvider <;> split at hSubject <;> split at hUser <;> simp_all
  | _ => exact .inl ⟨row, hMem, hProvider, hSubject, hUser⟩

/-- A subject that becomes bound is bound by a binding step. -/
theorem ServerRun.bound_of_free (run : ServerRun state start pool)
    (bound : (pool.storeAt (k + 1)).BoundTo "google" sub userId)
    (free : ∀ owner, ¬(pool.storeAt k).BoundTo "google" sub owner) :
    ∃ i, BoundSubject pool k i sub userId := by
  cases hEvent : pool.log[k]? with
  | none =>
      have hk := List.getElem?_eq_none_iff.mp hEvent
      rw [Pool.storeAt_end (Nat.le_succ_of_le hk), ← Pool.storeAt_end hk] at bound
      exact absurd bound (free userId)
  | some event =>
      have step := run.executed hEvent
      rw [← step.after_eq] at bound
      rcases bound_step bound with earlier | ⟨email, rawProfile, hCall⟩
      · exact absurd earlier (free userId)
      · rw [step.reply_eq] at hCall
        exact ⟨event.client, email, rawProfile, event.draw, step.of_call hCall⟩

/-! ### Steps of one callback -/

/-- A client exchanges one code only. -/
theorem ServerRun.exchange_unique (run : ServerRun state start pool) {draw draw' : Draw}
    {code code' : String} {profile profile' : GoogleProfile}
    (first : pool.Executed answer k i draw (.exchangeCode code) (.ok profile))
    (second : pool.Executed answer l i draw' (.exchangeCode code') (.ok profile')) :
    profile = profile' := by
  obtain rfl := run.once Op.isExchange (by simp [onceOnly]) first second rfl rfl
  have hEvent := first.event.symm.trans second.event
  simp only [Option.some.injEq, Event.mk.injEq] at hEvent
  have hProfile := (Prod.mk.inj first.effect).1
  rw [hEvent.2.1] at hProfile
  exact Except.ok.inj (hProfile.symm.trans (Prod.mk.inj second.effect).1)

/-- A client creates one user only. -/
theorem ServerRun.createdUser_unique (run : ServerRun state start pool) {userId' : Uuid}
    (first : CreatedUser pool k i userId) (second : CreatedUser pool l i userId') : k = l := by
  obtain ⟨_, _, _, _, _, _, ⟨_, step⟩, _⟩ := first
  obtain ⟨_, _, _, _, _, _, ⟨_, step'⟩, _⟩ := second
  exact run.once Op.isInsertUser (by simp [onceOnly]) step step' rfl rfl

theorem CreatedUser.client_eq {userId' : Uuid} (first : CreatedUser pool k i userId)
    (second : CreatedUser pool k j userId') : i = j := by
  obtain ⟨_, _, _, _, _, _, did, _⟩ := first
  obtain ⟨_, _, _, _, _, _, did', _⟩ := second
  exact (did.unique did').1

/-- A client binds once. -/
theorem ServerRun.boundSubject_unique (run : ServerRun state start pool) {sub' : String}
    {userId' : Uuid} (first : BoundSubject pool k i sub userId)
    (second : BoundSubject pool l i sub' userId') : k = l := by
  obtain ⟨_, _, _, step⟩ := first
  obtain ⟨_, _, _, step'⟩ := second
  exact run.once Op.isUpsertIdentity (by simp [onceOnly]) step step' rfl rfl

/-- What precedes a binding step: the user was found bound, or was created. -/
theorem ServerRun.bound_by (run : ServerRun state start pool)
    (bound : BoundSubject pool k i sub userId) :
    CallbackFor pool i sub ∧
      ((∃ l < k, (pool.storeAt l).BoundTo "google" sub userId) ∨
        ∃ l < k, CreatedUser pool l i userId) := by
  obtain ⟨_, _, draw, step⟩ := bound
  obtain ⟨request, serves, binds, _⟩ := Runs.allowed (handle_obeys state) run step
  cases request with
  | googleCallback q =>
      obtain ⟨profile, exchanged, _, rfl, hUser⟩ := binds
      obtain ⟨l, _, draw', exchange⟩ := run.executed_of_past exchanged
      refine ⟨⟨q, l, draw', profile, serves, exchange, rfl⟩, ?_⟩
      rcases hUser with ⟨found, saw, rfl⟩ | ⟨_, _, _, _, _, columns, saw, hId⟩
      · obtain ⟨m, hm, draw'', find⟩ := run.did_of_saw saw
        exact .inl ⟨m, hm, findUserByOauth_reply find.effect⟩
      · obtain ⟨m, hm, did⟩ := run.did_of_saw saw
        exact .inr ⟨m, hm, _, _, _, _, _, columns, did, hId⟩
  | _ => exact binds.elim

/-- A binding step that finds the subject free belongs to the callback that
created the user it binds. -/
theorem ServerRun.creator_of_free (run : ServerRun state start pool)
    (bound : BoundSubject pool k i sub userId)
    (free : ∀ owner, ¬(pool.storeAt k).BoundTo "google" sub owner) :
    ∃ l < k, CreatedUser pool l i userId := by
  rcases (run.bound_by bound).2 with ⟨l, hl, found⟩ | created
  · exact absurd (run.bound_later (Nat.le_of_lt hl) found) (free userId)
  · exact created

/-- A callback that creates a user has found the subject free before. -/
theorem ServerRun.lookup_of_created (run : ServerRun state start pool)
    (callback : CallbackFor pool i sub) (created : CreatedUser pool k i userId) :
    ∃ l < k, Did pool l i (.findUserByOauth "google" sub) none := by
  obtain ⟨q, m, draw, profile, serves, exchange, rfl⟩ := callback
  obtain ⟨email, passwordHash, displayName, roleId, emailVerified, columns, did, _⟩ := created
  obtain ⟨⟨_, profile', exchanged, _, saw⟩, _⟩ := run.allowed serves did
  obtain ⟨n, _, draw', exchange'⟩ := run.executed_of_past exchanged
  obtain rfl := run.exchange_unique exchange exchange'
  exact run.did_of_saw saw

theorem ServerRun.free_of_lookup (run : ServerRun state start pool) (refs : start.References)
    (lookup : Did pool k i (.findUserByOauth "google" sub) none) :
    ∀ owner, ¬(pool.storeAt k).BoundTo "google" sub owner := by
  obtain ⟨draw, step⟩ := lookup
  exact findUserByOauth_none (run.references_at refs k) step.effect

/-- Of two callbacks that create a user, none looks the subject up after the other. -/
theorem ServerRun.not_looked_up_later (run : ServerRun state start pool) (refs : start.References)
    (oneAtATime : OneAtATime pool sub) (hij : j ≠ i) (callback : CallbackFor pool i sub)
    (created : CreatedUser pool m i userId)
    (lookup : Did pool k i (.findUserByOauth "google" sub) none)
    (lookup' : Did pool l j (.findUserByOauth "google" sub) none) : ¬k < l := by
  intro hkl
  obtain ⟨n, hn, _, bound⟩ :=
    oneAtATime k m i userId callback ⟨none, lookup⟩ created l j hkl hij ⟨none, lookup'⟩
  obtain ⟨owner, hOwner, _⟩ := bound.bound
  exact run.free_of_lookup refs lookup' owner (run.bound_later hn hOwner)

/-- At most one callback for the subject creates a user. -/
theorem ServerRun.creator_unique (run : ServerRun state start pool) (refs : start.References)
    (oneAtATime : OneAtATime pool sub) {userId' : Uuid} (callback : CallbackFor pool i sub)
    (created : CreatedUser pool k i userId) (callback' : CallbackFor pool j sub)
    (created' : CreatedUser pool l j userId') : i = j := by
  by_contra hij
  obtain ⟨f, _, lookup⟩ := run.lookup_of_created callback created
  obtain ⟨g, _, lookup'⟩ := run.lookup_of_created callback' created'
  have hfg := run.not_looked_up_later refs oneAtATime (Ne.symm hij) callback created lookup lookup'
  have hgf := run.not_looked_up_later refs oneAtATime hij callback' created' lookup' lookup
  obtain rfl : f = g := by omega
  exact hij (lookup.unique lookup').1

/-- From the lookup of a callback that creates a user until its binding the subject
stays free. -/
theorem ServerRun.free_until_bound (run : ServerRun state start pool) (refs : start.References)
    (oneAtATime : OneAtATime pool sub) (created : CreatedUser pool l i userId)
    (lookup : Did pool k i (.findUserByOauth "google" sub) none)
    (bound : BoundSubject pool m i sub userId) {t : Nat} (hkt : k ≤ t) (htm : t ≤ m) :
    ∀ owner, ¬(pool.storeAt t).BoundTo "google" sub owner := by
  induction t, hkt using Nat.le_induction with
  | base => exact run.free_of_lookup refs lookup
  | succ t hkt ih =>
      intro owner hOwner
      have free := ih (by omega)
      obtain ⟨j, other⟩ := run.bound_of_free hOwner free
      obtain ⟨n, _, created'⟩ := run.creator_of_free other free
      obtain rfl := run.creator_unique refs oneAtATime (run.bound_by bound).1 created
        (run.bound_by other).1 created'
      have := run.boundSubject_unique other bound
      omega

/-- Every callback that binds the subject leaves it bound to its own user. -/
theorem ServerRun.bound_to_own (run : ServerRun state start pool) (refs : start.References)
    (oneAtATime : OneAtATime pool sub) (bound : BoundSubject pool k i sub userId) :
    pool.store.BoundTo "google" sub userId := by
  have after : (pool.storeAt (k + 1)).BoundTo "google" sub userId := by
    obtain ⟨callback, ⟨l, hl, found⟩ | ⟨l, hl, created⟩⟩ := run.bound_by bound
    · exact run.bound_later (by omega) found
    · obtain ⟨f, hf, lookup⟩ := run.lookup_of_created callback created
      obtain ⟨owner, hOwner, hFree⟩ := bound.bound
      rwa [hFree (run.free_until_bound refs oneAtATime created lookup bound (by omega)
        (Nat.le_refl k))] at hOwner
  obtain ⟨_, _, draw, step⟩ := bound
  rw [← Pool.storeAt_end (Nat.le_refl pool.log.length)]
  exact run.bound_later (Nat.succ_le_of_lt step.lt_length) after

/-- The pair of a callback is for the user to which the callback bound its subject. -/
theorem ServerRun.callback_pair (run : ServerRun state start pool)
    (callback : CallbackFor pool i sub) {q : OAuthCallbackQuery} {pair : TokenPair}
    (returned : pool.Returned i (.googleCallback q) (.ok (.tokenPair pair))) :
    ∃ k userId, BoundSubject pool k i sub userId ∧ PairFor state pool.store pair userId := by
  obtain ⟨userId, ⟨profile, exchanged, saw⟩, pairFor⟩ := run.pairFor returned
  obtain ⟨l, draw, exchange⟩ := run.executed_of_past_full exchanged
  obtain ⟨q', l', draw', profile', _, exchange', rfl⟩ := callback
  obtain rfl := run.exchange_unique exchange exchange'
  obtain ⟨k, did⟩ := run.did_of_saw_full saw
  exact ⟨k, userId, ⟨_, _, did⟩, pairFor⟩

/-- In the runs where the sign-ups for a subject do not overlap, every callback for the
subject returns a pair of the one user to which the subject is bound, and a user is
created for the subject once at most. -/
theorem google_one_account (run : ServerRun state start pool) (refs : start.References)
    (oneAtATime : OneAtATime pool sub) :
    (∀ i q pair, CallbackFor pool i sub →
      pool.Returned i (.googleCallback q) (.ok (.tokenPair pair)) →
      ∃ userId, PairFor state pool.store pair userId ∧
        ∀ owner, pool.store.BoundTo "google" sub owner ↔ owner = userId) ∧
    ∀ k l i j userId userId', CallbackFor pool i sub → CreatedUser pool k i userId →
      CallbackFor pool j sub → CreatedUser pool l j userId' → k = l ∧ i = j := by
  constructor
  · intro i q pair callback returned
    obtain ⟨k, userId, bound, pairFor⟩ := run.callback_pair callback returned
    have hBound := run.bound_to_own refs oneAtATime bound
    refine ⟨userId, pairFor, fun owner => ⟨fun h => hBound.unique h, ?_⟩⟩
    rintro rfl
    exact hBound
  · intro k l i j userId userId' callback created callback' created'
    obtain rfl := run.creator_unique refs oneAtATime callback created callback' created'
    exact ⟨run.createdUser_unique created created', rfl⟩

/-- A callback that has answered with a pair exchanged its code for a profile. -/
theorem ServerRun.callbackFor_of_returned (run : ServerRun state start pool)
    {q : OAuthCallbackQuery} {pair : TokenPair}
    (returned : pool.Returned i (.googleCallback q) (.ok (.tokenPair pair)))
    (only : (pool.log.all fun event =>
      event.draw.profile.toOption.all fun profile => profile.sub == sub) = true) :
    CallbackFor pool i sub := by
  obtain ⟨userId, ⟨profile, exchanged, _⟩, _⟩ := run.pairFor returned
  obtain ⟨l, draw, exchange⟩ := run.executed_of_past_full exchanged
  exact ⟨q, l, draw, profile, returned.serves, exchange,
    by simpa using exchange_profile only exchange⟩

end Identity

/-! ### Runs of the reference instance -/

section Runs

attribute [local instance] reference

/-- A profile without an address, so that no `UNIQUE` constraint intervenes. -/
def bareProfile : GoogleProfile :=
  { sub := "1001", email := none, emailVerified := none, name := none, picture := none }

/-- Both callbacks look the subject up before either of them creates a user. -/
def overlappingSignIns : ServerPool :=
  Pool.play answer (handle exampleState) migrated
    ([.arrive (.googleCallback ⟨"code", none⟩), .arrive (.googleCallback ⟨"code", none⟩),
      exchange 0 0 bareProfile] ++ steps 0 1 1 ++ [exchange 1 10 bareProfile] ++ steps 1 11 9 ++
      steps 0 30 8)

/-- The second one returns a pair for a user of its own, which is not the one
that is bound to the subject. -/
theorem google_two_accounts : ∃ (pool : ServerPool) (sub : String),
    ServerRun exampleState migrated pool ∧ FreshDraws pool ∧ ∃ i j q pair pair' userId userId',
      CallbackFor pool i sub ∧ pool.Returned i (.googleCallback q) (.ok (.tokenPair pair)) ∧
      CallbackFor pool j sub ∧ pool.Returned j (.googleCallback q) (.ok (.tokenPair pair')) ∧
      PairFor exampleState pool.store pair userId ∧ PairFor exampleState pool.store pair' userId' ∧
      userId ≠ userId' ∧ ¬pool.store.BoundTo "google" sub userId' := by
  have run : ServerRun exampleState migrated overlappingSignIns := Runs.play _
  have first : ownerOf overlappingSignIns 1 =
      some (.googleCallback ⟨"code", none⟩, some (moment 13).uuid) := by decide +kernel
  have second : ownerOf overlappingSignIns 0 =
      some (.googleCallback ⟨"code", none⟩, some (moment 31).uuid) := by decide +kernel
  have only : (overlappingSignIns.log.all fun event =>
      event.draw.profile.toOption.all fun profile => profile.sub == "1001") = true := by
    decide +kernel
  have free : ¬overlappingSignIns.store.BoundTo "google" "1001" (moment 31).uuid := by
    have hRows : (overlappingSignIns.store.oauthIdentities.rows.all fun row =>
        row.userId != (moment 31).uuid) = true := by decide +kernel
    rintro ⟨row, hMem, -, -, hUser⟩
    simpa [hUser] using List.all_eq_true.mp hRows row hMem
  obtain ⟨pair, returned, pairFor⟩ := run.returned_of_ownerOf first
  obtain ⟨pair', returned', pairFor'⟩ := run.returned_of_ownerOf second
  exact ⟨overlappingSignIns, "1001", run, by decide +kernel, 1, 0, ⟨"code", none⟩, pair, pair', _, _,
    run.callbackFor_of_returned returned only, returned,
    run.callbackFor_of_returned returned' only, returned', pairFor, pairFor', by decide, free⟩

/-- The second callback arrives when the first one has finished. -/
def signInsInTurn : ServerPool :=
  Pool.play answer (handle exampleState) migrated
    ([.arrive (.googleCallback ⟨"code", none⟩), exchange 0 0 bareProfile] ++ steps 0 1 9 ++
      [.arrive (.googleCallback ⟨"code", none⟩), exchange 1 20 bareProfile] ++ steps 1 21 7)

def Op.isFindUserByOauth : Op → Bool
  | .sql (.findUserByOauth ..) => true
  | _ => false

/-- The user of the fourth step is bound in the fifth, and after the second step nobody
looks the subject up until then. -/
theorem signInsInTurn_oneAtATime : OneAtATime signInsInTurn "1001" := by
  have creations : ((List.range signInsInTurn.log.length).all fun k =>
      (signInsInTurn.log[k]?).all fun event => !event.op.isInsertUser || event.client == 0) =
        true := by
    decide +kernel
  have lookups : ((List.range signInsInTurn.log.length).all fun k =>
      (signInsInTurn.log[k]?).all fun event =>
        !event.op.isFindUserByOauth || event.client == 0 || decide (4 < k)) = true := by
    decide +kernel
  have run : ServerRun exampleState migrated signInsInTurn := Runs.play _
  obtain ⟨_, bound, _⟩ := run.did_of_didWith 4 0 (.upsertOauthIdentity (moment 3).uuid "google" "1001"
    none bareProfile) (fun _ => true) (by decide +kernel)
  rintro f c i userId _ _ ⟨_, _, _, _, _, _, ⟨draw, create⟩, _⟩ g j _ hij ⟨_, draw', lookup⟩
  have hCreator := List.all_eq_true.mp creations c (List.mem_range.mpr create.lt_length)
  have hLookup := List.all_eq_true.mp lookups g (List.mem_range.mpr lookup.lt_length)
  simp only [create.event, Option.all_some, Op.isInsertUser, Bool.not_true, Bool.false_or,
    beq_iff_eq] at hCreator
  simp only [lookup.event, Option.all_some, Op.isFindUserByOauth, Bool.not_true, Bool.false_or,
    Bool.or_eq_true, beq_iff_eq, decide_eq_true_eq] at hLookup
  subst hCreator
  exact ⟨4, hLookup.resolve_left hij, _, _, _, bound⟩

/-- The hypotheses hold of sign-ins in turn, which both return the one user. -/
theorem google_one_account_in_turn : ∃ pair pair' userId,
    signInsInTurn.Returned 0 (.googleCallback ⟨"code", none⟩) (.ok (.tokenPair pair)) ∧
    signInsInTurn.Returned 1 (.googleCallback ⟨"code", none⟩) (.ok (.tokenPair pair')) ∧
    PairFor exampleState signInsInTurn.store pair userId ∧
    PairFor exampleState signInsInTurn.store pair' userId := by
  have run : ServerRun exampleState migrated signInsInTurn := Runs.play _
  have first : (pairOf signInsInTurn 0).map Prod.fst = some (.googleCallback ⟨"code", none⟩) := by
    decide +kernel
  have second : (pairOf signInsInTurn 1).map Prod.fst = some (.googleCallback ⟨"code", none⟩) := by
    decide +kernel
  have only : (signInsInTurn.log.all fun event =>
      event.draw.profile.toOption.all fun profile => profile.sub == "1001") = true := by
    decide +kernel
  obtain ⟨pair, returned⟩ := returned_of_pairOf_request first
  obtain ⟨pair', returned'⟩ := returned_of_pairOf_request second
  have one := (google_one_account run migrated_references signInsInTurn_oneAtATime).1
  obtain ⟨userId, pairFor, hBound⟩ := one 0 _ pair (run.callbackFor_of_returned returned only) returned
  obtain ⟨owner, pairFor', hBound'⟩ :=
    one 1 _ pair' (run.callbackFor_of_returned returned' only) returned'
  obtain rfl := (hBound owner).mp ((hBound' owner).mpr rfl)
  exact ⟨pair, pair', owner, returned, returned', pairFor, pairFor'⟩

end Runs

end GenericAuth
