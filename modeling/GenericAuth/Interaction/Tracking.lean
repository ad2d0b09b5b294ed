import GenericAuth.Interaction.Pool

/-! Clients that ask what other clients would ask. A client that tracks another one
may stop before it and turn its result into one of its own, but performs no operation
that the other would not perform there. Its runs are runs of the other clients, some
of which never move again. -/
namespace Interaction

variable {Request Request' Store Draw Op Result Result' : Type} {Reply : Op → Type}

/-! ### Single clients -/

namespace Program

/-- The program performs the operations of the other one until it is done; `final`
says with which results it may be done, and how far the other one is then. -/
inductive Tracks (final : Result → Program Op Reply Result' → Prop) :
    Program Op Reply Result → Program Op Reply Result' → Prop where
  | done {result : Result} {program : Program Op Reply Result'} (h : final result program) :
      Tracks final (.done result) program
  | call (op : Op) {next : Reply op → Program Op Reply Result}
      {next' : Reply op → Program Op Reply Result'}
      (h : ∀ reply, Tracks final (next reply) (next' reply)) :
      Tracks final (.call op next) (.call op next')

variable {Next Next' : Type} {final : Result → Program Op Reply Result' → Prop}
    {final' : Next → Program Op Reply Next' → Prop}

theorem Tracks.of_call {op : Op} {next : Reply op → Program Op Reply Result}
    {program : Program Op Reply Result'} (tracks : Tracks final (.call op next) program) :
    ∃ next', program = .call op next' ∧ ∀ reply, Tracks final (next reply) (next' reply) := by
  cases tracks with
  | call _ h => exact ⟨_, rfl, h⟩

theorem Tracks.of_done {result : Result} {program : Program Op Reply Result'}
    (tracks : Tracks final (.done result) program) : final result program := by
  cases tracks with
  | done h => exact h

/-- A common first part, after which one program goes on from the other's result. -/
theorem tracks_bind (program : Program Op Reply Result) {rest : Result → Program Op Reply Next}
    {rest' : Result → Program Op Reply Next'}
    (h : ∀ result, Tracks final' (rest result) (rest' result)) :
    Tracks final' (program >>= rest) (program >>= rest') := by
  induction program with
  | done result => exact h result
  | call op next ih => exact .call op ih

/-- The same program, whose result is converted. -/
theorem tracks_map (convert : Result' → Result) (program : Program Op Reply Result')
    (h : ∀ result, final (convert result) (.done result)) :
    Tracks final (convert <$> program) program := by
  induction program with
  | done result => exact .done (h result)
  | call op next ih => exact .call op ih

/-- A result is converted. -/
theorem Tracks.map {program : Program Op Reply Result} {program' : Program Op Reply Result'}
    {final' : Next → Program Op Reply Result' → Prop} (tracks : Tracks final program program')
    (convert : Result → Next)
    (h : ∀ result program', final result program' → final' (convert result) program') :
    Tracks final' (convert <$> program) program' := by
  induction tracks with
  | done final => exact .done (h _ _ final)
  | call op _ ih => exact .call op ih

end Program

/-! ### Runs -/

/-- The second pool has the same history, and its clients are tracked by those of the
first one. -/
structure Pool.Tracked (convert : Request → Request')
    (final : Request → Result → Program Op Reply Result' → Prop)
    (pool : Pool Request Store Draw Op Reply Result)
    (pool' : Pool Request' Store Draw Op Reply Result') : Prop where
  store : pool'.store = pool.store
  log : pool'.log = pool.log
  length : pool'.clients.length = pool.clients.length
  clients : ∀ (i : Nat) (request : Request) (program : Program Op Reply Result),
    pool.clients[i]? = some ⟨request, program⟩ →
      ∃ program', pool'.clients[i]? = some ⟨convert request, program'⟩ ∧
        program.Tracks (final request) program'

section Runs

variable {service : Service Store Draw Op Reply} {handle : Request → Program Op Reply Result}
    {handle' : Request' → Program Op Reply Result'} {start : Store}
    {pool : Pool Request Store Draw Op Reply Result}
    {pool' : Pool Request' Store Draw Op Reply Result'} {convert : Request → Request'}
    {final : Request → Result → Program Op Reply Result' → Prop}

namespace Pool.Tracked

theorem arrive (tracked : pool.Tracked convert final pool') {request : Request}
    (h : (handle request).Tracks (final request) (handle' (convert request))) :
    (pool.arrive handle request).Tracked convert final (pool'.arrive handle' (convert request)) where
  store := tracked.store
  log := tracked.log
  length := by simp [Pool.arrive, tracked.length]
  clients i request' program present := by
    rcases Nat.lt_trichotomy i pool.clients.length with hLt | rfl | hGt
    · have hLt' : i < pool'.clients.length := tracked.length ▸ hLt
      simp only [Pool.arrive, List.getElem?_append_left hLt] at present
      simp only [Pool.arrive, List.getElem?_append_left hLt']
      exact tracked.clients i request' program present
    · simp only [Pool.arrive, List.getElem?_concat_length, Option.some.injEq,
        Client.mk.injEq] at present
      obtain ⟨rfl, rfl⟩ := present
      refine ⟨_, ?_, h⟩
      rw [← tracked.length]
      simp [Pool.arrive]
    · rw [List.getElem?_eq_none (by simp [Pool.arrive]; omega)] at present
      cases present

theorem advance (tracked : pool.Tracked convert final pool') {i : Nat} {request : Request} {op : Op}
    {next : Reply op → Program Op Reply Result} {next' : Reply op → Program Op Reply Result'}
    {draw : Draw} (h : ∀ reply, (next reply).Tracks (final request) (next' reply)) :
    (pool.advance service i request op next draw).Tracked convert final
      (pool'.advance service i (convert request) op next' draw) where
  store := by simp [Pool.advance, tracked.store]
  log := by simp [Pool.advance, tracked.store, tracked.log]
  length := by simp [Pool.advance, tracked.length]
  clients j request' program present := by
    by_cases hij : i = j
    · subst hij
      have hi : i < pool.clients.length := by
        simpa [Pool.advance] using (List.getElem?_eq_some_iff.mp present).1
      simp only [Pool.advance, List.getElem?_set_self hi, Option.some.injEq,
        Client.mk.injEq] at present
      obtain ⟨rfl, rfl⟩ := present
      refine ⟨next' (service draw pool.store op).1, ?_, h _⟩
      simp [Pool.advance, tracked.store, tracked.length, hi]
    · simp only [Pool.advance, List.getElem?_set_ne hij] at present ⊢
      exact tracked.clients j request' program present

end Pool.Tracked

/-- Each of the tracked clients belongs to one that tracks it. -/
theorem Pool.Tracked.serves (tracked : pool.Tracked convert final pool') {i : Nat}
    {request' : Request'} (serves : pool'.Serves i request') :
    ∃ request, pool.Serves i request ∧ request' = convert request := by
  obtain ⟨⟨_, program'⟩, present', rfl⟩ := Option.map_eq_some_iff.mp serves
  have hi : i < pool.clients.length := by
    rw [← tracked.length]
    exact (List.getElem?_eq_some_iff.mp present').1
  obtain ⟨program'', present, _⟩ := tracked.clients i _ _ (List.getElem?_eq_getElem hi)
  cases present'.symm.trans present
  exact ⟨pool.clients[i].request, by simp [Pool.Serves, hi], rfl⟩

theorem Pool.Tracked.storeAt (tracked : pool.Tracked convert final pool') (k : Nat) :
    pool'.storeAt k = pool.storeAt k := by
  simp [Pool.storeAt, tracked.log, tracked.store]

theorem Pool.Tracked.executed (tracked : pool.Tracked convert final pool') {k i : Nat} {draw : Draw}
    {op : Op} {reply : Reply op} (step : pool.Executed service k i draw op reply) :
    pool'.Executed service k i draw op reply where
  event := by rw [tracked.log, tracked.storeAt, step.event]
  effect := by rw [tracked.storeAt, tracked.storeAt, step.effect]

theorem Pool.Tracked.executed_of (tracked : pool.Tracked convert final pool') {k i : Nat}
    {draw : Draw} {op : Op} {reply : Reply op} (step : pool'.Executed service k i draw op reply) :
    pool.Executed service k i draw op reply where
  event := by rw [← tracked.log, ← tracked.storeAt, step.event]
  effect := by rw [← tracked.storeAt, ← tracked.storeAt, step.effect]

/-- A run of clients that track others is a run of the others, step by step. -/
theorem Runs.tracked (run : Runs service handle start pool)
    (tracks : ∀ request, (handle request).Tracks (final request) (handle' (convert request))) :
    ∃ pool', Runs service handle' start pool' ∧ pool.Tracked convert final pool' := by
  induction run with
  | initial => exact ⟨_, .initial, rfl, rfl, rfl, by simp [Pool.initial]⟩
  | arrive prior request ih =>
      obtain ⟨pool', run', tracked⟩ := ih
      exact ⟨_, run'.arrive (convert request), tracked.arrive (tracks request)⟩
  | @step pool prior i request op next active draw ih =>
      obtain ⟨pool', run', tracked⟩ := ih
      obtain ⟨program', active', tracks'⟩ := tracked.clients i request _ active
      obtain ⟨next', rfl, h⟩ := tracks'.of_call
      exact ⟨_, run'.step active' draw, tracked.advance h⟩

/-- A client that has finished tells how far the other one is. -/
theorem Pool.Tracked.returned (tracked : pool.Tracked convert final pool') {i : Nat}
    {request : Request} {result : Result} (returned : pool.Returned i request result) :
    ∃ program', pool'.clients[i]? = some ⟨convert request, program'⟩ ∧
      final request result program' := by
  obtain ⟨program', present, tracks⟩ := tracked.clients i request _ returned
  exact ⟨program', present, tracks.of_done⟩

end Runs

end Interaction
