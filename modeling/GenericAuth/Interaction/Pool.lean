import GenericAuth.Interaction.Trace

/-! Any number of clients of one service, interleaved operation by operation.
Clients may arrive at any time, and a step performs the next operation of one
client. The log records the store that each operation found. -/
namespace Interaction

structure Client (Request Op : Type) (Reply : Op → Type) (Result : Type) where
  request : Request
  program : Program Op Reply Result

structure Event (Store Draw Op : Type) where
  client : Nat
  draw : Draw
  before : Store
  op : Op

structure Pool (Request Store Draw Op : Type) (Reply : Op → Type) (Result : Type) where
  store : Store
  clients : List (Client Request Op Reply Result)
  log : List (Event Store Draw Op)

variable {Request Store Draw Op Result : Type} {Reply : Op → Type}

/-- The log entry as the client saw it. -/
def Event.call (service : Service Store Draw Op Reply) (event : Event Store Draw Op) :
    Call Op Reply :=
  ⟨event.op, (service event.draw event.before event.op).1⟩

/-- The calls of one client, oldest first. -/
def past (service : Service Store Draw Op Reply) (log : List (Event Store Draw Op)) (i : Nat) :
    List (Call Op Reply) :=
  (log.filter fun event => event.client == i).map (Event.call service)

namespace Pool

def initial (start : Store) : Pool Request Store Draw Op Reply Result := ⟨start, [], []⟩

def arrive (handle : Request → Program Op Reply Result)
    (pool : Pool Request Store Draw Op Reply Result) (request : Request) :
    Pool Request Store Draw Op Reply Result :=
  { pool with clients := pool.clients ++ [⟨request, handle request⟩] }

/-- Client `i` performs `op` and goes on with `next`. -/
def advance (service : Service Store Draw Op Reply)
    (pool : Pool Request Store Draw Op Reply Result) (i : Nat) (request : Request) (op : Op)
    (next : Reply op → Program Op Reply Result) (draw : Draw) :
    Pool Request Store Draw Op Reply Result where
  store := (service draw pool.store op).2
  clients := pool.clients.set i ⟨request, next (service draw pool.store op).1⟩
  log := pool.log ++ [⟨i, draw, pool.store, op⟩]

/-- The store found by step `k`, which is the current one past the end. -/
def storeAt (pool : Pool Request Store Draw Op Reply Result) (k : Nat) : Store :=
  (pool.log[k]?.map Event.before).getD pool.store

/-- Step `k` of the run was made by client `i`: it performed `op`, received
`reply`, and took the store from `storeAt k` to `storeAt (k + 1)`. -/
structure Executed (service : Service Store Draw Op Reply)
    (pool : Pool Request Store Draw Op Reply Result) (k i : Nat) (draw : Draw) (op : Op)
    (reply : Reply op) : Prop where
  event : pool.log[k]? = some ⟨i, draw, pool.storeAt k, op⟩
  effect : service draw (pool.storeAt k) op = (reply, pool.storeAt (k + 1))

/-- Client `i` has finished its request with this result. -/
def Returned (pool : Pool Request Store Draw Op Reply Result) (i : Nat) (request : Request)
    (result : Result) : Prop :=
  pool.clients[i]? = some ⟨request, .done result⟩

/-- The request and the result of a client that has finished. -/
def finished (pool : Pool Request Store Draw Op Reply Result) (i : Nat) :
    Option (Request × Result) :=
  match pool.clients[i]? with
  | some ⟨request, .done result⟩ => some (request, result)
  | _ => none

theorem finished_iff {pool : Pool Request Store Draw Op Reply Result} {i : Nat} {request : Request}
    {result : Result} : pool.finished i = some (request, result) ↔ pool.Returned i request result := by
  simp only [finished, Returned]
  split
  · next h => simp [h]
  · next h =>
      simp only [reduceCtorEq, false_iff]
      intro returned
      exact h _ _ returned

/-- Client `i` was started by this request. -/
def Serves (pool : Pool Request Store Draw Op Reply Result) (i : Nat) (request : Request) : Prop :=
  pool.clients[i]?.map Client.request = some request

theorem serves_arrive {handle : Request → Program Op Reply Result}
    {pool : Pool Request Store Draw Op Reply Result} {i : Nat} {request request' : Request}
    (h : pool.Serves i request) : (pool.arrive handle request').Serves i request := by
  have hi : i < pool.clients.length := by
    by_contra hi
    simp [Serves, List.getElem?_eq_none (Nat.le_of_not_lt hi)] at h
  simpa [Serves, arrive, List.getElem?_append_left hi] using h

theorem serves_advance {service : Service Store Draw Op Reply}
    {pool : Pool Request Store Draw Op Reply Result} {i j : Nat} {request request' : Request}
    {op : Op} {next : Reply op → Program Op Reply Result} {draw : Draw}
    (active : pool.clients[j]? = some ⟨request', .call op next⟩) (h : pool.Serves i request) :
    (pool.advance service j request' op next draw).Serves i request := by
  by_cases hij : j = i
  · subst hij
    have hj := (List.getElem?_eq_some_iff.mp active).1
    have hSame : request' = request := by simpa [Serves, active] using h
    simp [Serves, advance, hj, hSame]
  · simpa [Serves, advance, hij] using h

theorem Returned.serves {pool : Pool Request Store Draw Op Reply Result} {i : Nat}
    {request : Request} {result : Result} (h : pool.Returned i request result) :
    pool.Serves i request := by
  unfold Returned at h
  simp [Serves, h]

theorem Returned.unique {pool : Pool Request Store Draw Op Reply Result} {i : Nat}
    {request request' : Request} {result result' : Result} (first : pool.Returned i request result)
    (second : pool.Returned i request' result') : request = request' ∧ result = result' := by
  cases first.symm.trans second
  exact ⟨rfl, rfl⟩

theorem Serves.unique {pool : Pool Request Store Draw Op Reply Result} {i : Nat}
    {first second : Request} (h : pool.Serves i first) (h' : pool.Serves i second) :
    first = second := Option.some.inj (h.symm.trans h')

/-! ### Schedules -/

inductive Move (Request Draw : Type) where
  | arrive (request : Request)
  | step (i : Nat) (draw : Draw)

/-- Steps of absent or finished clients leave the pool as it is. -/
def move (service : Service Store Draw Op Reply) (handle : Request → Program Op Reply Result)
    (pool : Pool Request Store Draw Op Reply Result) :
    Move Request Draw → Pool Request Store Draw Op Reply Result
  | .arrive request => pool.arrive handle request
  | .step i draw =>
      match pool.clients[i]? with
      | some ⟨request, .call op next⟩ => pool.advance service i request op next draw
      | _ => pool

def play (service : Service Store Draw Op Reply) (handle : Request → Program Op Reply Result)
    (start : Store) (moves : List (Move Request Draw)) :
    Pool Request Store Draw Op Reply Result :=
  moves.foldl (move service handle) (initial start)

end Pool

/-- The pools that some order of arrivals and steps produces from `start`. -/
inductive Runs (service : Service Store Draw Op Reply) (handle : Request → Program Op Reply Result)
    (start : Store) : Pool Request Store Draw Op Reply Result → Prop where
  | initial : Runs service handle start (Pool.initial start)
  | arrive {pool : Pool Request Store Draw Op Reply Result}
      (prior : Runs service handle start pool) (request : Request) :
      Runs service handle start (pool.arrive handle request)
  | step {pool : Pool Request Store Draw Op Reply Result}
      (prior : Runs service handle start pool) {i : Nat} {request : Request} {op : Op}
      {next : Reply op → Program Op Reply Result}
      (active : pool.clients[i]? = some ⟨request, .call op next⟩) (draw : Draw) :
      Runs service handle start (pool.advance service i request op next draw)

variable {service : Service Store Draw Op Reply} {handle : Request → Program Op Reply Result}
    {start : Store} {pool : Pool Request Store Draw Op Reply Result}

theorem Runs.move (run : Runs service handle start pool) (m : Pool.Move Request Draw) :
    Runs service handle start (pool.move service handle m) := by
  cases m with
  | arrive request => exact run.arrive request
  | step i draw =>
      simp only [Pool.move]
      split
      · next active => exact run.step active draw
      · exact run

/-- Every schedule produces a run. -/
theorem Runs.play (moves : List (Pool.Move Request Draw)) :
    Runs service handle start (Pool.play service handle start moves) := by
  unfold Pool.play
  have extend (pool : Pool Request Store Draw Op Reply Result)
      (run : Runs service handle start pool) :
      Runs service handle start (moves.foldl (Pool.move service handle) pool) := by
    induction moves generalizing pool with
    | nil => exact run
    | cons m moves ih => exact ih _ (run.move m)
  exact extend _ .initial

/-- One client executed alone is an interleaving in which nobody else moves. -/
theorem Runs.exec (run : Runs service handle start pool) {i : Nat} {request : Request}
    {program : Program Op Reply Result} (present : pool.clients[i]? = some ⟨request, program⟩)
    (draws : Stream' Draw) :
    ∃ pool', Runs service handle start pool' ∧
      pool'.Returned i request (program.exec service draws pool.store).1 ∧
      pool'.store = (program.exec service draws pool.store).2.2 ∧
      past service pool'.log i = past service pool.log i ++ program.trace service draws pool.store := by
  induction program generalizing pool draws with
  | done result => exact ⟨pool, run, present, rfl, (List.append_nil _).symm⟩
  | call op next ih =>
      have hi : i < pool.clients.length := (List.getElem?_eq_some_iff.mp present).1
      obtain ⟨pool', run', returned, hStore, hPast⟩ := ih (service draws.head pool.store op).1
        (run.step present draws.head) (by simp [Pool.advance, hi]) draws.tail
      refine ⟨pool', run', returned, hStore, hPast.trans ?_⟩
      simp [Pool.advance, past, Event.call, Program.trace]

/-! ### The log as a sequence of stores -/

namespace Pool

theorem storeAt_event {k : Nat} {event : Event Store Draw Op} (h : pool.log[k]? = some event) :
    pool.storeAt k = event.before := by
  simp [storeAt, h]

theorem storeAt_end {k : Nat} (h : pool.log.length ≤ k) : pool.storeAt k = pool.store := by
  simp [storeAt, List.getElem?_eq_none h]

@[simp] theorem storeAt_arrive (request : Request) (k : Nat) :
    (pool.arrive handle request).storeAt k = pool.storeAt k := rfl

theorem storeAt_advance {i k : Nat} {request : Request} {op : Op}
    {next : Reply op → Program Op Reply Result} {draw : Draw} (h : k ≤ pool.log.length) :
    (pool.advance service i request op next draw).storeAt k = pool.storeAt k := by
  rcases Nat.lt_or_eq_of_le h with hk | rfl
  · simp [storeAt, advance, List.getElem?_append_left hk, List.getElem?_eq_getElem hk]
  · rw [storeAt_end (Nat.le_refl _)]
    simp [storeAt, advance]

end Pool

theorem Runs.storeAt_zero (run : Runs service handle start pool) : pool.storeAt 0 = start := by
  induction run with
  | initial => rfl
  | arrive prior request ih => exact ih
  | step prior active draw ih => rw [Pool.storeAt_advance (Nat.zero_le _), ih]

/-- The store after a step is the store that the next step finds. -/
theorem Runs.storeAt_succ (run : Runs service handle start pool) {k : Nat}
    {event : Event Store Draw Op} (h : pool.log[k]? = some event) :
    pool.storeAt (k + 1) = (service event.draw event.before event.op).2 := by
  induction run with
  | initial => simp [Pool.initial] at h
  | arrive prior request ih => exact ih h
  | @step pool prior i request op next active draw ih =>
      rcases Nat.lt_or_ge k pool.log.length with hk | hk
      · rw [Pool.storeAt_advance hk]
        exact ih (by simpa [Pool.advance, List.getElem?_append_left hk] using h)
      · have hEnd : k = pool.log.length := by
          have := (List.getElem?_eq_some_iff.mp h).1
          simp only [Pool.advance, List.length_append, List.length_singleton] at this
          omega
        subst hEnd
        have hEvent : event = ⟨i, draw, pool.store, op⟩ := by
          simpa [Pool.advance] using h.symm
        rw [Pool.storeAt_end (by simp [Pool.advance]), hEvent]
        rfl

/-- Each log entry is an executed step. -/
theorem Runs.executed (run : Runs service handle start pool) {k : Nat}
    {event : Event Store Draw Op} (h : pool.log[k]? = some event) :
    pool.Executed service k event.client event.draw event.op (event.call service).reply where
  event := by rw [h, Pool.storeAt_event h]
  effect := by rw [run.storeAt_succ h, Pool.storeAt_event h]; rfl

namespace Pool.Executed

variable {k i i' : Nat} {draw draw' : Draw} {op op' : Op} {reply : Reply op} {reply' : Reply op'}

theorem unique (first : pool.Executed service k i draw op reply)
    (second : pool.Executed service k i' draw' op' reply') : i = i' ∧ op = op' := by
  have h := first.event.symm.trans second.event
  simp only [Option.some.injEq, Event.mk.injEq] at h
  exact ⟨h.1, h.2.2.2⟩

theorem of_call (step : pool.Executed service k i draw op reply)
    (h : (⟨op, reply⟩ : Call Op Reply) = ⟨op', reply'⟩) :
    pool.Executed service k i draw op' reply' := by
  cases h
  exact step

theorem reply_unique (first : pool.Executed service k i draw op reply) {reply' : Reply op}
    (second : pool.Executed service k i' draw' op reply') : reply = reply' := by
  have h := first.event.symm.trans second.event
  simp only [Option.some.injEq, Event.mk.injEq] at h
  obtain ⟨-, rfl, -⟩ := h
  exact (congrArg Prod.fst first.effect).symm.trans (congrArg Prod.fst second.effect)

theorem reply_eq (step : pool.Executed service k i draw op reply) :
    (service draw (pool.storeAt k) op).1 = reply := by rw [step.effect]

theorem after_eq (step : pool.Executed service k i draw op reply) :
    (service draw (pool.storeAt k) op).2 = pool.storeAt (k + 1) := by rw [step.effect]

theorem lt_length (step : pool.Executed service k i draw op reply) : k < pool.log.length :=
  (List.getElem?_eq_some_iff.mp step.event).1

end Pool.Executed

/-- A preorder on stores that every operation respects relates the stores of a
run in their temporal order. -/
theorem Runs.related (run : Runs service handle start pool) (related : Store → Store → Prop)
    (hRefl : ∀ store, related store store)
    (hTrans : ∀ first second third, related first second → related second third →
      related first third)
    (hStep : ∀ draw store op, related store (service draw store op).2)
    {k l : Nat} (h : k ≤ l) : related (pool.storeAt k) (pool.storeAt l) := by
  induction l, h using Nat.le_induction with
  | base => exact hRefl _
  | succ l _ ih =>
      apply hTrans _ _ _ ih
      cases hEvent : pool.log[l]? with
      | some event =>
          rw [run.storeAt_succ hEvent, Pool.storeAt_event hEvent]
          exact hStep _ _ _
      | none =>
          have hl := List.getElem?_eq_none_iff.mp hEvent
          rw [Pool.storeAt_end hl, Pool.storeAt_end (Nat.le_succ_of_le hl)]
          exact hRefl _

/-- A store property kept by every operation holds throughout a run. -/
theorem Runs.invariant (run : Runs service handle start pool) (holds : Store → Prop)
    (hStart : holds start) (hStep : ∀ draw store op, holds store → holds (service draw store op).2)
    (k : Nat) : holds (pool.storeAt k) := by
  have h := run.related (fun before after => holds before → holds after) (fun _ => id)
    (fun _ _ _ first second h => second (first h)) hStep (Nat.zero_le k)
  rw [run.storeAt_zero] at h
  exact h hStart

/-- Each row of a run that starts without rows was written by one of its steps,
and only changed since as `related` allows. -/
theorem Runs.origin {Row : Type} (run : Runs service handle start pool) (rows : Store → List Row)
    (related : Row → Row → Prop) (fresh : Draw → Store → (op : Op) → Reply op → Row → Prop)
    (hRefl : ∀ row, related row row)
    (hTrans : ∀ first second third, related first second → related second third →
      related first third)
    (hStart : rows start = [])
    (hStep : ∀ draw store op, ∀ row ∈ rows (service draw store op).2,
      (∃ old ∈ rows store, related old row) ∨ fresh draw store op (service draw store op).1 row)
    {l : Nat} {row : Row} (hMem : row ∈ rows (pool.storeAt l)) :
    ∃ k < l, ∃ i draw op reply written, pool.Executed service k i draw op reply ∧
      fresh draw (pool.storeAt k) op reply written ∧ related written row := by
  induction l generalizing row with
  | zero =>
      rw [run.storeAt_zero, hStart] at hMem
      simp at hMem
  | succ l ih =>
      -- A row of the last store is inherited, or written by the last step.
      have inherit (h : ∃ old ∈ rows (pool.storeAt l), related old row) :
          ∃ k < l + 1, ∃ i draw op reply written, pool.Executed service k i draw op reply ∧
            fresh draw (pool.storeAt k) op reply written ∧ related written row := by
        obtain ⟨old, hOld, hRelated⟩ := h
        obtain ⟨k, hk, i, draw, op, reply, written, step, hFresh, hWritten⟩ := ih hOld
        exact ⟨k, Nat.lt_succ_of_lt hk, i, draw, op, reply, written, step, hFresh,
          hTrans _ _ _ hWritten hRelated⟩
      cases hEvent : pool.log[l]? with
      | none =>
          have hl := List.getElem?_eq_none_iff.mp hEvent
          rw [Pool.storeAt_end (Nat.le_succ_of_le hl), ← Pool.storeAt_end hl] at hMem
          exact inherit ⟨row, hMem, hRefl row⟩
      | some event =>
          have step := run.executed hEvent
          rw [← step.after_eq] at hMem
          rcases hStep event.draw (pool.storeAt l) event.op row hMem with hOld | hFresh
          · exact inherit hOld
          · refine ⟨l, Nat.lt_succ_self l, event.client, event.draw, event.op, _, row, step, ?_,
              hRefl row⟩
            rwa [step.reply_eq] at hFresh

/-! ### What the clients of a run have done -/

theorem mem_past {log : List (Event Store Draw Op)} {i : Nat} {call : Call Op Reply} :
    call ∈ past service log i ↔
      ∃ event ∈ log, event.client = i ∧ event.call service = call := by
  simp [past, and_assoc]

/-- A call that a client remembers is an earlier step of the run. -/
theorem Runs.executed_of_past (run : Runs service handle start pool) {l i : Nat} {op : Op}
    {reply : Reply op} (h : ⟨op, reply⟩ ∈ past service (pool.log.take l) i) :
    ∃ k < l, ∃ draw, pool.Executed service k i draw op reply := by
  obtain ⟨event, hMem, rfl, hCall⟩ := mem_past.mp h
  obtain ⟨k, hk⟩ := List.mem_iff_getElem?.mp hMem
  have hl : k < l := by
    have := (List.getElem?_eq_some_iff.mp hk).1
    simp only [List.length_take] at this
    omega
  rw [List.getElem?_take_of_lt hl] at hk
  have step := run.executed hk
  cases hCall
  exact ⟨k, hl, event.draw, step⟩

/-- Conversely, a client remembers each of its steps. -/
theorem Pool.Executed.mem_past {k l i : Nat} {draw : Draw} {op : Op} {reply : Reply op}
    (step : pool.Executed service k i draw op reply) (h : k < l) :
    ⟨op, reply⟩ ∈ past service (pool.log.take l) i := by
  refine Interaction.mem_past.mpr
    ⟨⟨i, draw, pool.storeAt k, op⟩, List.mem_iff_getElem?.mpr ⟨k, ?_⟩, rfl, ?_⟩
  · rw [List.getElem?_take_of_lt h, step.event]
  · simp [Event.call, step.reply_eq]

theorem past_take_subset (log : List (Event Store Draw Op)) (l i : Nat) :
    past service (log.take l) i ⊆ past service log i :=
  List.map_subset _ ((List.take_sublist l log).filter _).subset

theorem Pool.Executed.mem_past_full {k i : Nat} {draw : Draw} {op : Op} {reply : Reply op}
    (step : pool.Executed service k i draw op reply) : ⟨op, reply⟩ ∈ past service pool.log i :=
  past_take_subset _ _ _ (step.mem_past step.lt_length)

/-- The step that a log entry belongs to, seen from the whole log. -/
theorem Runs.executed_of_past_full (run : Runs service handle start pool) {i : Nat} {op : Op}
    {reply : Reply op} (h : ⟨op, reply⟩ ∈ past service pool.log i) :
    ∃ k draw, pool.Executed service k i draw op reply := by
  rw [← List.take_length (l := pool.log)] at h
  obtain ⟨k, _, draw, step⟩ := run.executed_of_past h
  exact ⟨k, draw, step⟩

theorem Runs.client_lt (run : Runs service handle start pool) :
    ∀ event ∈ pool.log, event.client < pool.clients.length := by
  induction run with
  | initial => simp [Pool.initial]
  | arrive prior request ih =>
      intro event hMem
      have := ih event hMem
      simp only [Pool.arrive, List.length_append, List.length_singleton]
      omega
  | @step pool prior i request op next active draw ih =>
      intro event hMem
      rw [show (pool.advance service i request op next draw).clients.length =
        pool.clients.length by simp [Pool.advance]]
      rcases List.mem_append.mp hMem with h | h
      · exact ih event h
      · rw [List.mem_singleton.mp h]
        exact (List.getElem?_eq_some_iff.mp active).1

/-- A request may arrive at any time and then be handled alone. -/
theorem Runs.alone (run : Runs service handle start pool) (request : Request)
    (draws : Stream' Draw) :
    ∃ pool' i, Runs service handle start pool' ∧
      pool'.Returned i request ((handle request).exec service draws pool.store).1 ∧
      pool'.store = ((handle request).exec service draws pool.store).2.2 ∧
      past service pool'.log i = (handle request).trace service draws pool.store := by
  have fresh : past service pool.log pool.clients.length = [] := by
    apply List.eq_nil_iff_forall_not_mem.mpr
    intro call hMem
    obtain ⟨event, hEvent, hClient, _⟩ := mem_past.mp hMem
    exact absurd hClient (Nat.ne_of_lt (run.client_lt event hEvent))
  have present : (pool.arrive handle request).clients[pool.clients.length]? =
      some ⟨request, handle request⟩ := by simp [Pool.arrive]
  obtain ⟨pool', run', returned, hStore, hPast⟩ := (run.arrive request).exec present draws
  refine ⟨pool', _, run', returned, hStore, hPast.trans ?_⟩
  exact (congrArg (· ++ _) fresh).trans (List.nil_append _)

/-- The client has come from one program to another by these events. -/
inductive Follows (service : Service Store Draw Op Reply) :
    Program Op Reply Result → List (Event Store Draw Op) → Program Op Reply Result → Prop where
  | nil (program : Program Op Reply Result) : Follows service program [] program
  | cons {event : Event Store Draw Op} {events : List (Event Store Draw Op)}
      {next : Reply event.op → Program Op Reply Result} {program : Program Op Reply Result}
      (rest : Follows service (next (service event.draw event.before event.op).1) events program) :
      Follows service (.call event.op next) (event :: events) program

theorem Follows.snoc {first program : Program Op Reply Result} {events : List (Event Store Draw Op)}
    (follows : Follows service first events program) (event : Event Store Draw Op)
    {next : Reply event.op → Program Op Reply Result} (h : program = .call event.op next) :
    Follows service first (events ++ [event])
      (next (service event.draw event.before event.op).1) := by
  induction follows with
  | nil program =>
      subst h
      exact .cons (.nil _)
  | cons rest ih => exact .cons (ih h)

theorem Follows.obeys {allowed : List (Call Op Reply) → Op → Prop}
    {final : List (Call Op Reply) → Result → Prop} {first program : Program Op Reply Result}
    {events : List (Event Store Draw Op)} (follows : Follows service first events program)
    {calls : List (Call Op Reply)} (obeys : first.Obeys allowed final calls) :
    program.Obeys allowed final (calls ++ events.map (Event.call service)) := by
  induction follows generalizing calls with
  | nil program => simpa using obeys
  | cons rest ih => simpa [Event.call] using ih (obeys.2 _)

/-- Each client of a run follows its request by its own events. -/
theorem Runs.follows (run : Runs service handle start pool) {i : Nat}
    {client : Client Request Op Reply Result} (present : pool.clients[i]? = some client) :
    Follows service (handle client.request) (pool.log.filter fun event => event.client == i)
      client.program := by
  induction run generalizing i client with
  | initial => simp [Pool.initial] at present
  | @arrive pool prior request ih =>
      rcases Nat.lt_or_ge i pool.clients.length with hi | hi
      · exact ih (by simpa [Pool.arrive, List.getElem?_append_left hi] using present)
      · have hFresh : (pool.log.filter fun event => event.client == i) = [] := by
          apply List.filter_eq_nil_iff.mpr
          intro event hMem
          have := prior.client_lt event hMem
          simp only [beq_iff_eq]
          omega
        have hClient : client = ⟨request, handle request⟩ := by
          have hLt := (List.getElem?_eq_some_iff.mp present).1
          simp only [Pool.arrive, List.length_append, List.length_singleton] at hLt
          obtain rfl : i = pool.clients.length := by omega
          simpa [Pool.arrive] using present.symm
        subst hClient
        change Follows service (handle request) (pool.log.filter _) (handle request)
        rw [hFresh]
        exact .nil _
  | @step pool prior j request op next active draw ih =>
      let event : Event Store Draw Op := ⟨j, draw, pool.store, op⟩
      change Follows service _ ((pool.log ++ [event]).filter fun event => event.client == i) _
      rw [List.filter_append]
      by_cases h : j = i
      · subst h
        have hj := (List.getElem?_eq_some_iff.mp active).1
        have hClient : client = ⟨request, next (service draw pool.store op).1⟩ := by
          simpa [Pool.advance, hj] using present.symm
        subst hClient
        simpa [event] using (ih active).snoc event rfl
      · rw [List.filter_cons_of_neg (by simp [event, h]), List.filter_nil, List.append_nil]
        exact ih (by simpa [Pool.advance, h] using present)

/-- Protocols of single clients hold for each client of a run, whatever the
others do in between. -/
theorem Runs.obeys {allowed : Request → List (Call Op Reply) → Op → Prop}
    {final : Request → List (Call Op Reply) → Result → Prop}
    (hObeys : ∀ request, (handle request).Obeys (allowed request) (final request) [])
    (run : Runs service handle start pool) {i : Nat} {client : Client Request Op Reply Result}
    (present : pool.clients[i]? = some client) :
    client.program.Obeys (allowed client.request) (final client.request)
      (past service pool.log i) := by
  simpa [past] using (run.follows present).obeys (hObeys client.request)

/-- Each step of a run was allowed by its client's own earlier steps. -/
theorem Runs.allowed {allowed : Request → List (Call Op Reply) → Op → Prop}
    {final : Request → List (Call Op Reply) → Result → Prop}
    (hObeys : ∀ request, (handle request).Obeys (allowed request) (final request) [])
    (run : Runs service handle start pool) {k i : Nat} {draw : Draw} {op : Op} {reply : Reply op}
    (step : pool.Executed service k i draw op reply) :
    ∃ request, pool.Serves i request ∧
      allowed request (past service (pool.log.take k) i) op := by
  have hEvent := step.event
  generalize pool.storeAt k = store at hEvent
  clear step reply
  induction run with
  | initial => simp [Pool.initial] at hEvent
  | @arrive pool prior request ih =>
      obtain ⟨request', hServes, hAllowed⟩ := ih hEvent
      exact ⟨request', Pool.serves_arrive hServes, hAllowed⟩
  | @step pool prior j request op' next active draw' ih =>
      rcases Nat.lt_or_ge k pool.log.length with hk | hk
      · obtain ⟨request', hServes, hAllowed⟩ :=
          ih (by simpa [Pool.advance, List.getElem?_append_left hk] using hEvent)
        refine ⟨request', Pool.serves_advance active hServes, ?_⟩
        simpa [Pool.advance, List.take_append_of_le_length (Nat.le_of_lt hk)] using hAllowed
      · have hEnd : k = pool.log.length := by
          have := (List.getElem?_eq_some_iff.mp hEvent).1
          simp only [Pool.advance, List.length_append, List.length_singleton] at this
          omega
        subst hEnd
        simp only [Pool.advance, List.getElem?_concat_length, Option.some.injEq,
          Event.mk.injEq] at hEvent
        obtain ⟨rfl, -, -, rfl⟩ := hEvent
        refine ⟨request, Pool.serves_advance active (by simp [Pool.Serves, active]), ?_⟩
        simpa [Pool.advance] using (prior.obeys hObeys active).1

/-- A result that a client returned is supported by all of its steps. -/
theorem Runs.final {allowed : Request → List (Call Op Reply) → Op → Prop}
    {final : Request → List (Call Op Reply) → Result → Prop}
    (hObeys : ∀ request, (handle request).Obeys (allowed request) (final request) [])
    (run : Runs service handle start pool) {i : Nat} {request : Request} {result : Result}
    (returned : pool.Returned i request result) :
    final request (past service pool.log i) result :=
  run.obeys hObeys returned

end Interaction
