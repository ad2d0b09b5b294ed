import GenericAuth.Interaction.Pool
import Mathlib.Data.List.Dedup

/-! Requests that are handled one after the other, each to its end, and runs
whose clients might as well have been handled so. A client that only reads until
its last step can be moved to that step, if it would read the same there. -/
namespace Interaction

variable {Request Store Draw Op Result : Type} {Reply : Op → Type}

section History

variable (service : Service Store Draw Op Reply) (handle : Request → Program Op Reply Result)

/-- The store after a history of requests, each with draws of its own. -/
def serially : List (Request × Stream' Draw) → Store → Store
  | [], store => store
  | (request, draws) :: rest, store =>
      serially rest ((handle request).exec service draws store).2.2

/-- A property of every request of a history and of the store that it finds. -/
def Along (holds : Store → Request → Stream' Draw → Prop) :
    List (Request × Stream' Draw) → Store → Prop
  | [], _ => True
  | (request, draws) :: rest, store =>
      holds store request draws ∧
        Along holds rest ((handle request).exec service draws store).2.2

/-- What the last request of a history that gives a value gives. -/
def latest {Value : Type} (value : Store → Request → Stream' Draw → Option Value) :
    List (Request × Stream' Draw) → Store → Option Value
  | [], _ => none
  | (request, draws) :: rest, store =>
      (latest value rest ((handle request).exec service draws store).2.2).or
        (value store request draws)

variable {service handle} {holds holds' : Store → Request → Stream' Draw → Prop}

theorem Along.imp (h : ∀ store request draws, holds store request draws → holds' store request draws)
    {history : List (Request × Stream' Draw)} {store : Store}
    (along : Along service handle holds history store) :
    Along service handle holds' history store := by
  induction history generalizing store with
  | nil => trivial
  | cons step rest ih => exact ⟨h _ _ _ along.1, ih along.2⟩

theorem along_append (first second : List (Request × Stream' Draw)) (store : Store) :
    Along service handle holds (first ++ second) store ↔
      Along service handle holds first store ∧
        Along service handle holds second (serially service handle first store) := by
  induction first generalizing store with
  | nil => simp [Along, serially]
  | cons step rest ih => simp only [List.cons_append, Along, serially, ih, and_assoc]

/-- What holds at the start and is kept by each request for which the assumption
holds, holds at the end. -/
theorem Along.keeps {history : List (Request × Stream' Draw)} {store : Store}
    (along : Along service handle holds history store) (kept : Store → Prop) (hStart : kept store)
    (hStep : ∀ store request draws, holds store request draws → kept store →
      kept ((handle request).exec service draws store).2.2) :
    kept (serially service handle history store) := by
  induction history generalizing store with
  | nil => exact hStart
  | cons step rest ih => exact ih along.2 (hStep store step.1 step.2 along.1 hStart)

theorem along_of_forall {history : List (Request × Stream' Draw)}
    (h : ∀ step ∈ history, ∀ store, holds store step.1 step.2) (store : Store) :
    Along service handle holds history store := by
  induction history generalizing store with
  | nil => trivial
  | cons step rest ih =>
      exact ⟨h step List.mem_cons_self store,
        ih (fun other hMem => h other (List.mem_cons_of_mem _ hMem)) _⟩

/-- What every request keeps is kept by every history. -/
theorem serially_keeps (kept : Store → Prop) {store : Store} (hStart : kept store)
    (hStep : ∀ store request draws, kept store →
      kept ((handle request).exec service draws store).2.2)
    (history : List (Request × Stream' Draw)) : kept (serially service handle history store) := by
  have along : Along service handle (fun _ _ _ => True) history store :=
    along_of_forall (fun _ _ _ => trivial) store
  exact along.keeps kept hStart fun store request draws _ h => hStep store request draws h

/-- A store that agrees with the value given so far agrees with the latest one, if
each request makes it agree with the value that the request gives. -/
theorem Along.agrees_latest_or {Value : Type}
    {value : Store → Request → Stream' Draw → Option Value} {history : List (Request × Stream' Draw)}
    {store : Store} {given : Option Value} (along : Along service handle holds history store)
    (agrees : Store → Option Value → Prop) (hStart : agrees store given)
    (hStep : ∀ store request draws given, holds store request draws → agrees store given →
      agrees ((handle request).exec service draws store).2.2 ((value store request draws).or given)) :
    agrees (serially service handle history store)
      ((latest service handle value history store).or given) := by
  induction history generalizing store given with
  | nil => exact hStart
  | cons step rest ih =>
      rw [latest, Option.or_assoc]
      exact ih along.2 (hStep store step.1 step.2 given along.1 hStart)

theorem Along.agrees_latest {Value : Type} {value : Store → Request → Stream' Draw → Option Value}
    {history : List (Request × Stream' Draw)} {store : Store}
    (along : Along service handle holds history store) (agrees : Store → Option Value → Prop)
    (hStart : agrees store none)
    (hStep : ∀ store request draws given, holds store request draws → agrees store given →
      agrees ((handle request).exec service draws store).2.2 ((value store request draws).or given)) :
    agrees (serially service handle history store) (latest service handle value history store) := by
  have h := along.agrees_latest_or agrees hStart hStep
  rwa [Option.or_none] at h

theorem agrees_latest {Value : Type} {value : Store → Request → Stream' Draw → Option Value}
    (agrees : Store → Option Value → Prop) {store : Store} (hStart : agrees store none)
    (hStep : ∀ store request draws given, agrees store given →
      agrees ((handle request).exec service draws store).2.2 ((value store request draws).or given))
    (history : List (Request × Stream' Draw)) :
    agrees (serially service handle history store) (latest service handle value history store) := by
  have along : Along service handle (fun _ _ _ => True) history store :=
    along_of_forall (fun _ _ _ => trivial) store
  exact along.agrees_latest agrees hStart
    fun store request draws given _ => hStep store request draws given

end History

/-! ### Replies that make no difference -/

namespace Program

variable {First Second : Type} (alike : (op : Op) → Reply op → Reply op → Prop)

/-- The client goes on in the same way after replies that are alike. -/
def Stable : Program Op Reply Result → Prop
  | .done _ => True
  | .call op next => (∀ first second, alike op first second → next first = next second) ∧
      ∀ reply, Stable (next reply)

@[simp] theorem stable_done (result : Result) :
    (Program.done result : Program Op Reply Result).Stable alike := trivial

@[simp] theorem stable_call (op : Op) (next : Reply op → Program Op Reply Result) :
    (Program.call op next).Stable alike ↔
      (∀ first second, alike op first second → next first = next second) ∧
        ∀ reply, (next reply).Stable alike := Iff.rfl

variable {alike}

theorem Stable.bind {program : Program Op Reply First} {rest : First → Program Op Reply Second}
    (stable : program.Stable alike) (hRest : ∀ result, (rest result).Stable alike) :
    (program >>= rest).Stable alike := by
  induction program with
  | done result => exact hRest result
  | call op next ih =>
      refine ⟨fun first second h => ?_, fun reply => ih reply (stable.2 reply)⟩
      exact congrArg (· >>= rest) (stable.1 first second h)

theorem Stable.map {program : Program Op Reply First} (change : First → Second)
    (stable : program.Stable alike) : (change <$> program).Stable alike :=
  stable.bind fun _ => trivial

end Program

section Replay

variable {service : Service Store Draw Op Reply} {handle : Request → Program Op Reply Result}
    {start : Store} {pool : Pool Request Store Draw Op Reply Result}
    {alike : (op : Op) → Reply op → Reply op → Prop}

/-- A client whose earlier steps read, and would read alike in the store that its
last step found, has the same effect when it is executed there alone. -/
theorem Follows.replay {program : Program Op Reply Result} {events : List (Event Store Draw Op)}
    {last : Event Store Draw Op} {result : Result}
    (follows : Follows service program (events ++ [last]) (.done result))
    (stable : program.Stable alike)
    (again : ∀ event ∈ events, (service event.draw last.before event.op).2 = last.before ∧
      alike event.op (service event.draw event.before event.op).1
        (service event.draw last.before event.op).1) :
    ∃ draws, (program.exec service draws last.before).1 = result ∧
      (program.exec service draws last.before).2.2 = (service last.draw last.before last.op).2 := by
  induction events generalizing program with
  | nil =>
      cases follows with
      | @cons _ _ next _ rest =>
          generalize hNext : next (service last.draw last.before last.op).1 = program at rest
          cases rest
          refine ⟨Stream'.const last.draw, ?_⟩
          simp [hNext]
  | cons event events ih =>
      cases follows with
      | @cons _ _ next _ rest =>
          obtain ⟨hStore, hAlike⟩ := again event List.mem_cons_self
          obtain ⟨draws, hResult, hAfter⟩ := ih rest (stable.2 _)
            fun event hMem => again event (List.mem_cons_of_mem _ hMem)
          have same := stable.1 _ _ hAlike
          refine ⟨Stream'.cons event.draw draws, ?_⟩
          simp only [Program.exec_call, Stream'.head_cons, Stream'.tail_cons, hStore, ← same]
          exact ⟨hResult, hAfter⟩

/-- The clients in this order, each executed alone with a result that agrees with
the one it has in the pool, lead from one store to the other. -/
inductive Serially (service : Service Store Draw Op Reply)
    (handle : Request → Program Op Reply Result) (agrees : Result → Result → Prop)
    (pool : Pool Request Store Draw Op Reply Result) : Store → List Nat → Store → Prop where
  | nil (store : Store) : Serially service handle agrees pool store [] store
  | cons {store after : Store} {i : Nat} {order : List Nat} {request : Request} {result : Result}
      (draws : Stream' Draw) (returned : pool.Returned i request result)
      (alone : agrees ((handle request).exec service draws store).1 result)
      (rest : Serially service handle agrees pool
        ((handle request).exec service draws store).2.2 order after) :
      Serially service handle agrees pool store (i :: order) after

/-- Some order of all clients leads to the same store and to results that agree. -/
def Pool.Serialisable (service : Service Store Draw Op Reply)
    (handle : Request → Program Op Reply Result) (agrees : Result → Result → Prop)
    (same : Store → Store → Prop) (start : Store) (pool : Pool Request Store Draw Op Reply Result) :
    Prop :=
  ∃ order after, order.Perm (List.range pool.clients.length) ∧
    Serially service handle agrees pool start order after ∧ same after pool.store

/-- Client `i` has made step `k`, and none after it. -/
structure Pool.Ends (pool : Pool Request Store Draw Op Reply Result) (k i : Nat) : Prop where
  step : pool.log[k]?.map Event.client = some i
  last : ∀ l, k < l → pool.log[l]?.map Event.client ≠ some i

/-- Every client has finished, has read until its last step, and would have read
alike in the store that its last step found. -/
structure Movable (service : Service Store Draw Op Reply)
    (handle : Request → Program Op Reply Result)
    (alike : Request → (op : Op) → Reply op → Reply op → Prop)
    (pool : Pool Request Store Draw Op Reply Result) : Prop where
  finished : ∀ i < pool.clients.length, ∃ request result, pool.Returned i request result
  stable : ∀ i request, pool.Serves i request → (handle request).Stable (alike request)
  quiet : ∀ k l i draw draw' op op' reply reply', l < k →
    pool.Executed service l i draw op reply → pool.Executed service k i draw' op' reply' →
    pool.storeAt (l + 1) = pool.storeAt l
  again : ∀ k l i request draw op reply, pool.Ends k i → l < k → pool.Serves i request →
    pool.Executed service l i draw op reply →
    (service draw (pool.storeAt k) op).2 = pool.storeAt k ∧
      alike request op reply (service draw (pool.storeAt k) op).1

variable {alike : Request → (op : Op) → Reply op → Reply op → Prop}

/-- At its last step a client could have been executed alone. -/
theorem Runs.alone_at_end (run : Runs service handle start pool)
    (movable : Movable service handle alike pool) {earlier later : List (Event Store Draw Op)}
    {event : Event Store Draw Op} (hLog : pool.log = earlier ++ event :: later)
    (hMem : event.client ∉ later.map Event.client) {request : Request} {result : Result}
    (returned : pool.Returned event.client request result) :
    ∃ draws, ((handle request).exec service draws (pool.storeAt earlier.length)).1 = result ∧
      ((handle request).exec service draws (pool.storeAt earlier.length)).2.2 =
        (service event.draw (pool.storeAt earlier.length) event.op).2 := by
  have hEvent : pool.log[earlier.length]? = some event := by simp [hLog]
  have ends : pool.Ends earlier.length event.client := by
    refine ⟨by simp [hEvent], fun l hl h => hMem ?_⟩
    obtain ⟨event', hEvent', hClient⟩ := Option.map_eq_some_iff.mp h
    rw [hLog, List.getElem?_append_right (Nat.le_of_lt hl),
      show l - earlier.length = l - earlier.length - 1 + 1 by omega, List.getElem?_cons_succ]
      at hEvent'
    exact List.mem_map.mpr ⟨event', List.mem_of_getElem? hEvent', hClient⟩
  have follows := run.follows returned
  have hLater : (later.filter fun other => other.client == event.client) = [] := by
    refine List.filter_eq_nil_iff.mpr fun other hOther hClient => hMem ?_
    exact List.mem_map.mpr ⟨other, hOther, beq_iff_eq.mp hClient⟩
  rw [hLog, List.filter_append, List.filter_cons_of_pos (by simp), hLater] at follows
  rw [Pool.storeAt_event hEvent]
  apply follows.replay (movable.stable _ _ returned.serves)
  intro other hOther
  obtain ⟨hEarlier, hClient⟩ := List.mem_filter.mp hOther
  obtain ⟨l, hl⟩ := List.mem_iff_getElem?.mp hEarlier
  have hLt := (List.getElem?_eq_some_iff.mp hl).1
  have hOther : pool.log[l]? = some other := by rw [hLog, List.getElem?_append_left hLt, hl]
  have step := run.executed hOther
  rw [beq_iff_eq.mp hClient] at step
  have h := movable.again _ _ _ _ _ _ _ ends hLt returned.serves step
  rwa [Pool.storeAt_event hEvent] at h

/-- The clients that a part of the log is about, in the order of their last steps. -/
theorem Runs.serially_log (run : Runs service handle start pool)
    (movable : Movable service handle alike pool) (later earlier : List (Event Store Draw Op))
    (hLog : pool.log = earlier ++ later) :
    Serially service handle Eq pool (pool.storeAt earlier.length) (later.map Event.client).dedup
      pool.store := by
  induction later generalizing earlier with
  | nil =>
      rw [List.append_nil] at hLog
      rw [← hLog, Pool.storeAt_end (Nat.le_refl _)]
      exact .nil pool.store
  | cons event later ih =>
      have hEvent : pool.log[earlier.length]? = some event := by simp [hLog]
      have step := run.executed hEvent
      have rest := ih (earlier ++ [event]) (by simp [hLog])
      rw [List.length_append, List.length_singleton] at rest
      rw [List.map_cons]
      by_cases hMem : event.client ∈ later.map Event.client
      · rw [List.dedup_cons_of_mem hMem]
        obtain ⟨event', hLater, hClient⟩ := List.mem_map.mp hMem
        obtain ⟨l, hl⟩ := List.mem_iff_getElem?.mp hLater
        have hEvent' : pool.log[earlier.length + 1 + l]? = some event' := by
          rw [hLog, List.getElem?_append_right (by omega),
            show earlier.length + 1 + l - earlier.length = l + 1 by omega, List.getElem?_cons_succ]
          exact hl
        have step' := run.executed hEvent'
        rw [hClient] at step'
        rwa [movable.quiet _ _ _ _ _ _ _ _ _ (by omega) step step'] at rest
      · rw [List.dedup_cons_of_notMem hMem]
        obtain ⟨request, result, returned⟩ :=
          movable.finished event.client (run.client_lt event (List.mem_of_getElem? hEvent))
        obtain ⟨draws, hResult, hAfter⟩ := run.alone_at_end movable hLog hMem returned
        refine .cons draws returned hResult ?_
        rwa [hAfter, step.after_eq]

/-- The clients without a step find their result at once. -/
theorem Runs.serially_idle [Nonempty Draw] (run : Runs service handle start pool)
    (movable : Movable service handle alike pool) (idle : List Nat)
    (hIdle : ∀ i ∈ idle, i < pool.clients.length) :
    Serially service handle Eq pool start (idle ++ pool.log.map Event.client).dedup pool.store := by
  induction idle with
  | nil =>
      have h := run.serially_log movable pool.log [] rfl
      rwa [List.length_nil, run.storeAt_zero] at h
  | cons i idle ih =>
      have rest := ih fun j hMem => hIdle j (List.mem_cons_of_mem _ hMem)
      rw [List.cons_append]
      by_cases hMem : i ∈ idle ++ pool.log.map Event.client
      · rwa [List.dedup_cons_of_mem hMem]
      · rw [List.dedup_cons_of_notMem hMem]
        obtain ⟨request, result, returned⟩ := movable.finished i (hIdle i List.mem_cons_self)
        have hNone : (pool.log.filter fun event => event.client == i) = [] := by
          refine List.filter_eq_nil_iff.mpr fun event hEvent hClient => hMem ?_
          exact List.mem_append_right _ (List.mem_map.mpr ⟨event, hEvent, beq_iff_eq.mp hClient⟩)
        have follows := run.follows returned
        rw [hNone] at follows
        generalize hProgram : handle request = program at follows
        cases follows
        obtain ⟨draw⟩ := ‹Nonempty Draw›
        exact .cons (Stream'.const draw) returned (by simp [hProgram]) (by simpa [hProgram] using rest)

/-- Such a run is equivalent to its clients in some order, one after the other. -/
theorem Runs.serialisable [Nonempty Draw] (run : Runs service handle start pool)
    (movable : Movable service handle alike pool) :
    pool.Serialisable service handle Eq Eq start := by
  refine ⟨_, _, ?_, run.serially_idle movable (List.range pool.clients.length)
    fun i => List.mem_range.mp, rfl⟩
  apply (List.perm_ext_iff_of_nodup (List.nodup_dedup _) List.nodup_range).mpr
  intro i
  rw [List.mem_dedup, List.mem_append, or_iff_left_of_imp]
  intro hMem
  obtain ⟨event, hEvent, rfl⟩ := List.mem_map.mp hMem
  exact List.mem_range.mpr (run.client_lt event hEvent)

end Replay

end Interaction
