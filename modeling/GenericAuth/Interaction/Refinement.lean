import GenericAuth.Interaction.Pool

/-! An abstract store under the same clients. Its behaviour is a relation, so it
may leave open what a service decides. A service that stays inside the behaviour,
on stores that are seen through a view, gives its clients nothing new. -/
namespace Interaction

variable {Request Store Abstract Draw Op Result : Type} {Reply : Op → Type}

/-- Which replies an operation may receive, and which store it may leave. -/
abbrev Behaviour (Store Draw Op : Type) (Reply : Op → Type) :=
  Draw → Store → (op : Op) → Reply op → Store → Prop

/-- Each operation of the service is one of the behaviour, on the stores for
which the invariant holds. -/
structure Refines (service : Service Store Draw Op Reply) (invariant : Store → Prop)
    (view : Store → Abstract) (behaviour : Behaviour Abstract Draw Op Reply) : Prop where
  kept : ∀ draw store op, invariant store → invariant (service draw store op).2
  step : ∀ draw store op, invariant store →
    behaviour draw (view store) op (service draw store op).1 (view (service draw store op).2)

/-- An operation of a client and the reply to it, without the store. -/
structure Answer (Draw Op : Type) (Reply : Op → Type) where
  client : Nat
  draw : Draw
  op : Op
  reply : Reply op

def Event.answer (service : Service Store Draw Op Reply) (event : Event Store Draw Op) :
    Answer Draw Op Reply :=
  ⟨event.client, event.draw, event.op, (service event.draw event.before event.op).1⟩

/-- The clients, answers and stores that some order of arrivals and steps
produces from `start`, with any replies that the behaviour allows. -/
inductive Interleaving (behaviour : Behaviour Abstract Draw Op Reply)
    (handle : Request → Program Op Reply Result) (start : Abstract) :
    List (Client Request Op Reply Result) → List (Answer Draw Op Reply) → Abstract → Prop where
  | initial : Interleaving behaviour handle start [] [] start
  | arrive {clients : List (Client Request Op Reply Result)} {answers : List (Answer Draw Op Reply)}
      {store : Abstract} (prior : Interleaving behaviour handle start clients answers store)
      (request : Request) :
      Interleaving behaviour handle start (clients ++ [⟨request, handle request⟩]) answers store
  | step {clients : List (Client Request Op Reply Result)} {answers : List (Answer Draw Op Reply)}
      {store after : Abstract} (prior : Interleaving behaviour handle start clients answers store)
      {i : Nat} {request : Request} {op : Op} {next : Reply op → Program Op Reply Result}
      (active : clients[i]? = some ⟨request, .call op next⟩) {draw : Draw} {reply : Reply op}
      (allowed : behaviour draw store op reply after) :
      Interleaving behaviour handle start (clients.set i ⟨request, next reply⟩)
        (answers ++ [⟨i, draw, op, reply⟩]) after

section Simulation

variable {service : Service Store Draw Op Reply} {invariant : Store → Prop}
    {view : Store → Abstract} {behaviour : Behaviour Abstract Draw Op Reply}
    {handle : Request → Program Op Reply Result} {start : Store}
    {pool : Pool Request Store Draw Op Reply Result}

theorem Runs.invariant_end (run : Runs service handle start pool) (hStart : invariant start)
    (hStep : ∀ draw store op, invariant store → invariant (service draw store op).2) :
    invariant pool.store := by
  rw [← Pool.storeAt_end (Nat.le_refl pool.log.length)]
  exact run.invariant invariant hStart hStep pool.log.length

/-- One step of the service is one step of the behaviour. -/
theorem Refines.executed (refines : Refines service invariant view behaviour)
    (run : Runs service handle start pool) (hStart : invariant start) {k i : Nat} {draw : Draw}
    {op : Op} {reply : Reply op} (step : pool.Executed service k i draw op reply) :
    behaviour draw (view (pool.storeAt k)) op reply (view (pool.storeAt (k + 1))) := by
  have h := refines.step draw (pool.storeAt k) op (run.invariant invariant hStart refines.kept k)
  rwa [step.effect] at h

/-- The clients of a run could have had the same conversations with the abstract
store. -/
theorem Refines.interleaving (refines : Refines service invariant view behaviour)
    (run : Runs service handle start pool) (hStart : invariant start) :
    Interleaving behaviour handle (view start) pool.clients
      (pool.log.map (Event.answer service)) (view pool.store) := by
  induction run with
  | initial => exact .initial
  | arrive prior request ih => exact ih.arrive request
  | @step pool prior i request op next active draw ih =>
      have holds := prior.invariant_end hStart refines.kept
      rw [show (pool.advance service i request op next draw).log.map (Event.answer service) =
        pool.log.map (Event.answer service) ++
          [⟨i, draw, op, (service draw pool.store op).1⟩] by simp [Pool.advance, Event.answer]]
      exact ih.step active (refines.step draw pool.store op holds)

/-- What the behaviour keeps holds of the abstract store throughout a run. -/
theorem Refines.always (refines : Refines service invariant view behaviour)
    (run : Runs service handle start pool) (hStart : invariant start) {holds : Abstract → Prop}
    (hView : holds (view start))
    (hStep : ∀ draw before op reply after, behaviour draw before op reply after → holds before →
      holds after) (l : Nat) : holds (view (pool.storeAt l)) := by
  refine (run.invariant (fun store => invariant store ∧ holds (view store)) ⟨hStart, hView⟩ ?_ l).2
  rintro draw store op ⟨hInvariant, hHolds⟩
  exact ⟨refines.kept draw store op hInvariant,
    hStep _ _ _ _ _ (refines.step draw store op hInvariant) hHolds⟩

/-- A part of the abstract store that each call determines is what the calls so
far, taken in order, have made of it. -/
theorem Refines.replayed (refines : Refines service invariant view behaviour)
    (run : Runs service handle start pool) (hStart : invariant start) {Part : Type}
    (part : Abstract → Part) (apply : Part → Answer Draw Op Reply → Part)
    (hStep : ∀ i draw before op reply after, behaviour draw before op reply after →
      part after = apply (part before) ⟨i, draw, op, reply⟩) {l : Nat} (h : l ≤ pool.log.length) :
    part (view (pool.storeAt l)) =
      ((pool.log.take l).map (Event.answer service)).foldl apply (part (view start)) := by
  induction l with
  | zero => rw [run.storeAt_zero, List.take_zero, List.map_nil, List.foldl_nil]
  | succ l ih =>
      have hEvent := List.getElem?_eq_getElem h
      have hLast := hStep pool.log[l].client _ _ _ _ _
        (refines.executed run hStart (run.executed hEvent))
      rw [List.take_add_one, hEvent, Option.toList_some, List.map_append, List.map_cons,
        List.map_nil, List.foldl_append, List.foldl_cons, List.foldl_nil, ← ih (Nat.le_of_succ_le h)]
      exact hLast

end Simulation

namespace Interleaving

variable {behaviour : Behaviour Abstract Draw Op Reply} {handle : Request → Program Op Reply Result}
    {start store : Abstract} {clients : List (Client Request Op Reply Result)}
    {answers : List (Answer Draw Op Reply)}

/-- A property of the abstract store that its behaviour keeps. -/
theorem invariant (reached : Interleaving behaviour handle start clients answers store)
    {holds : Abstract → Prop} (hStart : holds start)
    (hStep : ∀ draw before op reply after, behaviour draw before op reply after → holds before →
      holds after) : holds store := by
  induction reached with
  | initial => exact hStart
  | arrive prior request ih => exact ih
  | step prior active allowed ih => exact hStep _ _ _ _ _ allowed ih

end Interleaving

end Interaction
