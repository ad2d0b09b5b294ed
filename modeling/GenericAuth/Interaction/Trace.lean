import GenericAuth.Interaction.Course

/-! The calls of a client that is executed alone, and the chain of stores that
they lead through. -/
namespace Interaction

variable {Store Draw Op Result : Type} {Reply : Op → Type}

/-- Each call found the store that the call before it had left. -/
inductive Traced (service : Service Store Draw Op Reply) :
    Store → List (Call Op Reply) → Store → Prop where
  | nil (store : Store) : Traced service store [] store
  | cons {store after : Store} {op : Op} {calls : List (Call Op Reply)} (draw : Draw)
      (rest : Traced service (service draw store op).2 calls after) :
      Traced service store (⟨op, (service draw store op).1⟩ :: calls) after

namespace Program

variable (service : Service Store Draw Op Reply)

/-- The calls of an execution, oldest first. -/
def trace : Program Op Reply Result → Stream' Draw → Store → List (Call Op Reply)
  | .done _, _, _ => []
  | .call op next, draws, store =>
      ⟨op, (service draws.head store op).1⟩ ::
        (next (service draws.head store op).1).trace draws.tail (service draws.head store op).2

theorem traced_exec (program : Program Op Reply Result) (draws : Stream' Draw) (store : Store) :
    Traced service store (program.trace service draws store)
      (program.exec service draws store).2.2 := by
  induction program generalizing draws store with
  | done result => exact .nil store
  | call op next ih => exact .cons draws.head (ih _ draws.tail _)

/-- Each call was answered with one of the draws. -/
theorem mem_trace {program : Program Op Reply Result} {draws : Stream' Draw} {store : Store}
    {op : Op} {reply : Reply op} (hMem : ⟨op, reply⟩ ∈ program.trace service draws store) :
    ∃ n found, (service (draws.get n) found op).1 = reply := by
  induction program generalizing draws store with
  | done result => cases hMem
  | call op' next ih =>
      rcases List.mem_cons.mp hMem with h | h
      · cases h
        exact ⟨0, store, rfl⟩
      · obtain ⟨n, found, hReply⟩ := ih _ h
        exact ⟨n + 1, found, hReply⟩

/-- The first call was answered with the first draw. -/
theorem trace_cons {program : Program Op Reply Result} {draws : Stream' Draw} {store : Store}
    {op : Op} {reply : Reply op} {rest : List (Call Op Reply)}
    (h : program.trace service draws store = ⟨op, reply⟩ :: rest) :
    (service draws.head store op).1 = reply ∧ ∃ program' : Program Op Reply Result,
      program'.trace service draws.tail (service draws.head store op).2 = rest := by
  cases program with
  | done result => cases h
  | call op' next =>
      obtain ⟨hCall, hRest⟩ := List.cons.inj h
      cases hCall
      exact ⟨rfl, _, hRest⟩

theorem trace_bind {First : Type} (program : Program Op Reply First)
    (rest : First → Program Op Reply Result) (draws : Stream' Draw) (store : Store) :
    (program >>= rest).trace service draws store = program.trace service draws store ++
      (rest (program.exec service draws store).1).trace service
        (program.exec service draws store).2.1 (program.exec service draws store).2.2 := by
  induction program generalizing draws store with
  | done result => rfl
  | call op next ih => exact congrArg (List.cons _) (ih _ _ _)

/-- An execution takes one of the courses of its program. -/
theorem Takes.exec {course : List (Call Op Reply) → Result → Prop}
    {program : Program Op Reply Result} (takes : program.Takes course) (draws : Stream' Draw)
    (store : Store) :
    course (program.trace service draws store) (program.exec service draws store).1 := by
  induction program generalizing course draws store with
  | done result => exact takes
  | call op next ih => exact ih _ (takes _) draws.tail _

/-- The result of an execution is supported by its calls. -/
theorem Obeys.exec {allowed : List (Call Op Reply) → Op → Prop}
    {final : List (Call Op Reply) → Result → Prop} {program : Program Op Reply Result}
    {past : List (Call Op Reply)} (obeys : program.Obeys allowed final past)
    (draws : Stream' Draw) (store : Store) :
    final (past ++ program.trace service draws store) (program.exec service draws store).1 := by
  induction program generalizing past draws store with
  | done result => simpa [trace] using obeys
  | call op next ih =>
      have h := ih _ (obeys.2 (service draws.head store op).1) draws.tail
        (service draws.head store op).2
      simpa [trace] using h

/-- Each call of an execution was allowed by the calls before it. -/
theorem Obeys.trace {allowed : List (Call Op Reply) → Op → Prop}
    {final : List (Call Op Reply) → Result → Prop} {program : Program Op Reply Result}
    {past : List (Call Op Reply)} (obeys : program.Obeys allowed final past)
    {draws : Stream' Draw} {store : Store} {first rest : List (Call Op Reply)} {call : Call Op Reply}
    (h : program.trace service draws store = first ++ call :: rest) :
    allowed (past ++ first) call.op := by
  induction program generalizing past draws store first with
  | done result => simp [Program.trace] at h
  | call op next ih =>
      cases first with
      | nil =>
          obtain ⟨rfl, _⟩ := List.cons.inj h
          rw [List.append_nil]
          exact obeys.1
      | cons other first =>
          obtain ⟨rfl, hRest⟩ := List.cons.inj h
          have h := ih _ (obeys.2 _) hRest
          rwa [List.append_assoc, List.singleton_append] at h

end Program

variable {service : Service Store Draw Op Reply} {before after : Store}
    {calls : List (Call Op Reply)}

/-- A preorder on stores that every operation respects relates the stores
around each call. -/
theorem Traced.mem (traced : Traced service before calls after) (related : Store → Store → Prop)
    (hRefl : ∀ store, related store store)
    (hTrans : ∀ first second third, related first second → related second third →
      related first third)
    (hStep : ∀ draw store op, related store (service draw store op).2) {op : Op} {reply : Reply op}
    (hMem : ⟨op, reply⟩ ∈ calls) :
    ∃ draw store, related before store ∧ (service draw store op).1 = reply ∧
      related (service draw store op).2 after := by
  have whole {before after : Store} {calls : List (Call Op Reply)}
      (traced : Traced service before calls after) : related before after := by
    induction traced with
    | nil store => exact hRefl store
    | cons draw rest ih => exact hTrans _ _ _ (hStep _ _ _) ih
  induction traced with
  | nil store => cases hMem
  | @cons store after op' calls draw rest ih =>
      rcases List.mem_cons.mp hMem with hHead | hRest
      · cases hHead
        exact ⟨draw, store, hRefl store, rfl, whole rest⟩
      · obtain ⟨draw', store', hBefore, hReply, hAfter⟩ := ih hRest
        exact ⟨draw', store', hTrans _ _ _ (hStep _ _ _) hBefore, hReply, hAfter⟩

/-- The two parts of a chain of stores. -/
theorem Traced.of_append {first second : List (Call Op Reply)}
    (traced : Traced service before (first ++ second) after) :
    ∃ middle, Traced service before first middle ∧ Traced service middle second after := by
  induction first generalizing before with
  | nil => exact ⟨before, .nil before, traced⟩
  | cons call first ih =>
      cases traced with
      | cons draw rest =>
          obtain ⟨middle, early, late⟩ := ih rest
          exact ⟨middle, .cons draw early, late⟩

/-- The chain up to the `n`-th call and the chain from there. -/
theorem Traced.split (traced : Traced service before calls after) (n : Nat) :
    ∃ middle, Traced service before (calls.take n) middle ∧
      Traced service middle (calls.drop n) after := by
  rw [← List.take_append_drop n calls] at traced
  exact traced.of_append

/-- What holds of the first store and is kept by each call holds of the last one.
A call may rely on what the calls before it have seen. -/
theorem Traced.keeps (traced : Traced service before calls after) (holds : Store → Prop)
    (hStart : holds before)
    (hStep : ∀ first rest draw store op, calls = first ++ ⟨op, (service draw store op).1⟩ :: rest →
      Traced service before first store → Traced service (service draw store op).2 rest after →
      holds store → holds (service draw store op).2) : holds after := by
  induction traced with
  | nil store => exact hStart
  | @cons store after op calls draw rest ih =>
      apply ih (hStep [] calls draw store op rfl (.nil store) rest hStart)
      intro first rest' draw' store' op' hCalls early late h
      exact hStep (_ :: first) rest' draw' store' op' (by rw [hCalls, List.cons_append])
        (.cons draw early) late h

section Writes

variable {wrote : Call Op Reply → Bool}
    (hQuiet : ∀ draw store op, wrote ⟨op, (service draw store op).1⟩ = false →
      (service draw store op).2 = store)

include hQuiet

/-- Only the calls that write lead from one store to another. -/
theorem Traced.writes (traced : Traced service before calls after) :
    Traced service before (calls.filter wrote) after := by
  induction traced with
  | nil store => exact .nil store
  | @cons store after op calls draw rest ih =>
      cases h : wrote ⟨op, (service draw store op).1⟩ with
      | true =>
          rw [List.filter_cons_of_pos h]
          exact .cons draw ih
      | false =>
          rw [List.filter_cons_of_neg (by simp [h])]
          rwa [hQuiet draw store op h] at ih

/-- A call that did not write left the store to the next one. -/
theorem Traced.of_cons_quiet {op : Op} {reply : Reply op}
    (traced : Traced service before (⟨op, reply⟩ :: calls) after)
    (none : wrote ⟨op, reply⟩ = false) :
    ∃ draw, service draw before op = (reply, before) ∧ Traced service before calls after := by
  cases traced with
  | cons draw rest =>
      have same := hQuiet draw before op none
      rw [same] at rest
      exact ⟨draw, Prod.ext rfl same, rest⟩

/-- Without writes every call was answered by the one store. -/
theorem Traced.reply_of_quiet (traced : Traced service before calls after)
    (none : calls.filter wrote = []) {op : Op} {reply : Reply op} (hMem : ⟨op, reply⟩ ∈ calls) :
    ∃ draw, service draw before op = (reply, before) := by
  induction traced with
  | nil store => cases hMem
  | @cons store after op' calls draw rest ih =>
      have hHead : wrote ⟨op', (service draw store op').1⟩ = false := by
        simpa using List.filter_eq_nil_iff.mp none _ List.mem_cons_self
      rw [List.filter_cons_of_neg (by simp [hHead])] at none
      have same := hQuiet draw store op' hHead
      rcases List.mem_cons.mp hMem with h | h
      · cases h
        exact ⟨draw, Prod.ext rfl same⟩
      · rw [← same]
        exact ih none h

end Writes

theorem Traced.eq_of_nil (traced : Traced service before [] after) : after = before := by
  cases traced
  rfl

theorem Traced.of_cons {op : Op} {reply : Reply op}
    (traced : Traced service before (⟨op, reply⟩ :: calls) after) :
    ∃ draw middle, service draw before op = (reply, middle) ∧
      Traced service middle calls after := by
  cases traced with
  | cons draw rest => exact ⟨draw, _, rfl, rest⟩

end Interaction
