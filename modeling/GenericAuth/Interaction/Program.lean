import Mathlib.Data.Stream.Init

/-! Clients of a shared service as finite interaction trees. A client finishes,
or asks for one operation and continues with the reply. Nothing here fixes the
operations or the service that answers them. -/
namespace Interaction

/-- The continuation sees only the reply, so all that a client knows about the
shared store passes through its calls. -/
inductive Program (Op : Type) (Reply : Op → Type) (Result : Type) where
  | done (result : Result)
  | call (op : Op) (next : Reply op → Program Op Reply Result)

/-- An operation together with the reply it received. -/
structure Call (Op : Type) (Reply : Op → Type) where
  op : Op
  reply : Reply op

/-- A service answers one operation atomically. Everything it does not compute
itself (clocks, random bits, failures) is read from the draw. -/
abbrev Service (Store Draw Op : Type) (Reply : Op → Type) :=
  Draw → Store → (op : Op) → Reply op × Store

namespace Program

variable {Op : Type} {Reply : Op → Type} {Result First Second : Type}

protected def bind : Program Op Reply First → (First → Program Op Reply Second) →
    Program Op Reply Second
  | .done result, rest => rest result
  | .call op next, rest => .call op fun reply => (next reply).bind rest

instance : Monad (Program Op Reply) where
  pure := .done
  bind := Program.bind

/-- Ask for a single operation and return its reply. -/
def perform (op : Op) : Program Op Reply (Reply op) := .call op .done

@[simp] theorem done_bind (result : First) (rest : First → Program Op Reply Second) :
    (Program.done result >>= rest) = rest result := rfl

@[simp] theorem call_bind (op : Op) (next : Reply op → Program Op Reply First)
    (rest : First → Program Op Reply Second) :
    (Program.call op next >>= rest) = .call op fun reply => next reply >>= rest := rfl

@[simp] theorem perform_bind (op : Op) (rest : Reply op → Program Op Reply Second) :
    (perform op >>= rest) = .call op rest := rfl

theorem bind_done (program : Program Op Reply Result) :
    (program >>= Program.done) = program := by
  induction program with
  | done result => rfl
  | call op next ih => rw [call_bind]; exact congrArg _ (funext ih)

theorem bind_assoc {Third : Type} (program : Program Op Reply First)
    (second : First → Program Op Reply Second) (third : Second → Program Op Reply Third) :
    (program >>= second) >>= third = program >>= fun result => second result >>= third := by
  induction program with
  | done result => rfl
  | call op next ih => simp only [call_bind, ih]

instance : LawfulMonad (Program Op Reply) :=
  LawfulMonad.mk' _ bind_done (fun _ _ => rfl) bind_assoc

@[simp] theorem map_done (change : First → Second) (result : First) :
    (change <$> Program.done result : Program Op Reply Second) = .done (change result) := rfl

@[simp] theorem map_call (change : First → Second) (op : Op)
    (next : Reply op → Program Op Reply First) :
    change <$> Program.call op next = .call op fun reply => change <$> next reply := rfl

/-! ### Courses -/

/-- With some replies the program performs these calls and ends with this result. -/
inductive Performs : Program Op Reply Result → List (Call Op Reply) → Result → Prop where
  | done (result : Result) : Performs (.done result) [] result
  | call {op : Op} {next : Reply op → Program Op Reply Result} {reply : Reply op}
      {calls : List (Call Op Reply)} {result : Result} (rest : Performs (next reply) calls result) :
      Performs (.call op next) (⟨op, reply⟩ :: calls) result

/-! ### Protocols -/

section Obeys

variable (allowed : List (Call Op Reply) → Op → Prop)
    (final final' : List (Call Op Reply) → Result → Prop)

/-- Whatever the replies are, the client asks only for operations that its own
earlier calls allow, and it finishes only with results that they support. -/
def Obeys : Program Op Reply Result → List (Call Op Reply) → Prop
  | .done result, past => final past result
  | .call op next, past =>
      allowed past op ∧ ∀ reply, Obeys (next reply) (past ++ [⟨op, reply⟩])

@[simp] theorem obeys_done (result : Result) (past : List (Call Op Reply)) :
    (Program.done result).Obeys allowed final past ↔ final past result := Iff.rfl

@[simp] theorem obeys_call (op : Op) (next : Reply op → Program Op Reply Result)
    (past : List (Call Op Reply)) :
    (Program.call op next).Obeys allowed final past ↔
      allowed past op ∧ ∀ reply, (next reply).Obeys allowed final (past ++ [⟨op, reply⟩]) :=
  Iff.rfl

/-- A sequence obeys a protocol when its first part does, with the protocol of
the rest as the condition on the intermediate result. -/
@[simp] theorem obeys_bind (final : List (Call Op Reply) → Second → Prop)
    (program : Program Op Reply First) (rest : First → Program Op Reply Second)
    (past : List (Call Op Reply)) :
    (program >>= rest).Obeys allowed final past ↔
      program.Obeys allowed (fun calls result => (rest result).Obeys allowed final calls) past := by
  induction program generalizing past with
  | done result => rfl
  | call op next ih =>
      simp only [call_bind, obeys_call, ih]

@[simp] theorem obeys_map (final : List (Call Op Reply) → Second → Prop)
    (change : First → Second) (program : Program Op Reply First) (past : List (Call Op Reply)) :
    (change <$> program).Obeys allowed final past ↔
      program.Obeys allowed (fun calls result => final calls (change result)) past :=
  obeys_bind allowed final program _ past

variable {allowed final final'}

theorem Obeys.imp {program : Program Op Reply Result} {past : List (Call Op Reply)}
    (obeys : program.Obeys allowed final past)
    (hFinal : ∀ calls result, final calls result → final' calls result) :
    program.Obeys allowed final' past := by
  induction program generalizing past with
  | done result => exact hFinal past result obeys
  | call op next ih => exact ⟨obeys.1, fun reply => ih reply (obeys.2 reply)⟩

/-- Whoever allows more is obeyed too. -/
theorem Obeys.guard {allowed' : List (Call Op Reply) → Op → Prop}
    {program : Program Op Reply Result} {past : List (Call Op Reply)}
    (obeys : program.Obeys allowed final past)
    (hAllowed : ∀ calls op, allowed calls op → allowed' calls op) :
    program.Obeys allowed' final past := by
  induction program generalizing past with
  | done result => exact obeys
  | call op next ih => exact ⟨hAllowed past op obeys.1, fun reply => ih reply (obeys.2 reply)⟩

/-- Every client obeys a protocol that allows everything. -/
theorem obeys_of_always (hAllowed : ∀ calls op, allowed calls op)
    (hFinal : ∀ calls result, final calls result) (program : Program Op Reply Result)
    (past : List (Call Op Reply)) : program.Obeys allowed final past := by
  induction program generalizing past with
  | done result => exact hFinal past result
  | call op next ih => exact ⟨hAllowed past op, fun reply => ih reply _⟩

end Obeys

/-! ### Execution by one client alone -/

variable {Store Draw : Type} (service : Service Store Draw Op Reply)

/-- Run a client to its end with no other client in between. The unused draws
are returned, so that sequences of programs share one stream. -/
def exec : Program Op Reply Result → Stream' Draw → Store → Result × Stream' Draw × Store
  | .done result, draws, store => (result, draws, store)
  | .call op next, draws, store =>
      (next (service draws.head store op).1).exec draws.tail (service draws.head store op).2

@[simp] theorem exec_done (result : Result) (draws : Stream' Draw) (store : Store) :
    (Program.done result : Program Op Reply Result).exec service draws store =
      (result, draws, store) := rfl

@[simp] theorem exec_call (op : Op) (next : Reply op → Program Op Reply Result)
    (draws : Stream' Draw) (store : Store) :
    (Program.call op next).exec service draws store =
      (next (service draws.head store op).1).exec service draws.tail
        (service draws.head store op).2 := rfl

theorem exec_bind (program : Program Op Reply First) (rest : First → Program Op Reply Second)
    (draws : Stream' Draw) (store : Store) :
    (program >>= rest).exec service draws store =
      (rest (program.exec service draws store).1).exec service
        (program.exec service draws store).2.1 (program.exec service draws store).2.2 := by
  induction program generalizing draws store with
  | done result => rfl
  | call op next ih => simp only [call_bind, exec_call, ih]

theorem exec_map (change : First → Second) (program : Program Op Reply First)
    (draws : Stream' Draw) (store : Store) :
    (change <$> program).exec service draws store =
      (change (program.exec service draws store).1, (program.exec service draws store).2) :=
  exec_bind service program _ draws store

end Program
end Interaction
