import GenericAuth.Interaction.Program

/-! Clients that are answered in another monad. A handler performs one operation there,
and a client becomes the sequence of its operations. -/
namespace Interaction

variable {Op Result First Second Error Wider : Type} {Reply : Op → Type} {m : Type → Type} [Monad m]
    (handler : (op : Op) → m (Reply op))

namespace Program

def interpret : Program Op Reply Result → m Result
  | .done result => pure result
  | .call op next => handler op >>= fun reply => (next reply).interpret

theorem interpret_bind [LawfulMonad m] (program : Program Op Reply First)
    (rest : First → Program Op Reply Second) :
    (program >>= rest).interpret handler =
      program.interpret handler >>= fun result => (rest result).interpret handler := by
  induction program with
  | done result => simp [interpret]
  | call op next ih => simp [interpret, ih]

theorem interpret_map [LawfulMonad m] (change : First → Second)
    (program : Program Op Reply First) :
    (change <$> program).interpret handler = change <$> program.interpret handler := by
  rw [map_eq_pure_bind, map_eq_pure_bind, interpret_bind]
  rfl

end Program

/-- A client that can fail, answered in another monad. -/
def interpretExcept (program : ExceptT Error (Program Op Reply) Result) : ExceptT Error m Result :=
  ExceptT.mk (program.run.interpret handler)

@[simp] theorem interpretExcept_pure (result : Result) :
    interpretExcept handler (pure result : ExceptT Error (Program Op Reply) Result) =
      pure result := rfl

@[simp] theorem interpretExcept_throw (error : Error) :
    interpretExcept handler (throw error : ExceptT Error (Program Op Reply) Result) =
      throw error := rfl

variable [LawfulMonad m]

@[simp] theorem interpretExcept_bind (program : ExceptT Error (Program Op Reply) First)
    (rest : First → ExceptT Error (Program Op Reply) Second) :
    interpretExcept handler (program >>= rest) =
      interpretExcept handler program >>= fun result => interpretExcept handler (rest result) := by
  apply ExceptT.ext
  rw [ExceptT.run_bind]
  change Program.interpret handler (program >>= rest).run = _
  rw [ExceptT.run_bind, Program.interpret_bind]
  apply bind_congr
  rintro (error | result) <;> rfl

@[simp] theorem interpretExcept_map (change : First → Second)
    (program : ExceptT Error (Program Op Reply) First) :
    interpretExcept handler (change <$> program) = change <$> interpretExcept handler program := by
  rw [map_eq_pure_bind, map_eq_pure_bind, interpretExcept_bind]
  rfl

/-- Lifting a client that cannot fail. -/
@[simp] theorem interpretExcept_lift (program : Program Op Reply Result) :
    interpretExcept handler (liftM program : ExceptT Error (Program Op Reply) Result) =
      liftM (program.interpret handler) := by
  apply ExceptT.ext
  change Program.interpret handler (Except.ok <$> program) = Except.ok <$> program.interpret handler
  rw [Program.interpret_map]

/-- Lifting a client with errors of another type. -/
@[simp] theorem interpretExcept_adapt (widen : Error → Wider)
    (program : ExceptT Error (Program Op Reply) Result) :
    interpretExcept handler (ExceptT.adapt widen program) =
      ExceptT.adapt widen (interpretExcept handler program) :=
  ExceptT.ext (Program.interpret_map handler (Except.mapError widen) program.run)

end Interaction
