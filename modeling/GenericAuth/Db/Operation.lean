import GenericAuth.Core.Error
import GenericAuth.Interaction.Program
import GenericAuth.Db.Statement

/-! The operations of the server: its SQL statements, and what else it asks of
its surroundings. Each is one step of an interleaving. -/
namespace GenericAuth

open Interaction

/-- Everything that a handler awaits, or draws from outside the program. Between two
of these other clients may act. -/
inductive Op where
  | sql (statement : Statement)
  | nowUtc
  | randomBytes
  | newV4
  | saltGenerate
  /-- Token exchange and userinfo request at the identity provider. -/
  | exchangeCode (code : String)
  /-- A mail handed to a background task, whose outcome nobody awaits. -/
  | sendMail (toEmail subject body : String)
  deriving DecidableEq, Repr

@[reducible] def Op.Reply : Op → Type
  | .sql statement => SqlResult statement.Rows
  | .nowUtc => OffsetDateTime
  | .randomBytes => BitVec 256
  | .newV4 => Uuid
  | .saltGenerate => String
  | .exchangeCode _ => Except String GoogleProfile
  | .sendMail .. => Unit

/-- One atomic step. A statement that the draw lets fail changes nothing, and
only statements reach the tables. -/
def answer [External] : Service Db Draw Op Op.Reply
  | draw, db, .sql statement =>
      match draw.fault with
      | some error => (.error error, db)
      | none => db.exec draw statement
  | draw, db, .nowUtc => (draw.now, db)
  | draw, db, .randomBytes => (draw.bytes, db)
  | draw, db, .newV4 => (draw.uuid, db)
  | draw, db, .saltGenerate => (draw.salt, db)
  | draw, db, .exchangeCode _ => (draw.profile, db)
  | _, db, .sendMail .. => ((), db)

/-- A handler, up to its next operation. -/
abbrev Server := Program Op Op.Reply

/-! ### Error conversion, as the `?` operator does it -/

inductive DbError where
  | sqlx (error : SqlxError)
  | migrate (message : String)
  deriving DecidableEq, Repr

def DbError.display : DbError → String
  | .sqlx error => "sqlx: " ++ error.display
  | .migrate message => "migrate: " ++ message

/-- A missing row is the only error that keeps its meaning on the way out. -/
def AppError.ofDbError : DbError → AppError
  | .sqlx .rowNotFound => .notFound
  | error => .database error.display

abbrev DbResult := ExceptT DbError Server

instance (priority := low) {m : Type → Type} [Monad m] :
    MonadLift (ExceptT DbError m) (ExceptT AppError m) :=
  ⟨ExceptT.adapt AppError.ofDbError⟩

instance (priority := low) {m : Type → Type} [Monad m] :
    MonadLift (ExceptT AppError m) (ExceptT Stop m) :=
  ⟨ExceptT.adapt Stop.err⟩

/-- One statement, whose failure is an error of the database layer. -/
def query (statement : Statement) : DbResult statement.Rows :=
  ExceptT.mk (.call (.sql statement) fun (rows : SqlResult statement.Rows) =>
    .done (rows.mapError DbError.sqlx))

/-- Sources of time and randomness. -/
class Runtime (m : Type → Type) where
  nowUtc : m OffsetDateTime
  randomBytes : m (BitVec 256)
  newV4 : m Uuid
  saltGenerate : m String

instance : Runtime Server where
  nowUtc := .call Op.nowUtc .done
  randomBytes := .call Op.randomBytes .done
  newV4 := .call Op.newV4 .done
  saltGenerate := .call Op.saltGenerate .done

/-! ### Lifted actions as programs -/

section Run

variable {ε α β γ Query : Type} {Response : Query → Type}

@[simp] theorem run_ite {condition : Prop} [Decidable condition]
    (x y : ExceptT ε (Program Query Response) α) :
    (if condition then x else y).run = if condition then x.run else y.run :=
  apply_ite ExceptT.run condition x y

@[simp] theorem run_liftDbError (x : DbResult α) :
    (liftM x : ExceptT AppError Server α).run =
      x.run >>= fun result => .done (result.mapError .ofDbError) := rfl

@[simp] theorem run_liftAppError (x : ExceptT AppError (Program Query Response) α) :
    (liftM x : ExceptT Stop (Program Query Response) α).run =
      x.run >>= fun result => .done (result.mapError .err) := rfl

/-- A database error reaches the handler through both conversions. -/
@[simp] theorem run_liftDbStop (x : DbResult α) :
    (liftM x : ExceptT Stop Server α).run =
      x.run >>= fun result => .done (result.mapError fun error => .err (.ofDbError error)) := by
  change ((x.run >>= fun result => Program.done (result.mapError AppError.ofDbError)) >>=
    fun result => Program.done (result.mapError Stop.err)) = _
  rw [Program.bind_assoc]
  refine congrArg _ (funext fun result => ?_)
  cases result <;> rfl

@[simp] theorem run_liftProgram (x : Program Query Response α) :
    (liftM x : ExceptT ε (Program Query Response) α).run =
      x >>= fun result => .done (.ok result) := rfl

@[simp] theorem run_lift (x : Program Query Response α) :
    (ExceptT.lift x : ExceptT ε (Program Query Response) α).run =
      x >>= fun result => .done (.ok result) := rfl

@[simp] theorem mapError_ok (convert : ε → β) (value : α) :
    (Except.ok value : Except ε α).mapError convert = .ok value := rfl

@[simp] theorem mapError_error (convert : ε → β) (error : ε) :
    (Except.error error : Except ε α).mapError convert = .error (convert error) := rfl

@[simp] theorem map_ok (convert : α → β) (value : α) :
    (Except.ok value : Except ε α).map convert = .ok (convert value) := rfl

@[simp] theorem map_error (convert : α → β) (error : ε) :
    (Except.error error : Except ε α).map convert = .error error := rfl

/-- A quantified reply succeeded or failed. -/
theorem forall_except {p : Except ε α → Prop} :
    (∀ result, p result) ↔ (∀ error, p (.error error)) ∧ ∀ value, p (.ok value) := by
  refine ⟨fun h => ⟨fun error => h _, fun value => h _⟩, fun h result => ?_⟩
  cases result with
  | error error => exact h.1 error
  | ok value => exact h.2 value

@[simp] theorem run_throw (error : ε) :
    (throw error : ExceptT ε (Program Query Response) α).run = .done (.error error) := rfl

@[simp] theorem program_pure (result : α) :
    (pure result : Program Query Response α) = .done result := rfl

@[simp] theorem program_bind_assoc (x : Program Query Response α)
    (first : α → Program Query Response β) (second : β → Program Query Response γ) :
    (x >>= first) >>= second = x >>= fun result => first result >>= second :=
  Program.bind_assoc x first second

@[simp] theorem nowUtc_eq : (Runtime.nowUtc : Server OffsetDateTime) = .call .nowUtc .done := rfl

@[simp] theorem randomBytes_eq :
    (Runtime.randomBytes : Server (BitVec 256)) = .call .randomBytes .done := rfl

@[simp] theorem newV4_eq : (Runtime.newV4 : Server Uuid) = .call .newV4 .done := rfl

@[simp] theorem saltGenerate_eq :
    (Runtime.saltGenerate : Server String) = .call .saltGenerate .done := rfl

end Run

end GenericAuth
