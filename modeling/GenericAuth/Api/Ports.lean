import GenericAuth.Api.Server
import GenericAuth.Interaction.Interpret
import GenericAuth.Interaction.Trace

/-! The flows that reach the rest of the server through a port only. A call of a port
is an operation here, so that any implementation can answer it. -/
namespace GenericAuth

open Interaction

/-! ### Operations of the flows -/

/-- The functions of the three ports. The two of the name `create_user` differ. -/
inductive PortFn where
  | createUser
  | issueAccessToken
  | storeRefreshToken
  | findByEmailForReset
  | storeResetToken
  | consumeResetToken
  | updatePassword
  | revokeSessions
  | createAdmin
  deriving DecidableEq, Repr

/-- A function with its arguments. -/
inductive PortOp where
  | createUser (email passwordHash : String) (displayName : Option String)
  | issueAccessToken (userId : Uuid) (role : Role)
  | storeRefreshToken (userId : Uuid) (tokenHash : String) (expiresAt : OffsetDateTime)
  | findByEmailForReset (email : String)
  | storeResetToken (userId : Uuid) (tokenHash : String) (expiresAt : OffsetDateTime)
  | consumeResetToken (tokenHash : String)
  | updatePassword (userId : Uuid) (phc : String)
  | revokeSessions (userId : Uuid)
  | createAdmin (email passwordHash : String)
  deriving DecidableEq, Repr

/-- What a function returns when it succeeds. Each may fail with an error of its own
choice instead. -/
@[reducible] def PortOp.Answer : PortOp → Type
  | .createUser .. | .createAdmin .. => User
  | .issueAccessToken .. => String
  | .findByEmailForReset _ => Option (Uuid × Bool)
  | .consumeResetToken _ => Option Uuid
  | .storeRefreshToken .. | .storeResetToken .. | .updatePassword .. | .revokeSessions _ => Unit

@[simp] def PortOp.fn : PortOp → PortFn
  | .createUser .. => .createUser
  | .issueAccessToken .. => .issueAccessToken
  | .storeRefreshToken .. => .storeRefreshToken
  | .findByEmailForReset _ => .findByEmailForReset
  | .storeResetToken .. => .storeResetToken
  | .consumeResetToken _ => .consumeResetToken
  | .updatePassword .. => .updatePassword
  | .revokeSessions _ => .revokeSessions
  | .createAdmin .. => .createAdmin

/-- What a flow asks for: the calls of its port, the time and random bits. -/
inductive FlowOp where
  | port (op : PortOp)
  | nowUtc
  | randomBytes
  | newV4
  | saltGenerate
  deriving DecidableEq, Repr

@[reducible] def FlowOp.Reply : FlowOp → Type
  | .port op => Except AppError op.Answer
  | .nowUtc => OffsetDateTime
  | .randomBytes => BitVec 256
  | .newV4 => Uuid
  | .saltGenerate => String

abbrev Flow := Program FlowOp FlowOp.Reply

abbrev FlowCall := Call FlowOp FlowOp.Reply

instance : Runtime Flow where
  nowUtc := .call FlowOp.nowUtc .done
  randomBytes := .call FlowOp.randomBytes .done
  newV4 := .call FlowOp.newV4 .done
  saltGenerate := .call FlowOp.saltGenerate .done

@[simp] theorem flow_nowUtc : (Runtime.nowUtc : Flow OffsetDateTime) = .call .nowUtc .done := rfl

@[simp] theorem flow_randomBytes :
    (Runtime.randomBytes : Flow (BitVec 256)) = .call .randomBytes .done := rfl

@[simp] theorem flow_newV4 : (Runtime.newV4 : Flow Uuid) = .call .newV4 .done := rfl

@[simp] theorem flow_saltGenerate :
    (Runtime.saltGenerate : Flow String) = .call .saltGenerate .done := rfl

/-- The flow stops at a failed call and passes its error on. -/
def ask (op : PortOp) : ExceptT AppError Flow op.Answer := ExceptT.mk (.call (.port op) .done)

/-! ### Ports that only ask -/

/-- Each function of a port becomes one operation. -/
def RegisterPort.asking : RegisterPort Flow where
  createUser email passwordHash displayName := ask (.createUser email passwordHash displayName)
  storeRefreshToken userId tokenHash expiresAt := ask (.storeRefreshToken userId tokenHash expiresAt)
  issueAccessToken userId role := ask (.issueAccessToken userId role)

def PasswordResetPort.asking : PasswordResetPort Flow where
  findByEmailForReset email := ask (.findByEmailForReset email)
  storeResetToken userId tokenHash expiresAt := ask (.storeResetToken userId tokenHash expiresAt)
  consumeResetToken tokenHash := ask (.consumeResetToken tokenHash)
  updatePassword userId phc := ask (.updatePassword userId phc)
  revokeSessions userId := ask (.revokeSessions userId)

def CreateAdminPort.asking : CreateAdminPort Flow where
  createUser email passwordHash := ask (.createAdmin email passwordHash)

/-! ### Implementations -/

section Handle

variable {m : Type → Type} [Monad m] [Runtime m]

/-- An implementation of every port. -/
structure Ports (m : Type → Type) where
  register : RegisterPort m
  passwordReset : PasswordResetPort m
  createAdmin : CreateAdminPort m

/-- The operations of a flow, carried out by an implementation in its own monad. -/
def Ports.handle (ports : Ports m) : (op : FlowOp) → m op.Reply
  | .port (.createUser email passwordHash displayName) =>
      (ports.register.createUser email passwordHash displayName).run
  | .port (.issueAccessToken userId role) => (ports.register.issueAccessToken userId role).run
  | .port (.storeRefreshToken userId tokenHash expiresAt) =>
      (ports.register.storeRefreshToken userId tokenHash expiresAt).run
  | .port (.findByEmailForReset email) => (ports.passwordReset.findByEmailForReset email).run
  | .port (.storeResetToken userId tokenHash expiresAt) =>
      (ports.passwordReset.storeResetToken userId tokenHash expiresAt).run
  | .port (.consumeResetToken tokenHash) => (ports.passwordReset.consumeResetToken tokenHash).run
  | .port (.updatePassword userId phc) => (ports.passwordReset.updatePassword userId phc).run
  | .port (.revokeSessions userId) => (ports.passwordReset.revokeSessions userId).run
  | .port (.createAdmin email passwordHash) => (ports.createAdmin.createUser email passwordHash).run
  | .nowUtc => Runtime.nowUtc
  | .randomBytes => Runtime.randomBytes
  | .newV4 => Runtime.newV4
  | .saltGenerate => Runtime.saltGenerate

/-! ### A flow is its calls -/

variable (ports : Ports m)

@[simp] theorem interpretExcept_validated (errs : ValidationErrors) :
    interpretExcept ports.handle (validated errs) = validated errs := by
  unfold validated
  split <;> rfl

variable [LawfulMonad m]

@[simp] theorem interpretExcept_liftAppError {α : Type} (flow : ExceptT AppError Flow α) :
    interpretExcept ports.handle (liftM flow : ExceptT Stop Flow α) =
      liftM (interpretExcept ports.handle flow) :=
  interpretExcept_adapt ports.handle Stop.err flow

theorem interpret_runtime (op : FlowOp) :
    Program.interpret ports.handle (.call op .done) = ports.handle op := bind_pure _

theorem interpretExcept_ask (op : PortOp) :
    interpretExcept ports.handle (ask op) = ExceptT.mk (ports.handle (.port op)) :=
  ExceptT.ext (interpret_runtime ports (.port op))

theorem RegisterPort.asking_interpret :
    (∀ email passwordHash displayName,
      interpretExcept ports.handle (asking.createUser email passwordHash displayName) =
        ports.register.createUser email passwordHash displayName) ∧
    (∀ userId role, interpretExcept ports.handle (asking.issueAccessToken userId role) =
      ports.register.issueAccessToken userId role) ∧
    ∀ userId tokenHash expiresAt,
      interpretExcept ports.handle (asking.storeRefreshToken userId tokenHash expiresAt) =
        ports.register.storeRefreshToken userId tokenHash expiresAt :=
  ⟨fun email passwordHash displayName =>
      interpretExcept_ask ports (.createUser email passwordHash displayName),
    fun userId role => interpretExcept_ask ports (.issueAccessToken userId role),
    fun userId tokenHash expiresAt =>
      interpretExcept_ask ports (.storeRefreshToken userId tokenHash expiresAt)⟩

theorem PasswordResetPort.asking_interpret :
    (∀ email, interpretExcept ports.handle (asking.findByEmailForReset email) =
      ports.passwordReset.findByEmailForReset email) ∧
    (∀ userId tokenHash expiresAt,
      interpretExcept ports.handle (asking.storeResetToken userId tokenHash expiresAt) =
        ports.passwordReset.storeResetToken userId tokenHash expiresAt) ∧
    (∀ tokenHash, interpretExcept ports.handle (asking.consumeResetToken tokenHash) =
      ports.passwordReset.consumeResetToken tokenHash) ∧
    (∀ userId phc, interpretExcept ports.handle (asking.updatePassword userId phc) =
      ports.passwordReset.updatePassword userId phc) ∧
    ∀ userId, interpretExcept ports.handle (asking.revokeSessions userId) =
      ports.passwordReset.revokeSessions userId :=
  ⟨fun email => interpretExcept_ask ports (.findByEmailForReset email),
    fun userId tokenHash expiresAt =>
      interpretExcept_ask ports (.storeResetToken userId tokenHash expiresAt),
    fun tokenHash => interpretExcept_ask ports (.consumeResetToken tokenHash),
    fun userId phc => interpretExcept_ask ports (.updatePassword userId phc),
    fun userId => interpretExcept_ask ports (.revokeSessions userId)⟩

theorem CreateAdminPort.asking_interpret (email passwordHash : String) :
    interpretExcept ports.handle (asking.createUser email passwordHash) =
      ports.createAdmin.createUser email passwordHash :=
  interpretExcept_ask ports (.createAdmin email passwordHash)

@[simp] theorem interpretExcept_fromNow (duration : Option TDuration) :
    interpretExcept ports.handle (fromNow duration) = fromNow duration := by
  unfold fromNow
  rw [interpretExcept_bind, interpretExcept_lift]
  apply congrArg₂ bind
  · exact congrArg liftM (interpret_runtime ports .nowUtc)
  · funext now
    cases deadline now duration <;> rfl

@[simp] theorem interpret_generateRefreshToken :
    Program.interpret ports.handle generateRefreshToken = generateRefreshToken := by
  unfold generateRefreshToken
  rw [Program.interpret_bind]
  exact congrArg (· >>= _) (interpret_runtime ports .randomBytes)

@[simp] theorem interpret_generateVerificationToken :
    Program.interpret ports.handle generateVerificationToken = generateVerificationToken := by
  unfold generateVerificationToken
  rw [Program.interpret_bind]
  apply congrArg₂ bind (interpret_runtime ports .newV4)
  funext first
  rw [Program.interpret_bind]
  exact congrArg (· >>= _) (interpret_runtime ports .newV4)

variable [External]

@[simp] theorem interpretExcept_hashPassword (plain : String) :
    interpretExcept ports.handle (hashPassword plain) = hashPassword plain := by
  unfold hashPassword
  rw [interpretExcept_bind, interpretExcept_lift]
  apply congrArg₂ bind
  · exact congrArg liftM (interpret_runtime ports .saltGenerate)
  · funext salt
    cases External.argon2Hash plain salt <;> rfl

theorem registerUser_interpret (body : RegisterReq) (accessTtlMin refreshTtlDays : Int64) :
    interpretExcept ports.handle (registerUser .asking body accessTtlMin refreshTtlDays) =
      registerUser ports.register body accessTtlMin refreshTtlDays := by
  simp [registerUser, RegisterPort.asking_interpret]

theorem requestPasswordReset_interpret (email : String) (resetTtlHours : Int64) :
    interpretExcept ports.handle (requestPasswordReset .asking email resetTtlHours) =
      requestPasswordReset ports.passwordReset email resetTtlHours := by
  simp only [requestPasswordReset, interpretExcept_bind, interpretExcept_liftAppError,
    PasswordResetPort.asking_interpret]
  apply bind_congr
  intro found
  rcases found with _ | ⟨userId, _ | _⟩
  · rfl
  · rfl
  · simp [PasswordResetPort.asking_interpret]

theorem performPasswordReset_interpret (body : ResetPasswordReq) :
    interpretExcept ports.handle (performPasswordReset .asking body) =
      performPasswordReset ports.passwordReset body := by
  simp only [performPasswordReset, interpretExcept_bind, interpretExcept_validated,
    interpretExcept_liftAppError, PasswordResetPort.asking_interpret]
  apply bind_congr
  intro
  apply bind_congr
  intro found
  cases found with
  | none => rfl
  | some userId => simp [PasswordResetPort.asking_interpret]

theorem createAdminUser_interpret (args : CreateAdminArgs) :
    interpretExcept ports.handle (createAdminUser .asking args) =
      createAdminUser ports.createAdmin args := by
  simp [createAdminUser, CreateAdminPort.asking_interpret]

/-- The four flows with these ports are the flows that only ask, answered by the ports. -/
structure Ports.Answers (ports : Ports m) : Prop where
  registerUser (body : RegisterReq) (accessTtlMin refreshTtlDays : Int64) :
    interpretExcept ports.handle (registerUser .asking body accessTtlMin refreshTtlDays) =
      registerUser ports.register body accessTtlMin refreshTtlDays
  requestPasswordReset (email : String) (resetTtlHours : Int64) :
    interpretExcept ports.handle (requestPasswordReset .asking email resetTtlHours) =
      requestPasswordReset ports.passwordReset email resetTtlHours
  performPasswordReset (body : ResetPasswordReq) :
    interpretExcept ports.handle (performPasswordReset .asking body) =
      performPasswordReset ports.passwordReset body
  createAdminUser (args : CreateAdminArgs) :
    interpretExcept ports.handle (createAdminUser .asking args) =
      createAdminUser ports.createAdmin args

theorem Ports.answers : ports.Answers :=
  ⟨registerUser_interpret ports, requestPasswordReset_interpret ports,
    performPasswordReset_interpret ports, createAdminUser_interpret ports⟩

end Handle

end GenericAuth
