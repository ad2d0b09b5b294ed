import GenericAuth.Interaction.Pool
import Mathlib.Data.List.Forall2

/-! Two runs with one schedule, which differ only in what clients do not pass on. Clients
that ask the same and finish alike, whichever of two alike replies they get, keep the
stores of such runs equal, and their own results alike. -/
namespace Interaction

variable {Request Store Draw Op Result Result' : Type} {Reply : Op → Type}

/-! ### Clients -/

namespace Program

/-- Both programs perform the same operations as long as their replies are alike, and
then finish with related results. -/
inductive Agree (alike : (op : Op) → Reply op → Reply op → Prop)
    (final : Result → Result' → Prop) :
    Program Op Reply Result → Program Op Reply Result' → Prop where
  | done {result : Result} {result' : Result'} (h : final result result') :
      Agree alike final (.done result) (.done result')
  | call (op : Op) {next : Reply op → Program Op Reply Result}
      {next' : Reply op → Program Op Reply Result'}
      (h : ∀ reply reply', alike op reply reply' → Agree alike final (next reply) (next' reply')) :
      Agree alike final (.call op next) (.call op next')

variable {Next Next' : Type} {alike : (op : Op) → Reply op → Reply op → Prop}
    {final : Result → Result' → Prop} {final' : Next → Next' → Prop}

@[simp] theorem agree_done {result : Result} {result' : Result'} :
    (Program.done result : Program Op Reply Result).Agree alike final (.done result') ↔
      final result result' := by
  refine ⟨fun h => ?_, .done⟩
  cases h with
  | done h => exact h

@[simp] theorem agree_call {op : Op} {next : Reply op → Program Op Reply Result}
    {next' : Reply op → Program Op Reply Result'} :
    (Program.call op next).Agree alike final (.call op next') ↔
      ∀ reply reply', alike op reply reply' → (next reply).Agree alike final (next' reply') := by
  refine ⟨fun h => ?_, .call op⟩
  cases h with
  | call _ h => exact h

@[simp] theorem agree_ite {condition : Prop} [Decidable condition]
    {first second : Program Op Reply Result} {first' second' : Program Op Reply Result'} :
    (if condition then first else second).Agree alike final
        (if condition then first' else second') ↔
      (condition → first.Agree alike final first') ∧
        (¬condition → second.Agree alike final second') := by
  split <;> simp_all

theorem Agree.bind {first : Program Op Reply Result} {first' : Program Op Reply Result'}
    {rest : Result → Program Op Reply Next} {rest' : Result' → Program Op Reply Next'}
    (agree : first.Agree alike final first')
    (h : ∀ result result', final result result' →
      (rest result).Agree alike final' (rest' result')) :
    (first >>= rest).Agree alike final' (first' >>= rest') := by
  induction agree with
  | done hFinal => exact h _ _ hFinal
  | call op _ ih => exact .call op ih

theorem Agree.map {first : Program Op Reply Result} {first' : Program Op Reply Result'}
    (agree : first.Agree alike final first') (convert : Result → Next) (convert' : Result' → Next')
    (h : ∀ result result', final result result' → final' (convert result) (convert' result')) :
    (convert <$> first).Agree alike final' (convert' <$> first') :=
  agree.bind fun result result' hFinal => .done (h result result' hFinal)

end Program

/-! ### Services -/

/-- Similar draws are answered alike, with the same effect. -/
def Respects (service : Service Store Draw Op Reply) (similar : Draw → Draw → Prop)
    (alike : (op : Op) → Reply op → Reply op → Prop) : Prop :=
  ∀ draw draw' store op, similar draw draw' →
    alike op (service draw store op).1 (service draw' store op).1 ∧
      (service draw store op).2 = (service draw' store op).2

/-! ### Runs -/

/-- The same moves, with similar draws. -/
inductive Pool.Move.Similar (similar : Draw → Draw → Prop) :
    Move Request Draw → Move Request Draw → Prop where
  | arrive (request : Request) : Similar similar (.arrive request) (.arrive request)
  | step (i : Nat) {draw draw' : Draw} (h : similar draw draw') :
      Similar similar (.step i draw) (.step i draw')

theorem forall₂_getElem? {First Second : Type} {related : First → Second → Prop} {xs : List First}
    {ys : List Second} (h : List.Forall₂ related xs ys) (i : Nat) :
    Option.Rel related xs[i]? ys[i]? := by
  induction h generalizing i with
  | nil => exact .none
  | cons first _ ih =>
      cases i with
      | zero => exact .some first
      | succ i => exact ih i

theorem forall₂_set {First Second : Type} {related : First → Second → Prop} {xs : List First}
    {ys : List Second} (h : List.Forall₂ related xs ys) (i : Nat) {x : First} {y : Second}
    (hxy : related x y) : List.Forall₂ related (xs.set i x) (ys.set i y) := by
  induction h generalizing i with
  | nil => exact .nil
  | cons first others ih =>
      cases i with
      | zero => exact .cons hxy others
      | succ i => exact .cons first (ih i)

structure Client.Agree (alike : (op : Op) → Reply op → Reply op → Prop)
    (final : Request → Result → Result → Prop) (client client' : Client Request Op Reply Result) :
    Prop where
  request : client.request = client'.request
  program : client.program.Agree alike (final client.request) client'.program

/-- The pools went through the same stores by the same operations, and their clients
are equally far. -/
structure Pool.Agree (alike : (op : Op) → Reply op → Reply op → Prop)
    (final : Request → Result → Result → Prop)
    (pool pool' : Pool Request Store Draw Op Reply Result) : Prop where
  store : pool.store = pool'.store
  log : pool.log.map (fun event => (event.client, event.before, event.op)) =
    pool'.log.map fun event => (event.client, event.before, event.op)
  clients : List.Forall₂ (Client.Agree alike final) pool.clients pool'.clients

section Runs

variable {service : Service Store Draw Op Reply} {handle : Request → Program Op Reply Result}
    {similar : Draw → Draw → Prop} {alike : (op : Op) → Reply op → Reply op → Prop}
    {final : Request → Result → Result → Prop} {start : Store}
    {pool pool' : Pool Request Store Draw Op Reply Result}

namespace Pool.Agree

theorem arrive (agree : pool.Agree alike final pool') {request : Request}
    (h : (handle request).Agree alike (final request) (handle request)) :
    (pool.arrive handle request).Agree alike final (pool'.arrive handle request) where
  store := agree.store
  log := agree.log
  clients := List.rel_append agree.clients (.cons ⟨rfl, h⟩ .nil)

/-- One client of both pools takes a step. -/
theorem step (agree : pool.Agree alike final pool') (respects : Respects service similar alike)
    (i : Nat) {draw draw' : Draw} (h : similar draw draw') :
    (pool.move service handle (.step i draw)).Agree alike final
      (pool'.move service handle (.step i draw')) := by
  have both := forall₂_getElem? agree.clients i
  simp only [Pool.move]
  generalize hClient : pool.clients[i]? = client at both
  generalize hClient' : pool'.clients[i]? = client' at both
  cases both with
  | none => exact agree
  | @some client client' same =>
      obtain ⟨request, program⟩ := client
      obtain ⟨request', program'⟩ := client'
      obtain ⟨rfl, programs⟩ := same
      cases programs with
      | done => exact agree
      | @call op next next' go =>
          obtain ⟨hReply, hStore⟩ := respects draw draw' pool.store op h
          rw [agree.store] at hReply hStore
          exact {
            store := by simpa only [Pool.advance, agree.store] using hStore
            log := by simp [Pool.advance, agree.log, agree.store]
            clients := forall₂_set agree.clients i ⟨rfl, by
              simpa only [agree.store] using go _ _ hReply⟩ }

theorem move (agree : pool.Agree alike final pool') (respects : Respects service similar alike)
    (steady : ∀ request, (handle request).Agree alike (final request) (handle request))
    {move move' : Pool.Move Request Draw} (h : move.Similar similar move') :
    (pool.move service handle move).Agree alike final (pool'.move service handle move') := by
  cases h with
  | arrive request => exact agree.arrive (steady request)
  | step i h => exact agree.step respects i h

/-- The same clients have finished, alike. -/
theorem finished (agree : pool.Agree alike final pool') (i : Nat) :
    Option.Rel (fun client client' => client.1 = client'.1 ∧ final client.1 client.2 client'.2)
      (pool.finished i) (pool'.finished i) := by
  have both := forall₂_getElem? agree.clients i
  simp only [Pool.finished]
  generalize hClient : pool.clients[i]? = client at both
  generalize hClient' : pool'.clients[i]? = client' at both
  cases both with
  | none => exact .none
  | @some client client' same =>
      obtain ⟨request, program⟩ := client
      obtain ⟨request', program'⟩ := client'
      obtain ⟨rfl, programs⟩ := same
      cases programs with
      | done h => exact .some ⟨rfl, h⟩
      | call => exact .none

end Pool.Agree

/-- Schedules that differ in similar draws only. -/
theorem play_agree (respects : Respects service similar alike)
    (steady : ∀ request, (handle request).Agree alike (final request) (handle request))
    {moves moves' : List (Pool.Move Request Draw)}
    (h : List.Forall₂ (Pool.Move.Similar similar) moves moves') :
    (Pool.play service handle start moves).Agree alike final
      (Pool.play service handle start moves') := by
  have extend (pool pool' : Pool Request Store Draw Op Reply Result)
      (agree : pool.Agree alike final pool') :
      (moves.foldl (Pool.move service handle) pool).Agree alike final
        (moves'.foldl (Pool.move service handle) pool') := by
    induction h generalizing pool pool' with
    | nil => exact agree
    | cons first _ ih => exact ih _ _ (agree.move respects steady first)
  exact extend _ _ ⟨rfl, rfl, .nil⟩

end Runs

end Interaction
