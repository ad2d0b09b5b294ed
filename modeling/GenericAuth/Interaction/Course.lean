import GenericAuth.Interaction.Program

/-! The courses of a program: all that it asks for, with the replies, and its result.
Which courses there are is proved once for a program. The protocols that it keeps to
are then read off from them. -/
namespace Interaction

variable {Op : Type} {Reply : Op → Type} {Result First Second : Type}
    {allowed : List (Call Op Reply) → Op → Prop} {final : List (Call Op Reply) → Result → Prop}

/-- After this past, each call is one that the calls before it allow. -/
def Asks (allowed : List (Call Op Reply) → Op → Prop) :
    List (Call Op Reply) → List (Call Op Reply) → Prop
  | _, [] => True
  | past, call :: rest => allowed past call.op ∧ Asks allowed (past ++ [call]) rest

@[simp] theorem asks_nil (past : List (Call Op Reply)) : Asks allowed past [] := trivial

@[simp] theorem asks_cons (past : List (Call Op Reply)) (call : Call Op Reply)
    (rest : List (Call Op Reply)) :
    Asks allowed past (call :: rest) ↔
      allowed past call.op ∧ Asks allowed (past ++ [call]) rest := Iff.rfl

@[simp] theorem asks_append (past first second : List (Call Op Reply)) :
    Asks allowed past (first ++ second) ↔
      Asks allowed past first ∧ Asks allowed (past ++ first) second := by
  induction first generalizing past with
  | nil => simp
  | cons call first ih => simp [ih, and_assoc]

namespace Program

/-- Whatever the replies are, the calls of the program and its result are such a course. -/
def Takes : Program Op Reply Result → (List (Call Op Reply) → Result → Prop) → Prop
  | .done result, course => course [] result
  | .call op next, course =>
      ∀ reply, (next reply).Takes fun calls result => course (⟨op, reply⟩ :: calls) result

section Takes

variable (course : List (Call Op Reply) → Result → Prop)

@[simp] theorem takes_done (result : Result) :
    (Program.done result).Takes course ↔ course [] result := Iff.rfl

@[simp] theorem takes_call (op : Op) (next : Reply op → Program Op Reply Result) :
    (Program.call op next).Takes course ↔
      ∀ reply, (next reply).Takes fun calls result => course (⟨op, reply⟩ :: calls) result :=
  Iff.rfl

@[simp] theorem takes_ite (condition : Prop) [Decidable condition]
    (first second : Program Op Reply Result) :
    (if condition then first else second).Takes course ↔
      (condition → first.Takes course) ∧ (¬condition → second.Takes course) := by
  split <;> simp_all

/-- The courses of a sequence are those of its first part, continued by the rest. -/
@[simp] theorem takes_bind (course : List (Call Op Reply) → Second → Prop)
    (program : Program Op Reply First) (rest : First → Program Op Reply Second) :
    (program >>= rest).Takes course ↔ program.Takes fun first value =>
      (rest value).Takes fun more result => course (first ++ more) result := by
  induction program generalizing course with
  | done value => rfl
  | call op next ih => simp only [call_bind, takes_call, ih, List.cons_append]

@[simp] theorem takes_map (course : List (Call Op Reply) → Second → Prop)
    (change : First → Second) (program : Program Op Reply First) :
    (change <$> program).Takes course ↔
      program.Takes fun calls result => course calls (change result) := by
  apply (takes_bind course program fun value => .done (change value)).trans
  simp only [takes_done, List.append_nil]

end Takes

variable {course course' : List (Call Op Reply) → Result → Prop} {program : Program Op Reply Result}

theorem Takes.imp (takes : program.Takes course)
    (h : ∀ calls result, course calls result → course' calls result) : program.Takes course' := by
  induction program generalizing course course' with
  | done result => exact h [] result takes
  | call op next ih => exact fun reply => ih reply (takes reply) fun calls result => h _ result

theorem takes_iff_performs :
    program.Takes course ↔ ∀ calls result, program.Performs calls result → course calls result := by
  induction program generalizing course with
  | done result =>
      constructor
      · rintro takes _ _ ⟨⟩
        exact takes
      · exact fun h => h [] result (.done result)
  | call op next ih =>
      constructor
      · intro takes calls result performs
        cases performs with
        | call rest => exact (ih _).mp (takes _) _ result rest
      · exact fun h reply => (ih reply).mpr fun calls result rest => h _ result (.call rest)

/-- Where every operation has a reply, a program comes to its end in some way. -/
theorem Takes.nonempty [∀ op, Nonempty (Reply op)] (takes : program.Takes course) :
    ∃ calls result, course calls result := by
  induction program generalizing course with
  | done result => exact ⟨[], result, takes⟩
  | call op next ih =>
      obtain ⟨reply⟩ : Nonempty (Reply op) := inferInstance
      obtain ⟨calls, result, h⟩ := ih reply (takes reply)
      exact ⟨⟨op, reply⟩ :: calls, result, h⟩

/-- A program keeps to the protocol that all its courses keep to. -/
theorem Takes.obeys_after [∀ op, Nonempty (Reply op)] {past : List (Call Op Reply)}
    (takes : program.Takes fun calls result =>
      Asks allowed past calls ∧ final (past ++ calls) result) :
    program.Obeys allowed final past := by
  induction program generalizing past with
  | done result => simpa using takes.2
  | call op next ih =>
      obtain ⟨reply⟩ : Nonempty (Reply op) := inferInstance
      obtain ⟨calls, result, asks, _⟩ := (takes reply).nonempty
      refine ⟨asks.1, fun reply => ih reply ((takes reply).imp ?_)⟩
      exact fun calls result ⟨asks, finished⟩ => ⟨asks.2, by simpa using finished⟩

theorem Takes.obeys [∀ op, Nonempty (Reply op)] (takes : program.Takes course)
    (h : ∀ calls result, course calls result → Asks allowed [] calls ∧ final calls result) :
    program.Obeys allowed final [] :=
  (takes.imp h).obeys_after

/-- Without a condition on the operations there is none on the replies either. -/
theorem Takes.ends (takes : program.Takes course) (hAllowed : ∀ calls op, allowed calls op) :
    program.Obeys allowed course [] := by
  have after {program : Program Op Reply Result} {past : List (Call Op Reply)}
      (takes : program.Takes fun calls result => course (past ++ calls) result) :
      program.Obeys allowed course past := by
    induction program generalizing past with
    | done result => simpa using takes
    | call op next ih =>
        exact ⟨hAllowed past op, fun reply => ih reply (by simpa using takes reply)⟩
  exact after takes

end Program
end Interaction
