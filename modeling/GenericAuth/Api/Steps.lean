import GenericAuth.Api.Alone
import GenericAuth.Api.Chosen
import GenericAuth.Db.Rows
import GenericAuth.Interaction.Serial

/-! The calls of a request that is executed alone, one by one: what allowed each
of them, and the stores before and after it. A property that each such call
keeps is a property of the request. -/
namespace GenericAuth

open Interaction Relational

variable [External] {state : AppState} {request : Request} {draws : Stream' Draw} {db : Db}

theorem allowed_alone {earlier rest : Calls} {call : Call Op Op.Reply}
    (h : callsOf (handle state request) draws db = earlier ++ call :: rest) :
    Allowed state request earlier call.op :=
  (handle_obeys state request).trace answer h

theorem chosen_alone {earlier rest : Calls} {call : Call Op Op.Reply}
    (h : callsOf (handle state request) draws db = earlier ++ call :: rest) :
    Chosen state request earlier call.op :=
  (handle_chosen state request).trace answer h

/-- A call of the request, the calls before it, and the store that it found. -/
structure StepOf (state : AppState) (request : Request) (draws : Stream' Draw) (db : Db)
    (earlier : Calls) (found : Db) (draw : Draw) (op : Op) : Prop where
  calls : ∃ rest, callsOf (handle state request) draws db =
    earlier ++ ⟨op, (answer draw found op).1⟩ :: rest
  before : Traced answer db earlier found
  after : (answer draw found op).2.Later (storeAfter (handle state request) draws db)

namespace StepOf

variable {earlier : Calls} {found : Db} {draw : Draw} {op : Op}

theorem allowed (step : StepOf state request draws db earlier found draw op) :
    Allowed state request earlier op := by
  obtain ⟨rest, hCalls⟩ := step.calls
  exact allowed_alone hCalls

theorem chosen (step : StepOf state request draws db earlier found draw op) :
    Chosen state request earlier op := by
  obtain ⟨rest, hCalls⟩ := step.calls
  exact chosen_alone hCalls

theorem later (step : StepOf state request draws db earlier found draw op) : db.Later found :=
  step.before.keeps db.Later (.refl db)
    fun _ _ _ _ _ _ _ _ later => Db.Later.trans _ _ _ later (answer_later _ _ _)

/-- What the request had seen was answered by a store before this one. -/
theorem saw (step : StepOf state request draws db earlier found draw op) {op' : Op}
    {reply : op'.Reply} (hMem : ⟨op', reply⟩ ∈ earlier) :
    ∃ draw' store, db.Later store ∧ (answer draw' store op').1 = reply ∧
      (answer draw' store op').2.Later found :=
  step.before.mem Db.Later Db.Later.refl Db.Later.trans answer_later hMem

end StepOf

/-- What holds before a request and is kept by each of its calls holds after it. -/
theorem keeps_alone (holds : Db → Prop) (hStart : holds db)
    (hStep : ∀ earlier found draw op, StepOf state request draws db earlier found draw op →
      holds found → holds (answer draw found op).2) :
    holds (storeAfter (handle state request) draws db) := by
  apply (traced_callsOf (handle state request) draws db).keeps holds hStart
  intro earlier rest draw found op hCalls early late h
  exact hStep earlier found draw op ⟨⟨rest, hCalls⟩, early, later_traced late⟩ h

theorem later_alone (state : AppState) (request : Request) (draws : Stream' Draw) (db : Db) :
    db.Later (storeAfter (handle state request) draws db) :=
  keeps_alone db.Later (.refl db)
    fun _ _ _ _ _ later => Db.Later.trans _ _ _ later (answer_later _ _ _)

theorem later_serially (state : AppState) (history : List (Request × Stream' Draw)) (db : Db) :
    db.Later (serially answer (handle state) history db) :=
  serially_keeps db.Later (.refl db)
    (fun found request draws later => later.trans _ _ _ (later_alone state request draws found))
    history

theorem references_alone (state : AppState) (request : Request) (draws : Stream' Draw)
    (refs : db.References) : (storeAfter (handle state request) draws db).References :=
  keeps_alone Db.References refs fun _ _ draw op _ refs => answer_references draw _ op refs

/-- A column of a stored user that no call of the request changes. -/
theorem column_alone {Value : Type} (column : UserRow → Value) {row row' : UserRow}
    (hStep : ∀ earlier found draw op, StepOf state request draws db earlier found draw op →
      ∀ other : UserRow, other.id = row.id →
        column (UserRow.after draw ⟨op, (answer draw found op).1⟩ other) = column other)
    (hMem : row ∈ db.users.rows)
    (hMem' : row' ∈ (storeAfter (handle state request) draws db).users.rows)
    (hId : row'.id = row.id) : column row' = column row := by
  have kept : ∃ last, (storeAfter (handle state request) draws db).user row.id = some last ∧
      column last = column row := by
    apply keeps_alone (fun found => ∃ last, found.user row.id = some last ∧
      column last = column row) ⟨row, user_eq_some.mpr ⟨hMem, rfl⟩, rfl⟩
    intro earlier found draw op step
    rintro ⟨last, hLast, hSame⟩
    refine ⟨_, ?_, (hStep earlier found draw op step last (user_eq_some.mp hLast).2).trans hSame⟩
    rw [answer_user, hLast, Option.map_some, Option.some_or]
  obtain ⟨last, hLast, hSame⟩ := kept
  rw [user_eq_some.mpr ⟨hMem', hId⟩] at hLast
  rw [Option.some.inj hLast, hSame]

end GenericAuth
