import Mathlib.Data.List.Pairwise

/-! Tables as lists of rows with the unique constraints as part of the type: a
table in which two rows clash cannot be built. Which rows clash is a parameter. -/
namespace Relational

structure Table {Row : Type} (clash : Row → Row → Bool) where
  rows : List Row
  distinct : rows.Pairwise fun first second => clash first second = false

/-- An update that leaves the constrained columns of a row alone. -/
def Keeps {Row : Type} (clash : Row → Row → Bool) (change : Row → Row) : Prop :=
  ∀ row other, clash (change row) other = clash row other ∧
    clash other (change row) = clash other row

namespace Table

variable {Row : Type} {clash : Row → Row → Bool}

def empty : Table clash := ⟨[], List.Pairwise.nil⟩

/-- Append a row, or refuse it when it clashes with a stored one. -/
def insert (table : Table clash) (row : Row) : Option (Table clash) :=
  if h : ∀ stored ∈ table.rows, clash stored row = false then
    some ⟨table.rows ++ [row], List.pairwise_append.mpr
      ⟨table.distinct, List.pairwise_singleton _ _, fun stored hMem _ hNew =>
        List.mem_singleton.mp hNew ▸ h stored hMem⟩⟩
  else none

/-- `UPDATE … SET change WHERE selected`. -/
def update (table : Table clash) (selected : Row → Bool) (change : Row → Row)
    (keeps : Keeps clash change) : Table clash where
  rows := table.rows.map fun row => if selected row then change row else row
  distinct := by
    refine List.pairwise_map.mpr (table.distinct.imp fun {first second} h => ?_)
    split <;> split <;> simp [(keeps _ _).1, (keeps _ _).2, h]

/-- The first row that a condition selects, which is the only one when the
condition fixes the columns of a unique constraint. -/
def find (table : Table clash) (selected : Row → Bool) : Option Row :=
  table.rows.find? selected

/-! ### Rows after a write -/

theorem insert_rows {table table' : Table clash} {row : Row}
    (h : table.insert row = some table') : table'.rows = table.rows ++ [row] := by
  unfold insert at h
  split at h
  · rw [← Option.some.inj h]
  · simp at h

theorem mem_insert {table table' : Table clash} {row other : Row}
    (h : table.insert row = some table') :
    other ∈ table'.rows ↔ other ∈ table.rows ∨ other = row := by
  rw [insert_rows h, List.mem_append, List.mem_singleton]

/-- A row that was stored clashed with nothing. -/
theorem free_of_insert {table table' : Table clash} {row : Row}
    (h : table.insert row = some table') : ∀ stored ∈ table.rows, clash stored row = false := by
  unfold insert at h
  split at h
  · next free => exact free
  · simp at h

/-- A row that clashes with nothing is stored. -/
theorem insert_of_free {table : Table clash} {row : Row}
    (h : ∀ stored ∈ table.rows, clash stored row = false) :
    ∃ table', table.insert row = some table' :=
  ⟨_, dif_pos h⟩

/-- A row is refused because it clashes with a stored one. -/
theorem clash_of_refused {table : Table clash} {row : Row} (h : table.insert row = none) :
    ∃ stored ∈ table.rows, clash stored row = true := by
  by_contra none
  have free : ∀ stored ∈ table.rows, clash stored row = false := fun stored hStored =>
    Bool.eq_false_iff.mpr fun hClash => none ⟨stored, hStored, hClash⟩
  obtain ⟨_, inserted⟩ := insert_of_free free
  rw [h] at inserted
  cases inserted

/-- The rows after a refused row has overwritten the one that it clashes with. -/
theorem mem_overwrite {before after : Table clash} {row : Row} {change : Row → Row}
    (h : before.insert row = none) (hChange : ∀ old, clash old row = true → change old = row)
    (hRows : after.rows = before.rows.map fun old => if clash old row then change old else old)
    (other : Row) :
    other ∈ after.rows ↔ other = row ∨ other ∈ before.rows ∧ clash other row = false := by
  rw [hRows, List.mem_map]
  constructor
  · rintro ⟨old, hOld, rfl⟩
    cases hClash : clash old row with
    | true => exact .inl (by rw [if_pos rfl, hChange old hClash])
    | false => exact .inr ⟨hOld, hClash⟩
  · rintro (rfl | ⟨hOld, hFree⟩)
    · obtain ⟨stored, hStored, hClash⟩ := clash_of_refused h
      exact ⟨stored, hStored, by rw [if_pos hClash, hChange stored hClash]⟩
    · exact ⟨other, hOld, by rw [if_neg (by simp [hFree])]⟩

@[simp] theorem update_rows (table : Table clash) (selected : Row → Bool) (change : Row → Row)
    (keeps : Keeps clash change) :
    (table.update selected change keeps).rows =
      table.rows.map fun row => if selected row then change row else row := rfl

theorem mem_update {table : Table clash} {selected : Row → Bool} {change : Row → Row}
    (keeps : Keeps clash change) {row : Row} :
    row ∈ (table.update selected change keeps).rows ↔
      ∃ old ∈ table.rows, row = if selected old then change old else old := by
  simp only [update_rows, List.mem_map, eq_comm]

/-- An update that selects no row changes nothing. -/
theorem update_eq_self {table : Table clash} {selected : Row → Bool} {change : Row → Row}
    {keeps : Keeps clash change} (h : ∀ row ∈ table.rows, selected row = false) :
    table.update selected change keeps = table := by
  have hRows : (table.update selected change keeps).rows = table.rows := by
    rw [update_rows, List.map_congr_left (g := id), List.map_id]
    intro row hMem
    simp [h row hMem]
  cases table
  simp_all [update]

/-- Rows that agree on a unique constraint are the same row. -/
theorem eq_of_clash (table : Table clash) (hSymm : ∀ first second, clash first second =
      clash second first) {first second : Row} (hFirst : first ∈ table.rows)
    (hSecond : second ∈ table.rows) (h : clash first second = true) : first = second := by
  by_contra hne
  have : Std.Symm fun first second => clash first second = false :=
    ⟨fun first second hab => (hSymm second first).trans hab⟩
  have hFalse := table.distinct.forall hFirst hSecond hne
  simp [h] at hFalse

/-- A condition that only clashing rows share finds each row it selects. -/
theorem find_eq_some {table : Table clash} {selected : Row → Bool} {row : Row}
    (hSymm : ∀ first second, clash first second = clash second first)
    (hUnique : ∀ first second, selected first = true → selected second = true →
      clash first second = true) (hMem : row ∈ table.rows) (hRow : selected row = true) :
    table.find selected = some row := by
  cases hFind : table.find selected with
  | none => exact absurd hRow (by simpa using List.find?_eq_none.mp hFind row hMem)
  | some found =>
      have hFound := List.find?_some hFind
      rw [table.eq_of_clash hSymm (List.mem_of_find?_eq_some hFind) hMem
        (hUnique _ _ hFound hRow)]

theorem mem_of_find {table : Table clash} {selected : Row → Bool} {row : Row}
    (h : table.find selected = some row) : row ∈ table.rows ∧ selected row = true :=
  ⟨List.mem_of_find?_eq_some h, List.find?_some h⟩

/-- Such a condition selects at most one row. -/
theorem filter_eq_find (table : Table clash) {selected : Row → Bool}
    (hUnique : ∀ first second, selected first = true → selected second = true →
      clash first second = true) :
    table.rows.filter selected = (table.find selected).toList := by
  obtain ⟨rows, distinct⟩ := table
  simp only [find]
  induction rows with
  | nil => rfl
  | cons row rows ih =>
      obtain ⟨hRow, hRest⟩ := List.pairwise_cons.mp distinct
      cases h : selected row with
      | true =>
          have hNone : rows.filter selected = [] := by
            apply List.filter_eq_nil_iff.mpr
            intro other hMem hOther
            have hClash := hUnique row other h hOther
            rw [hRow other hMem] at hClash
            cases hClash
          simp [h, hNone]
      | false => simpa [h] using ih hRest

/-- An update after which a condition holds of no row that it selected. -/
theorem filter_dropped {before after : Table clash} {selected holds : Row → Bool}
    {change : Row → Row}
    (hRows : after.rows = before.rows.map fun row => if selected row then change row else row)
    (h : ∀ row, selected row = true → holds (change row) = false) :
    after.rows.filter holds = before.rows.filter fun row => holds row && !selected row := by
  rw [hRows]
  induction before.rows with
  | nil => rfl
  | cons row rows ih =>
      rw [List.map_cons, List.filter_cons, List.filter_cons, ih]
      cases hRow : selected row with
      | true => simp [h row hRow]
      | false => simp

/-! ### Rows of one owner -/

section Owner

variable {Owner : Type} [BEq Owner] [LawfulBEq Owner] (owner : Row → Owner) {v : Owner}

theorem filter_insert {table table' : Table clash} {row : Row}
    (h : table.insert row = some table') (hOwner : owner row ≠ v) :
    (table'.rows.filter fun stored => owner stored == v) =
      table.rows.filter fun stored => owner stored == v := by
  rw [insert_rows h, List.filter_append]
  simp [hOwner]

/-- An update leaves the rows of an owner alone of whose rows it selects none. -/
theorem filter_update {before after : Table clash} {selected : Row → Bool} {change : Row → Row}
    (hRows : after.rows = before.rows.map fun row => if selected row then change row else row)
    (hOwner : ∀ row, owner (change row) = owner row)
    (hOther : ∀ row ∈ before.rows, selected row = true → owner row ≠ v) :
    (after.rows.filter fun row => owner row == v) = before.rows.filter fun row => owner row == v := by
  rw [hRows]
  generalize before.rows = rows at hOther
  induction rows with
  | nil => rfl
  | cons row rows ih =>
      have hRest := ih fun other hMem => hOther other (List.mem_cons_of_mem _ hMem)
      rw [List.map_cons, List.filter_cons, List.filter_cons, hRest]
      cases hRow : selected row with
      | true => simp [hOwner, hOther row List.mem_cons_self hRow]
      | false => simp

end Owner

/-! ### Histories of rows -/

/-- Every row of the first table is still there, perhaps changed as `related`
allows. -/
def Evolves (related : Row → Row → Prop) (before after : Table clash) : Prop :=
  ∀ row ∈ before.rows, ∃ row' ∈ after.rows, related row row'

variable {related : Row → Row → Prop}

theorem Evolves.refl (hRefl : ∀ row, related row row) (table : Table clash) :
    Evolves related table table :=
  fun row hMem => ⟨row, hMem, hRefl row⟩

theorem Evolves.trans (hTrans : ∀ first second third, related first second →
      related second third → related first third) {first second third : Table clash}
    (early : Evolves related first second) (late : Evolves related second third) :
    Evolves related first third := by
  intro row hMem
  obtain ⟨middle, hMiddle, hEarly⟩ := early row hMem
  obtain ⟨last, hLast, hLate⟩ := late middle hMiddle
  exact ⟨last, hLast, hTrans _ _ _ hEarly hLate⟩

theorem evolves_insert (hRefl : ∀ row, related row row) {table table' : Table clash} {row : Row}
    (h : table.insert row = some table') : Evolves related table table' :=
  fun old hMem => ⟨old, (mem_insert h).mpr (.inl hMem), hRefl old⟩

/-- An update, given by what it does to the rows. -/
theorem evolves_update (hRefl : ∀ row, related row row) {before after : Table clash}
    {selected : Row → Bool} {change : Row → Row}
    (hRows : after.rows = before.rows.map fun row => if selected row then change row else row)
    (hChange : ∀ row ∈ before.rows, selected row = true → related row (change row)) :
    Evolves related before after := by
  intro row hMem
  refine ⟨if selected row then change row else row, ?_, ?_⟩
  · rw [hRows]
    exact List.mem_map.mpr ⟨row, hMem, rfl⟩
  · split
    · next h => exact hChange row hMem h
    · exact hRefl row

/-- No row is deleted: every key of the first table is still there. -/
def Kept {Key : Type} (key : Row → Key) (before after : Table clash) : Prop :=
  Evolves (fun row row' => key row' = key row) before after

section Kept

variable {Key : Type} {key : Row → Key}

theorem Kept.refl (table : Table clash) : Kept key table table :=
  fun row hMem => ⟨row, hMem, rfl⟩

theorem Kept.trans {first second third : Table clash} (early : Kept key first second)
    (late : Kept key second third) : Kept key first third :=
  Evolves.trans (fun _ _ _ h h' => h'.trans h) early late

theorem kept_insert {table table' : Table clash} {row : Row} (h : table.insert row = some table') :
    Kept key table table' :=
  fun row hMem => ⟨row, (mem_insert h).mpr (.inl hMem), rfl⟩

theorem kept_update {before after : Table clash} {selected : Row → Bool} {change : Row → Row}
    (hRows : after.rows = before.rows.map fun row => if selected row then change row else row)
    (hKey : ∀ row, key (change row) = key row) : Kept key before after := by
  intro row hMem
  refine ⟨if selected row then change row else row, ?_, ?_⟩
  · rw [hRows]
    exact List.mem_map.mpr ⟨row, hMem, rfl⟩
  · split
    · exact hKey row
    · rfl

end Kept

end Table
end Relational
