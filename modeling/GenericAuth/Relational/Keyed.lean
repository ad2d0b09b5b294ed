import GenericAuth.Relational.Table
import Mathlib.Logic.Function.Basic

/-! Tables as finite maps. A key that the unique constraint covers selects at
most one row, and writes act on the map that it defines. -/
namespace Relational

namespace Table

variable {Row Key : Type} [DecidableEq Key] {clash : Row → Row → Bool} (key : Row → Key)

/-- The row with a key. -/
def lookup (table : Table clash) (k : Key) : Option Row := table.find fun row => key row == k

/-- Rows that share a key clash. -/
def Keyed (clash : Row → Row → Bool) (key : Row → Key) : Prop :=
  ∀ first second, key first = key second → clash first second = true

variable {key}

theorem lookup_eq_some (hSymm : ∀ first second, clash first second = clash second first)
    (keyed : Keyed clash key) {table : Table clash} {k : Key} {row : Row} :
    table.lookup key k = some row ↔ row ∈ table.rows ∧ key row = k := by
  constructor
  · intro h
    obtain ⟨hMem, hKey⟩ := mem_of_find h
    exact ⟨hMem, beq_iff_eq.mp hKey⟩
  · rintro ⟨hMem, rfl⟩
    refine find_eq_some hSymm (fun first second h h' => keyed _ _ ?_) hMem (beq_self_eq_true _)
    exact (beq_iff_eq.mp h).trans (beq_iff_eq.mp h').symm

theorem lookup_eq_none {table : Table clash} {k : Key} :
    table.lookup key k = none ↔ ∀ row ∈ table.rows, key row ≠ k := by
  simp [lookup, find, List.find?_eq_none]

/-- A row that was stored had a new key. -/
theorem lookup_of_insert (keyed : Keyed clash key) {table table' : Table clash} {row : Row}
    (h : table.insert row = some table') : table.lookup key (key row) = none := by
  apply lookup_eq_none.mpr
  intro stored hMem hKey
  have hFree := free_of_insert h stored hMem
  rw [keyed stored row hKey] at hFree
  cases hFree

theorem lookup_insert (keyed : Keyed clash key) {table table' : Table clash} {row : Row}
    (h : table.insert row = some table') :
    table'.lookup key = Function.update (table.lookup key) (key row) (some row) := by
  funext k
  have hNew := lookup_of_insert keyed h
  simp only [lookup, find, insert_rows h, List.find?_append] at hNew ⊢
  by_cases hk : k = key row
  · subst hk
    simp [hNew]
  · rw [Function.update_of_ne hk]
    simp [lookup, find, Ne.symm hk]

variable (key)

theorem lookup_change {before after : Table clash} {selected : Row → Bool} {change : Row → Row}
    (hRows : after.rows = before.rows.map fun row => if selected row then change row else row)
    (hKey : ∀ row, key (change row) = key row) (k : Key) :
    after.lookup key k =
      (before.lookup key k).map fun row => if selected row then change row else row := by
  have same (row : Row) : key (if selected row then change row else row) = key row := by
    split
    · exact hKey row
    · rfl
  simp only [lookup, find, hRows, List.find?_map, Function.comp_def, same]

/-- An update of the rows with a key changes the map at that key. -/
theorem lookup_update {before after : Table clash} {selected : Row → Bool} {change : Row → Row}
    {k : Key}
    (hRows : after.rows = before.rows.map fun row => if selected row then change row else row)
    (hKey : ∀ row, key (change row) = key row)
    (hSelected : ∀ row, selected row = true ↔ key row = k) :
    after.lookup key =
      Function.update (before.lookup key) k ((before.lookup key k).map change) := by
  funext other
  rw [lookup_change key hRows hKey]
  by_cases hk : other = k
  · subst hk
    rw [Function.update_self]
    cases h : before.lookup key other with
    | none => rfl
    | some row => simp [(hSelected row).mpr (beq_iff_eq.mp (mem_of_find h).2)]
  · rw [Function.update_of_ne hk]
    cases h : before.lookup key other with
    | none => rfl
    | some row =>
        have hKeyRow : key row = other := beq_iff_eq.mp (mem_of_find h).2
        simp [hSelected, hKeyRow, hk]

end Table

/-! ### Maps -/

section Update

variable {Key Value : Type} [DecidableEq Key] {entries : Key → Option Value} {key other : Key}
    {value : Option Value}

theorem update_isSome (hValue : (entries key).isSome → value.isSome) (h : (entries other).isSome) :
    (Function.update entries key value other).isSome := by
  by_cases hOther : other = key
  · subst hOther
    rw [Function.update_self]
    exact hValue h
  · rwa [Function.update_of_ne hOther]

/-- An entry after an update is the new one or an old one. -/
theorem of_update {found : Value} (h : Function.update entries key value other = some found) :
    other = key ∧ value = some found ∨ other ≠ key ∧ entries other = some found := by
  by_cases hOther : other = key
  · subst hOther
    rw [Function.update_self] at h
    exact .inl ⟨rfl, h⟩
  · rw [Function.update_of_ne hOther] at h
    exact .inr ⟨hOther, h⟩

end Update

end Relational
