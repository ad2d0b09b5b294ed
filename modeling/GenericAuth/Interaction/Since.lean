import GenericAuth.Interaction.Refinement

/-! Properties of the store that steps of a run set and clear. Such a property
holds exactly when some step has set it and none has cleared it since. A value that
is written once is that of the first step that writes one. -/
namespace Interaction

/-- Along any sequence of positions, each of which sets or clears. -/
theorem holds_iff_since (holds : Nat → Prop) {sets clears : Nat → Prop} (hStart : ¬holds 0)
    (hStep : ∀ k, holds (k + 1) ↔ sets k ∨ holds k ∧ ¬clears k) (l : Nat) :
    holds l ↔ ∃ k < l, sets k ∧ ∀ m, k < m → m < l → ¬clears m := by
  induction l with
  | zero => simp [hStart]
  | succ l ih =>
      rw [hStep l, ih]
      constructor
      · rintro (hSets | ⟨⟨k, hk, hSets, hKept⟩, hClears⟩)
        · exact ⟨l, Nat.lt_succ_self l, hSets, fun m hl hm => absurd hm (by omega)⟩
        · refine ⟨k, Nat.lt_succ_of_lt hk, hSets, fun m hkm hm => ?_⟩
          rcases Nat.lt_succ_iff_lt_or_eq.mp hm with hlt | rfl
          · exact hKept m hkm hlt
          · exact hClears
      · rintro ⟨k, hk, hSets, hKept⟩
        rcases Nat.lt_succ_iff_lt_or_eq.mp hk with hlt | rfl
        · exact .inr ⟨⟨k, hlt, hSets, fun m hkm hm => hKept m hkm (Nat.lt_succ_of_lt hm)⟩,
            hKept l hlt (Nat.lt_succ_self l)⟩
        · exact .inl hSets

/-- Along any sequence of positions, where what is written first stays. -/
theorem first_iff {Value : Type} (part : Nat → Option Value) {writes : Nat → Value → Prop}
    (hStart : part 0 = none)
    (hStep : ∀ k value, part (k + 1) = some value ↔
      part k = some value ∨ part k = none ∧ writes k value) (l : Nat) :
    (part l = none ↔ ∀ k < l, ∀ value, ¬writes k value) ∧
    ∀ value, part l = some value ↔
      ∃ k < l, writes k value ∧ ∀ m < k, ∀ other, ¬writes m other := by
  induction l with
  | zero => simp [hStart]
  | succ l ih =>
      obtain ⟨hNone, hSome⟩ := ih
      constructor
      · have hNext : part (l + 1) = none ↔ part l = none ∧ ∀ value, ¬writes l value := by
          simp only [Option.eq_none_iff_forall_ne_some, ne_eq, hStep l]
          grind
        rw [hNext, hNone, ← Nat.forall_lt_succ_right]
      · intro value
        rw [hStep l, hSome, hNone]
        constructor
        · rintro (⟨k, hk, first⟩ | ⟨unwritten, hWrites⟩)
          · exact ⟨k, Nat.lt_succ_of_lt hk, first⟩
          · exact ⟨l, Nat.lt_succ_self l, hWrites, unwritten⟩
        · rintro ⟨k, hk, hWrites, unwritten⟩
          rcases Nat.lt_succ_iff_lt_or_eq.mp hk with hlt | rfl
          · exact .inl ⟨k, hlt, hWrites, unwritten⟩
          · exact .inr ⟨unwritten, hWrites⟩

variable {Request Store Abstract Draw Op Result : Type} {Reply : Op → Type}
    {service : Service Store Draw Op Reply} {handle : Request → Program Op Reply Result}
    {start : Store} {pool : Pool Request Store Draw Op Reply Result}

/-- Step `k` of the run was a call of this kind, on the store as the view shows it. -/
def Pool.Called (service : Service Store Draw Op Reply) (view : Store → Abstract)
    (pool : Pool Request Store Draw Op Reply Result) (k : Nat)
    (kind : Draw → Abstract → Call Op Reply → Prop) : Prop :=
  ∃ i draw op reply, pool.Executed service k i draw op reply ∧
    kind draw (view (pool.storeAt k)) ⟨op, reply⟩

namespace Pool.Executed

variable {k i i' : Nat} {draw draw' : Draw} {op op' : Op} {reply : Reply op} {reply' : Reply op'}

/-- A step of the run is one call, with one draw. -/
theorem same (first : pool.Executed service k i draw op reply)
    (second : pool.Executed service k i' draw' op' reply') :
    draw = draw' ∧ (⟨op, reply⟩ : Call Op Reply) = ⟨op', reply'⟩ := by
  have hEvent := first.event.symm.trans second.event
  simp only [Option.some.injEq, Event.mk.injEq] at hEvent
  obtain ⟨-, rfl, -, rfl⟩ := hEvent
  rw [first.reply_unique second]
  exact ⟨rfl, rfl⟩

theorem called_iff (step : pool.Executed service k i draw op reply) {view : Store → Abstract}
    {kind : Draw → Abstract → Call Op Reply → Prop} :
    pool.Called service view k kind ↔ kind draw (view (pool.storeAt k)) ⟨op, reply⟩ := by
  constructor
  · rintro ⟨_, _, _, _, step', h⟩
    obtain ⟨rfl, hCall⟩ := step.same step'
    rwa [hCall]
  · intro h
    exact ⟨i, draw, op, reply, step, h⟩

end Pool.Executed

/-- At each position a step is executed, or the run is over. -/
theorem Runs.executed_or_over (run : Runs service handle start pool) (k : Nat) :
    (∃ i draw op reply, pool.Executed service k i draw op reply) ∨
      pool.storeAt (k + 1) = pool.storeAt k ∧
        ∀ i draw op reply, ¬pool.Executed service k i draw op reply := by
  cases hEvent : pool.log[k]? with
  | some event => exact .inl ⟨_, _, _, _, run.executed hEvent⟩
  | none =>
      have hEnd := List.getElem?_eq_none_iff.mp hEvent
      refine .inr ⟨?_, fun i draw op reply step => absurd step.lt_length (Nat.not_lt.mpr hEnd)⟩
      rw [Pool.storeAt_end hEnd, Pool.storeAt_end (Nat.le_succ_of_le hEnd)]

theorem Pool.not_called {view : Store → Abstract} {kind : Draw → Abstract → Call Op Reply → Prop}
    {k : Nat} (hOver : ∀ i draw op reply, ¬pool.Executed service k i draw op reply) :
    ¬pool.Called service view k kind := by
  rintro ⟨i, draw, op, reply, step, _⟩
  exact hOver i draw op reply step

/-- The behaviour says which calls set a property of the abstract store, and which
clear it. -/
theorem Refines.since {invariant : Store → Prop} {view : Store → Abstract}
    {behaviour : Behaviour Abstract Draw Op Reply}
    (refines : Refines service invariant view behaviour) (run : Runs service handle start pool)
    (hInvariant : invariant start) (holds : Abstract → Prop)
    (sets clears : Draw → Abstract → Call Op Reply → Prop) (hStart : ¬holds (view start))
    (hStep : ∀ draw before op reply after, behaviour draw before op reply after →
      (holds after ↔ sets draw before ⟨op, reply⟩ ∨ holds before ∧ ¬clears draw before ⟨op, reply⟩))
    (l : Nat) :
    holds (view (pool.storeAt l)) ↔ ∃ k < l, pool.Called service view k sets ∧
      ∀ m, k < m → m < l → ¬pool.Called service view m clears := by
  refine holds_iff_since (fun k => holds (view (pool.storeAt k))) ?_ (fun k => ?_) l
  · rwa [run.storeAt_zero]
  · rcases run.executed_or_over k with ⟨i, draw, op, reply, step⟩ | ⟨hSame, hOver⟩
    · rw [step.called_iff, step.called_iff]
      exact hStep _ _ _ _ _ (refines.executed run hInvariant step)
    · simp [hSame, Pool.not_called hOver]

/-- The behaviour says which calls write a part of the abstract store that is
written once. -/
theorem Refines.first {invariant : Store → Prop} {view : Store → Abstract}
    {behaviour : Behaviour Abstract Draw Op Reply}
    (refines : Refines service invariant view behaviour) (run : Runs service handle start pool)
    (hInvariant : invariant start) {Value : Type} (part : Abstract → Option Value)
    (writes : Value → Draw → Abstract → Call Op Reply → Prop) (hStart : part (view start) = none)
    (hStep : ∀ draw before op reply after, behaviour draw before op reply after → ∀ value,
      (part after = some value ↔ part before = some value ∨
        part before = none ∧ writes value draw before ⟨op, reply⟩))
    (l : Nat) :
    (part (view (pool.storeAt l)) = none ↔
      ∀ k < l, ∀ value, ¬pool.Called service view k (writes value)) ∧
    ∀ value, part (view (pool.storeAt l)) = some value ↔
      ∃ k < l, pool.Called service view k (writes value) ∧
        ∀ m < k, ∀ other, ¬pool.Called service view m (writes other) := by
  refine first_iff (fun k => part (view (pool.storeAt k))) ?_ (fun k value => ?_) l
  · rwa [run.storeAt_zero]
  · rcases run.executed_or_over k with ⟨i, draw, op, reply, step⟩ | ⟨hSame, hOver⟩
    · rw [step.called_iff]
      exact hStep _ _ _ _ _ (refines.executed run hInvariant step) value
    · simp [hSame, Pool.not_called hOver]

end Interaction
