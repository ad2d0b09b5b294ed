import GenericAuth.Interaction.Pool

/-! Where the facts of a run come from. A fact that did not hold at the start was
brought about by a step. If each such step rests on an earlier fact, a finite
chain of them leads back to a first cause. -/
namespace Interaction

/-- A fact about a position that has a cause of its own, or rests on one about an
earlier position. -/
inductive Rooted {Subject : Type} (root : Nat → Subject → Prop)
    (rests : Nat → Subject → Nat → Subject → Prop) : Nat → Subject → Prop where
  | root {l : Nat} {x : Subject} (cause : root l x) : Rooted root rests l x
  | rests {k l : Nat} {x y : Subject} (earlier : k < l) (prior : Rooted root rests k y)
      (link : rests l x k y) : Rooted root rests l x

section Rooted

variable {Subject : Type} {root : Nat → Subject → Prop} {rests : Nat → Subject → Nat → Subject → Prop}

theorem rooted_of_steps (holds : Nat → Subject → Prop)
    (hStep : ∀ l x, holds l x → root l x ∨ ∃ k < l, ∃ y, holds k y ∧ rests l x k y)
    {l : Nat} {x : Subject} (h : holds l x) : Rooted root rests l x := by
  induction l using Nat.strong_induction_on generalizing x with
  | h l ih =>
      rcases hStep l x h with cause | ⟨k, earlier, y, hPrior, link⟩
      · exact .root cause
      · exact .rests earlier (ih k earlier hPrior) link

/-- Without a first cause there is nothing. -/
theorem Rooted.exists_root {l : Nat} {x : Subject} (rooted : Rooted root rests l x) :
    ∃ k ≤ l, ∃ y, root k y := by
  induction rooted with
  | @root l x cause => exact ⟨l, Nat.le_refl l, x, cause⟩
  | rests earlier prior link ih =>
      obtain ⟨k, hk, y, cause⟩ := ih
      exact ⟨k, Nat.le_trans hk (Nat.le_of_lt earlier), y, cause⟩

end Rooted

variable {Request Store Draw Op Result : Type} {Reply : Op → Type}
    {service : Service Store Draw Op Reply} {handle : Request → Program Op Reply Result}
    {start : Store} {pool : Pool Request Store Draw Op Reply Result}

/-- What holds at a position and not at the start was brought about by a step. -/
theorem Runs.brought (run : Runs service handle start pool) (holds : Store → Prop)
    (hStart : ¬holds start) {l : Nat} (h : holds (pool.storeAt l)) :
    ∃ k < l, ∃ i draw op reply, pool.Executed service k i draw op reply ∧
      ¬holds (pool.storeAt k) ∧ holds (pool.storeAt (k + 1)) := by
  induction l with
  | zero => exact absurd (run.storeAt_zero ▸ h) hStart
  | succ l ih =>
      by_cases hOld : holds (pool.storeAt l)
      · obtain ⟨k, hk, brought⟩ := ih hOld
        exact ⟨k, Nat.lt_succ_of_lt hk, brought⟩
      · cases hEvent : pool.log[l]? with
        | some event =>
            exact ⟨l, Nat.lt_succ_self l, _, _, _, _, run.executed hEvent, hOld, h⟩
        | none =>
            have hl := List.getElem?_eq_none_iff.mp hEvent
            rw [Pool.storeAt_end (Nat.le_succ_of_le hl), ← Pool.storeAt_end hl] at h
            exact absurd h hOld

end Interaction
