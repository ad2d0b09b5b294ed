import Mathlib.Data.List.Nodup
import Mathlib.Data.Nat.Init
import Mathlib.Order.Lattice

/-! Pages of a table that is sorted anew for every page. Entries with equal keys may
come in another order each time, so the pages fit together only where no group of
equal keys reaches over a boundary. -/
namespace Relational

variable {α κ : Type} [LinearOrder κ] (key : α → κ)

/-- Later entries have no greater key. -/
def Descending (entries : List α) : Prop :=
  entries.Pairwise fun first second => key second ≤ key first

/-- No entry has fewer than `b` entries before its group of equal keys, and more
than `b` up to the end of the group. -/
def Aligned (entries : List α) (b : Nat) : Prop :=
  ∀ entry ∈ entries, ¬(entries.countP (fun other => key entry < key other) < b ∧
    b < entries.countP fun other => key entry ≤ key other)

instance (entries : List α) (b : Nat) : Decidable (Aligned key entries b) :=
  inferInstanceAs (Decidable (∀ _ ∈ _, _))

/-- Page `k`, of at most `n` entries. -/
def page (entries : List α) (n k : Nat) : List α := (entries.drop (k * n)).take n

/-- The first `m` pages, each from an order of its own. -/
def pages (orders : Nat → List α) (n m : Nat) : List α :=
  (List.range m).flatMap fun k => page (orders k) n k

variable {key} {entries entries' : List α} {n m b k : Nat}

theorem take_succ_page (entries : List α) (n k : Nat) :
    entries.take ((k + 1) * n) = entries.take (k * n) ++ page entries n k := by
  rw [Nat.succ_mul, List.take_add, page]

theorem pages_succ (orders : Nat → List α) (n m : Nat) :
    pages orders n (m + 1) = pages orders n m ++ page (orders m) n m := by
  rw [pages, pages, List.range_succ, List.flatMap_append, List.flatMap_singleton]

/-- The pages of a single order are its entries one after the other. -/
theorem pages_const (entries : List α) (n m : Nat) :
    pages (fun _ => entries) n m = entries.take (m * n) := by
  induction m with
  | zero => simp [pages]
  | succ m ih => rw [pages_succ, ih, take_succ_page]

theorem Aligned.perm (aligned : Aligned key entries b) (perm : entries'.Perm entries) :
    Aligned key entries' b := by
  intro entry hMem
  rw [perm.countP_eq, perm.countP_eq]
  exact aligned entry (perm.mem_iff.mp hMem)

theorem aligned_of_length_le (h : entries.length ≤ b) : Aligned key entries b := by
  intro entry _ ⟨_, hUpTo⟩
  have := List.countP_le_length (p := fun other => decide (key entry ≤ key other)) (l := entries)
  omega

theorem Descending.split (descending : Descending key entries) (b : Nat) {first second : α}
    (hFirst : first ∈ entries.take b) (hSecond : second ∈ entries.drop b) :
    key second ≤ key first := by
  rw [Descending, ← List.take_append_drop b entries] at descending
  exact (List.pairwise_append.mp descending).2.2 first hFirst second hSecond

/-- An aligned boundary separates greater keys from smaller ones. -/
theorem Aligned.separates (aligned : Aligned key entries b) (descending : Descending key entries)
    {first second : α} (hFirst : first ∈ entries.take b) (hSecond : second ∈ entries.drop b) :
    key second < key first := by
  by_contra hNot
  have hLength : (entries.take b).length = b := by
    have := List.length_pos_of_mem hSecond
    rw [List.length_drop] at this
    rw [List.length_take]
    omega
  have hBefore : entries.countP (fun other => key first < key other) < b := by
    have hDrop : (entries.drop b).countP (fun other => key first < key other) = 0 := by
      apply List.countP_eq_zero.mpr
      intro other hMem
      simpa using descending.split b hFirst hMem
    have hTake : (entries.take b).countP (fun other => key first < key other) <
        (entries.take b).length := by
      apply Nat.lt_of_le_of_ne List.countP_le_length
      intro hAll
      exact lt_irrefl (key first) (by simpa using List.countP_eq_length.mp hAll first hFirst)
    rw [← List.take_append_drop b entries, List.countP_append, hDrop]
    omega
  have hUpTo : b < entries.countP (fun other => key first ≤ key other) := by
    have hTake : (entries.take b).countP (fun other => key first ≤ key other) =
        (entries.take b).length := by
      apply List.countP_eq_length.mpr
      intro other hMem
      have hLe := descending.split b hMem hSecond
      simpa using le_trans (not_lt.mp hNot) hLe
    have hDrop : 0 < (entries.drop b).countP (fun other => key first ≤ key other) :=
      List.countP_pos_iff.mpr ⟨second, hSecond, by simpa using hNot⟩
    rw [← List.take_append_drop b entries, List.countP_append, hTake]
    omega
  exact aligned first (List.mem_of_mem_take hFirst) ⟨hBefore, hUpTo⟩

/-- A condition that only gets false further down selects a beginning. -/
theorem filter_eq_take {entries : List α} {p : α → Bool}
    (h : entries.Pairwise fun first second => p second = true → p first = true) :
    entries.filter p = entries.take (entries.countP p) := by
  induction entries with
  | nil => rfl
  | cons entry rest ih =>
      obtain ⟨hEntry, hRest⟩ := List.pairwise_cons.mp h
      cases hp : p entry with
      | true => simp [hp, ih hRest]
      | false =>
          have none : ∀ other ∈ rest, ¬p other = true := by
            intro other hMem hOther
            rw [hEntry other hMem hOther] at hp
            cases hp
          simp [hp, List.filter_eq_nil_iff.mpr none, List.countP_eq_zero.mpr none]

/-- What comes before a boundary is the same for every order. -/
theorem Aligned.take_perm (aligned : Aligned key entries b) (descending : Descending key entries)
    (descending' : Descending key entries') (perm : entries'.Perm entries) :
    (entries'.take b).Perm (entries.take b) := by
  rcases Nat.lt_or_ge entries.length b with hShort | hLong
  · rw [List.take_of_length_le (by rw [perm.length_eq]; omega), List.take_of_length_le (by omega)]
    exact perm
  -- the entries before the boundary are those above everything behind it
  let p : α → Bool := fun entry => (entries.drop b).all fun other => key other < key entry
  have hTake : entries.filter p = entries.take b := by
    have hBefore : (entries.take b).filter p = entries.take b := by
      apply List.filter_eq_self.mpr
      intro entry hMem
      simpa [p] using fun other hOther => aligned.separates descending hMem hOther
    have hBehind : (entries.drop b).filter p = [] := by
      apply List.filter_eq_nil_iff.mpr
      intro entry hMem hEntry
      exact lt_irrefl (key entry) (by simpa using List.all_eq_true.mp hEntry entry hMem)
    calc entries.filter p = (entries.take b ++ entries.drop b).filter p := by
          rw [List.take_append_drop]
      _ = entries.take b := by rw [List.filter_append, hBefore, hBehind, List.append_nil]
  have hCount : entries'.countP p = b := by
    rw [perm.countP_eq, List.countP_eq_length_filter, hTake, List.length_take]
    omega
  have hTake' : entries'.filter p = entries'.take b := by
    rw [filter_eq_take, hCount]
    apply descending'.imp
    intro first second hLe hSecond
    apply List.all_eq_true.mpr
    intro other hMem
    have hLt := List.all_eq_true.mp hSecond other hMem
    simpa using lt_of_lt_of_le (by simpa using hLt) hLe
  rw [← hTake, ← hTake']
  exact perm.filter p

theorem page_perm (hStart : Aligned key entries (k * n)) (hEnd : Aligned key entries ((k + 1) * n))
    (descending : Descending key entries) (descending' : Descending key entries')
    (perm : entries'.Perm entries) : (page entries' n k).Perm (page entries n k) := by
  have before := hStart.take_perm descending descending' perm
  have upTo := hEnd.take_perm descending descending' perm
  rw [take_succ_page, take_succ_page] at upTo
  exact (List.perm_append_left_iff _).mp ((before.symm.append_right _).trans upTo)

/-- Aligned pages, each from an order of its own, make up the whole. -/
theorem pages_perm {orders : Nat → List α} (aligned : ∀ k, Aligned key entries (k * n))
    (descending : ∀ k, Descending key (orders k)) (perm : ∀ k, (orders k).Perm entries)
    (hAll : entries.length ≤ m * n) : (pages orders n m).Perm entries := by
  have first (k : Nat) : (page (orders k) n k).Perm (page (orders 0) n k) :=
    page_perm ((aligned k).perm (perm 0)) ((aligned (k + 1)).perm (perm 0)) (descending 0)
      (descending k) ((perm k).trans (perm 0).symm)
  have whole : pages (fun _ => orders 0) n m = orders 0 := by
    rw [pages_const, List.take_of_length_le]
    rwa [(perm 0).length_eq]
  have same : (pages orders n m).Perm (pages (fun _ => orders 0) n m) := by
    clear hAll whole
    induction m with
    | zero => exact .refl _
    | succ m ih =>
        rw [pages_succ, pages_succ]
        exact ih.append (first m)
  rw [whole] at same
  exact same.trans (perm 0)

/-! ### Boundaries inside a group -/

theorem of_mem_drop_countP {entries : List α} {p : α → Bool} {entry : α}
    (h : entries.Pairwise fun first second => p second = true → p first = true)
    (hMem : entry ∈ entries.drop (entries.countP p)) : p entry = false := by
  have hTake : (entries.take (entries.countP p)).countP p = entries.countP p := by
    rw [← filter_eq_take h, List.countP_filter, List.countP_congr]
    simp
  have hSplit := congrArg (List.countP p) (List.take_append_drop (entries.countP p) entries)
  rw [List.countP_append, hTake] at hSplit
  have hNone : (entries.drop (entries.countP p)).countP p = 0 := by omega
  simpa using List.countP_eq_zero.mp hNone entry hMem

/-- At a boundary inside a group two neighbours have the same key. -/
theorem exists_tie (descending : Descending key entries) (split : ¬Aligned key entries b) :
    ∃ before first second behind, entries = before ++ first :: second :: behind ∧
      before.length + 1 = b ∧ key first = key second := by
  simp only [Aligned, not_forall, not_not] at split
  obtain ⟨entry, _, hBefore, hUpTo⟩ := split
  have above : entries.Pairwise fun first second =>
      decide (key entry < key second) = true → decide (key entry < key first) = true :=
    descending.imp fun hLe h => by simpa using lt_of_lt_of_le (by simpa using h) hLe
  have upTo : entries.Pairwise fun first second =>
      decide (key entry ≤ key second) = true → decide (key entry ≤ key first) = true :=
    descending.imp fun hLe h => by simpa using le_trans (by simpa using h) hLe
  have hLength : b < entries.length := Nat.lt_of_lt_of_le hUpTo List.countP_le_length
  have hFirst : key entries[b - 1] ≤ key entry := by
    have hMem : entries[b - 1] ∈ entries.drop (entries.countP fun other => key entry < key other) :=
      List.mem_drop_iff_getElem.mpr
        ⟨b - 1 - entries.countP fun other => key entry < key other, by omega, by congr 1; omega⟩
    simpa using of_mem_drop_countP above hMem
  have hSecond : key entry ≤ key entries[b] := by
    have hMem : entries[b] ∈ entries.take (entries.countP fun other => key entry ≤ key other) :=
      List.mem_take_iff_getElem.mpr ⟨b, by omega, rfl⟩
    rw [← filter_eq_take upTo] at hMem
    simpa using (List.mem_filter.mp hMem).2
  refine ⟨entries.take (b - 1), entries[b - 1], entries[b], entries.drop (b + 1), ?_, ?_, ?_⟩
  · rw [← List.drop_eq_getElem_cons hLength]
    have hNext : b - 1 + 1 = b := by omega
    have hDrop := List.drop_eq_getElem_cons (show b - 1 < entries.length by omega)
    rw [hNext] at hDrop
    rw [← hDrop, List.take_append_drop]
  · rw [List.length_take]
    omega
  · exact le_antisymm (le_trans hFirst hSecond)
      (List.pairwise_iff_getElem.mp descending (b - 1) b (by omega) hLength (by omega))

/-- They can be exchanged. -/
theorem Descending.swap {before behind : List α} {first second : α}
    (descending : Descending key (before ++ first :: second :: behind))
    (hKey : key first = key second) : Descending key (before ++ second :: first :: behind) := by
  simp only [Descending, List.pairwise_append, List.pairwise_cons, List.mem_cons] at descending ⊢
  grind

/-- Where a boundary lies inside a group, two orders show an entry on both sides. -/
theorem exists_repeated (hn : 0 < n) (descending : Descending key entries)
    (split : ¬Aligned key entries (k * n)) :
    ∃ entries', Descending key entries' ∧ entries'.Perm entries ∧ 0 < k ∧ ∃ entry,
      entry ∈ page entries n (k - 1) ∧ entry ∈ page entries' n k := by
  obtain ⟨before, first, second, behind, rfl, hLength, hKey⟩ := exists_tie descending split
  have hk : 0 < k := by
    rcases Nat.eq_zero_or_pos k with rfl | hk
    · simp at hLength
    · exact hk
  obtain ⟨j, rfl⟩ : ∃ j, k = j + 1 := ⟨k - 1, by omega⟩
  refine ⟨before ++ second :: first :: behind, descending.swap hKey, ?_, hk, first, ?_, ?_⟩
  · exact (List.Perm.swap first second behind).append_left before
  · have hDrop : (before.drop (j * n)).length = n - 1 := by
      rw [Nat.succ_mul] at hLength
      rw [List.length_drop]
      omega
    rw [page, Nat.add_sub_cancel, List.drop_append_of_le_length (by rw [Nat.succ_mul] at hLength; omega),
      List.take_append, hDrop, show n - (n - 1) = 1 by omega]
    simp
  · rw [page, ← hLength, List.append_cons, List.drop_left' (by simp)]
    obtain ⟨l, rfl⟩ : ∃ l, n = l + 1 := ⟨n - 1, by omega⟩
    simp

/-- An entry that is on two pages of a walk is there twice. -/
theorem not_nodup_pages {orders : Nat → List α} {entry : α} {j k : Nat} (hjk : j < k) (hkm : k < m)
    (hFirst : entry ∈ page (orders j) n j) (hSecond : entry ∈ page (orders k) n k) :
    ¬(pages orders n m).Nodup := by
  intro nodup
  rw [pages, List.nodup_flatMap] at nodup
  have disjoint := List.pairwise_iff_getElem.mp nodup.2 j k (by simpa using Nat.lt_trans hjk hkm)
    (by simpa using hkm) hjk
  simp only [List.getElem_range] at disjoint
  exact disjoint hFirst hSecond

/-! ### Positions -/

/-- The entries at the positions from `start` on that come before `stop`. -/
def between (entries : List α) (start stop : Int) : List α :=
  (entries.zipIdx.filter fun entry => start ≤ entry.2 ∧ entry.2 < stop).map Prod.fst

theorem zipIdx_filter_lt (entries : List α) (count k : Nat) :
    ((entries.zipIdx k).filter fun entry => entry.2 < k + count) = (entries.take count).zipIdx k := by
  induction entries generalizing count k with
  | nil => simp
  | cons entry rest ih =>
      cases count with
      | zero =>
          simp only [List.take_zero, List.zipIdx_nil, List.filter_eq_nil_iff]
          intro indexed hMem
          have := (List.mem_zipIdx hMem).1
          simpa using this
      | succ count =>
          have hRest := ih count (k + 1)
          rw [Nat.add_right_comm] at hRest
          simp [← hRest, Nat.add_assoc]

theorem zipIdx_filter_le (entries : List α) (start k : Nat) :
    ((entries.zipIdx k).filter fun entry => k + start ≤ entry.2) =
      (entries.drop start).zipIdx (k + start) := by
  induction entries generalizing start k with
  | nil => simp
  | cons entry rest ih =>
      cases start with
      | zero =>
          apply List.filter_eq_self.mpr
          intro indexed hMem
          have := (List.mem_zipIdx hMem).1
          simpa using this
      | succ start =>
          have hRest := ih start (k + 1)
          rw [Nat.add_right_comm, Nat.add_assoc] at hRest
          simpa using hRest

/-- Skipping and limiting select the entries by their positions. -/
theorem between_eq (entries : List α) (start count : Nat) :
    between entries start (start + count) = (entries.drop start).take count := by
  have hStart := zipIdx_filter_le entries start 0
  have hCount := zipIdx_filter_lt (entries.drop start) count start
  rw [Nat.zero_add] at hStart
  have hBoth : (entries.zipIdx.filter fun entry =>
      (start : Int) ≤ entry.2 ∧ (entry.2 : Int) < start + count) =
        ((entries.drop start).take count).zipIdx start := by
    rw [← hCount, ← hStart, List.filter_filter]
    apply List.filter_congr
    intro indexed _
    rw [← Bool.decide_and, decide_eq_decide]
    omega
  rw [between, hBoth, List.zipIdx_map_fst]

/-! ### Walks -/

section Walks

variable {β : Type} {answers : Nat → Option (List β)} {orders : Nat → List α} {f : α → β}

/-- Page after page, until one is empty. -/
inductive Walk (answers : Nat → Option (List β)) : Nat → List β → Prop
  | last {k : Nat} : answers k = some [] → Walk answers k []
  | next {k : Nat} {entry : β} {rest others : List β} : answers k = some (entry :: rest) →
      Walk answers (k + 1) others → Walk answers k (entry :: rest ++ others)

theorem page_eq_nil (hn : 0 < n) : page entries n k = [] ↔ entries.length ≤ k * n := by
  rw [page, List.take_eq_nil_iff, List.drop_eq_nil_iff]
  omega

/-- A walk ends at an empty page, and has put the pages before it together. -/
theorem Walk.collected {all : List β} (walk : Walk answers k all)
    (hAnswers : ∀ j list, answers j = some list → list = (page (orders j) n j).map f) :
    ∃ m, answers m = some [] ∧
      (pages orders n k).map f ++ all = (pages orders n m).map f := by
  induction walk with
  | last hLast => exact ⟨_, hLast, List.append_nil _⟩
  | next hPage _ ih =>
      obtain ⟨m, hLast, hAll⟩ := ih
      refine ⟨m, hLast, ?_⟩
      rw [← hAll, pages_succ, List.map_append, ← hAnswers _ _ hPage, List.append_assoc]

theorem exists_walk (hLast : answers m = some []) (hk : k ≤ m)
    (hAnswers : ∀ j < m, answers j = some ((page (orders j) n j).map f) ∧ page (orders j) n j ≠ []) :
    ∃ all, Walk answers k all ∧
      (pages orders n k).map f ++ all = (pages orders n m).map f := by
  induction hk using Nat.decreasingInduction with
  | self => exact ⟨[], .last hLast, List.append_nil _⟩
  | of_succ k hkm ih =>
      obtain ⟨others, walk, hAll⟩ := ih
      obtain ⟨hPage, nonempty⟩ := hAnswers k hkm
      obtain ⟨entry, rest, hEntries⟩ := List.exists_cons_of_ne_nil nonempty
      refine ⟨f entry :: rest.map f ++ others, .next ?_ walk, ?_⟩
      · rw [hPage, hEntries, List.map_cons]
      · rw [← hAll, pages_succ, hEntries, List.map_append, List.map_cons, List.append_assoc]

theorem Walk.unique {all all' : List β} (walk : Walk answers k all) (walk' : Walk answers k all') :
    all = all' := by
  induction walk generalizing all' with
  | last hLast =>
      cases walk' with
      | last => rfl
      | next hPage => simp [hLast] at hPage
  | next hPage _ ih =>
      cases walk' with
      | last hLast => simp [hPage] at hLast
      | next hPage' walk' =>
          obtain ⟨rfl, rfl⟩ := List.cons.inj (Option.some.inj (hPage.symm.trans hPage'))
          rw [ih walk']

/-- Where every boundary is aligned a walk finds every entry once. -/
theorem exists_complete_walk (hn : 0 < n) (aligned : ∀ k, Aligned key entries (k * n))
    (descending : ∀ k, Descending key (orders k)) (perm : ∀ k, (orders k).Perm entries)
    (hEnd : entries.length ≤ k * n)
    (hAnswers : ∀ j ≤ k, answers j = some ((page (orders j) n j).map f)) :
    ∃ all, Walk answers 0 all ∧ all.Perm (entries.map f) := by
  induction k with
  | zero =>
      have hEmpty : page (orders 0) n 0 = [] := by
        rw [page_eq_nil hn, (perm 0).length_eq]
        exact hEnd
      refine ⟨[], .last ?_, ?_⟩
      · rw [hAnswers 0 (Nat.le_refl 0), hEmpty, List.map_nil]
      · rw [List.eq_nil_of_length_eq_zero (by omega : entries.length = 0), List.map_nil]
  | succ k ih =>
      rcases Nat.lt_or_ge (k * n) entries.length with hMore | hEnd'
      · have hLast : answers (k + 1) = some [] := by
          rw [hAnswers _ (Nat.le_refl _), (page_eq_nil hn).mpr, List.map_nil]
          rwa [(perm _).length_eq]
        obtain ⟨all, walk, hAll⟩ := exists_walk hLast (Nat.zero_le (k + 1)) fun j hj =>
          ⟨hAnswers j (Nat.le_of_lt hj), fun hEmpty => by
            rw [page_eq_nil hn, (perm j).length_eq] at hEmpty
            have := Nat.mul_le_mul_right n (Nat.lt_succ_iff.mp hj)
            omega⟩
        refine ⟨all, walk, ?_⟩
        rw [show pages orders n 0 = [] from rfl, List.map_nil, List.nil_append] at hAll
        rw [hAll]
        exact (pages_perm aligned descending perm hEnd).map f
      · exact ih hEnd' fun j hj => hAnswers j (Nat.le_succ_of_le hj)

/-- An entry that two pages show is found more than once. -/
theorem Walk.incomplete {all : List β} {entry : α} {j : Nat} (hn : 0 < n)
    (walk : Walk answers 0 all)
    (hAnswers : ∀ j list, answers j = some list → list = (page (orders j) n j).map f)
    (perm : ∀ k, (orders k).Perm entries) (distinct : (entries.map f).Nodup) (hjk : j < k)
    (hFirst : entry ∈ page (orders j) n j) (hSecond : entry ∈ page (orders k) n k) :
    ¬all.Perm (entries.map f) := by
  intro hPerm
  obtain ⟨m, hLast, hAll⟩ := walk.collected hAnswers
  have hEnd : entries.length ≤ m * n := by
    have hEmpty := List.map_eq_nil_iff.mp (hAnswers m [] hLast).symm
    rwa [page_eq_nil hn, (perm m).length_eq] at hEmpty
  have hkm : k < m := by
    by_contra hNot
    have := Nat.mul_le_mul_right n (Nat.not_lt.mp hNot)
    rw [(page_eq_nil hn).mpr (by rw [(perm k).length_eq]; omega)] at hSecond
    cases hSecond
  have nodup : ((pages orders n m).map f).Nodup := by
    rw [← hAll]
    exact hPerm.nodup_iff.mpr distinct
  exact not_nodup_pages hjk hkm hFirst hSecond nodup.of_map

end Walks

end Relational
