import DenseKron.Kernel.Sweep
import DenseKron.Proofs.Places

/-!
# Where a sweep's cursor stands

A sweep moves one cursor, a step down behind every entry and a jump on behind every column. Over
columns of one length it comes to the same as two nested loops without a cursor: entry `r` of column
`c` is met at `c * stride + r * step`, where a column's steps and its jump make up one `stride`
(`Sweep.run_eq_each`).

The invariant behind this is that the cursor stands at `c * stride + r * step` when entry `r` of
column `c` comes next. The cursor is a machine size, and it is moved once more behind the last entry
of all: as long as the stride of the last column still ends at a machine size, no move can fail.
-/

namespace DenseKron

namespace Sweep

variable {σ α : Type} (step : Nat) (act : Nat → α → Guarded σ Unit)

/-- A column is a loop, in which the cursor stands `r` steps below the top when entry `r` comes
next. It ends below the last entry. -/
theorem column_eq_each (top : Nat) (f : Nat → α) (first count : Nat)
    (h : top + (first + count) * step < Size.limit) (s : σ) :
    column step act (top + first * step) ((List.range' first count).map f) s =
      (Guarded.each (fun r => act (top + r * step) (f r)) (List.range' first count) >>=
        fun _ => pure (top + (first + count) * step)) s := by
  -- on the number of entries that are left, entry `first` being the next
  induction count generalizing first s with
  | zero => rfl
  | succ count ih =>
    rw [List.range'_succ, List.map_cons, column]
    cases hact : act (top + first * step) (f first) s with
    | error fault t =>
      have heach := Guarded.each_cons_of_error (fun r => act (top + r * step) (f r)) hact
        (List.range' (first + 1) count)
      rw [EStateM.bind_of_error hact, EStateM.bind_of_error heach]
    | ok _ t =>
      have hsum : first + (count + 1) = first + 1 + count := by omega
      rw [hsum] at h ⊢
      -- the cursor moves to a place from which it will still reach the end of the column
      have hle : (first + 1) * step ≤ (first + 1 + count) * step :=
        Nat.mul_le_mul_right step (Nat.le_add_right _ _)
      have hnext : Size.add (top + first * step) step = .ok (top + (first + 1) * step) := by
        rw [Size.add_eq_ok_iff, Nat.succ_mul]
        rw [Nat.succ_mul] at hle
        omega
      have heach := Guarded.each_cons_of_ok (fun r => act (top + r * step) (f r)) hact
        (List.range' (first + 1) count)
      rw [EStateM.bind_of_ok hact, Guarded.liftM_bind_of_ok hnext, ih (first + 1) h t]
      exact (EStateM.bind_congr_run heach _).symm

/-- A sweep from column `first` on. -/
theorem run_range'_eq_each {jump stride rows : Nat} (hstride : rows * step + jump = stride)
    (x : Nat → Nat → α) (first count : Nat) (h : (first + count) * stride < Size.limit) (s : σ) :
    run step (.ok jump) act (first * stride)
        ((List.range' first count).map fun c => (List.range rows).map fun r => x r c) s =
      Guarded.each (fun c => Guarded.each (fun r => act (c * stride + r * step) (x r c))
        (List.range rows)) (List.range' first count) s := by
  -- on the number of columns that are left, column `first` being the next
  induction count generalizing first s with
  | zero => rfl
  | succ count ih =>
    have hsum : first + (count + 1) = first + 1 + count := by omega
    rw [hsum] at h
    have hle : (first + 1) * stride ≤ (first + 1 + count) * stride :=
      Nat.mul_le_mul_right stride (Nat.le_add_right _ _)
    rw [Nat.succ_mul] at hle
    have hcolumn := column_eq_each step act (first * stride) (fun r => x r first) 0 rows
      (by rw [Nat.zero_add]; omega) s
    rw [Nat.zero_mul, Nat.add_zero, Nat.zero_add, ← List.range_eq_range'] at hcolumn
    -- a fault inside of the column ends both; else the jump leads to the top of the next one
    rw [List.range'_succ, List.map_cons, run]
    cases hloop : Guarded.each (fun r => act (first * stride + r * step) (x r first))
        (List.range rows) s with
    | error fault t =>
      have heach := Guarded.each_cons_of_error (fun c => Guarded.each
        (fun r => act (c * stride + r * step) (x r c)) (List.range rows)) hloop
        (List.range' (first + 1) count)
      rw [EStateM.bind_of_error (hcolumn.trans (EStateM.bind_of_error hloop _)), heach]
    | ok _ t =>
      have heach := Guarded.each_cons_of_ok (fun c => Guarded.each
        (fun r => act (c * stride + r * step) (x r c)) (List.range rows)) hloop
        (List.range' (first + 1) count)
      have hnext : Size.add (first * stride + rows * step) jump = .ok ((first + 1) * stride) := by
        rw [Size.add_eq_ok_iff, Nat.succ_mul]
        omega
      rw [EStateM.bind_of_ok (hcolumn.trans (EStateM.bind_of_ok hloop _)),
        Guarded.liftM_bind_of_ok rfl, Guarded.liftM_bind_of_ok hnext, heach]
      exact ih (first + 1) h t

/-- **The closed form of a sweep.** Two loops without a cursor. -/
theorem run_eq_each {jump stride rows cols : Nat} (hstride : rows * step + jump = stride)
    (x : Nat → Nat → α) (h : cols * stride < Size.limit) (s : σ) :
    run step (.ok jump) act 0
        ((List.range cols).map fun c => (List.range rows).map fun r => x r c) s =
      Guarded.each (fun c => Guarded.each (fun r => act (c * stride + r * step) (x r c))
        (List.range rows)) (List.range cols) s := by
  have := run_range'_eq_each step act hstride x 0 cols (by rwa [Nat.zero_add]) s
  rwa [Nat.zero_mul, ← List.range_eq_range'] at this

/-- A sweep that ends well has acted well on the first entry. -/
theorem exists_act_of_run_eq_ok {step : Nat} {act : Nat → α → Guarded σ Unit}
    {jump : Except Fault Nat} {cursor : Nat} {x : α} {rest : List α} {more : List (List α)}
    {s t : σ} (h : run step jump act cursor ((x :: rest) :: more) s = .ok () t) :
    ∃ u, act cursor x s = .ok () u := by
  rw [run] at h
  obtain ⟨_, _, hcolumn, -⟩ := Guarded.bind_eq_ok_iff.1 h
  rw [column] at hcolumn
  obtain ⟨⟨⟩, u, hact, -⟩ := Guarded.bind_eq_ok_iff.1 hcolumn
  exact ⟨u, hact⟩

end Sweep

/-! ### What is swept over -/

namespace Operand

variable {α : Type} {a : Operand α}

theorem packed_eq_ok_iff {entries : Array α} :
    a.packed = .ok entries ↔ a.rows * a.cols < Size.limit ∧
      a.rows * a.cols ≤ a.entries.size ∧ entries = a.entries.extract 0 (a.rows * a.cols) := by
  -- two steps: the number of entries, and the cut
  rw [packed, Fault.bind_eq_ok_iff]
  constructor
  · rintro ⟨_, hmul, hcut⟩
    obtain ⟨hlt, rfl⟩ := Size.mul_eq_ok_iff.1 hmul
    exact ⟨hlt, cut_eq_ok_iff.1 hcut⟩
  · rintro ⟨hlt, hcut⟩
    exact ⟨_, Size.mul_eq_ok_iff.2 ⟨hlt, rfl⟩, cut_eq_ok_iff.2 hcut⟩

/-- A packed operand with room for its entries holds some. -/
theorem exists_holds_entries (d : α) (h : a.rows * a.cols ≤ a.entries.size) :
    ∃ x, Holds a.entries a.rows a.cols a.rows x := by
  refine exists_holds d ?_
  rcases Nat.eq_zero_or_pos a.cols with hcols | hcols
  · exact Or.inr (Or.inl hcols)
  · have hspan : (a.cols - 1) * a.rows + a.rows = a.rows * a.cols := by
      rw [pred_mul_add hcols, Nat.mul_comm]
    exact Or.inr (Or.inr (hspan ▸ h))

/-- What lies behind the declared entries is not looked at. -/
theorem holds_packed {x : Nat → Nat → α} (hx : Holds a.entries a.rows a.cols a.rows x) :
    Holds (a.entries.extract 0 (a.rows * a.cols)) a.rows a.cols a.rows x := by
  refine hx.extract fun r hr c hc => ?_
  rw [Nat.mul_comm a.rows]
  exact mul_add_lt_mul hc hr

/-- Buffers that agree on what a shape declares hold the same entries. -/
theorem holds_of_agree {u : Array α} {x : Nat → Nat → α}
    (hx : Holds a.entries a.rows a.cols a.rows x)
    (hagree : ∀ t < a.rows * a.cols, u[t]? = a.entries[t]?) : Holds u a.rows a.cols a.rows x := by
  intro r hr c hc
  rw [← hx r hr c hc]
  refine hagree _ ?_
  rw [Nat.mul_comm a.rows]
  exact mul_add_lt_mul hc hr

/-- A buffer that agrees with a long enough one is long enough. -/
theorem le_size_of_agree {u v : Array α} {n : Nat} (h : n ≤ v.size)
    (hagree : ∀ t < n, u[t]? = v[t]?) : n ≤ u.size := by
  by_contra hlt
  -- the first place that the shorter buffer lacks is one on which they should agree
  have hnone : u[u.size]? = none := Array.getElem?_eq_none (Nat.le_refl _)
  rw [hagree u.size (by omega), Array.getElem?_eq_getElem (by omega)] at hnone
  cases hnone

theorem columns_eq {entries : Array α} {x : Nat → Nat → α}
    (hx : Holds entries a.rows a.cols a.rows x) :
    a.columns entries =
      (List.range a.cols).map fun c => (List.range a.rows).map fun r => x r c := by
  refine List.map_congr_left fun c hc => ?_
  rw [Nat.succ_mul]
  exact hx.extract_toList (List.mem_range.1 hc)

end Operand

end DenseKron
