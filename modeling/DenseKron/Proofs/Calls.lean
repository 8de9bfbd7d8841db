import DenseKron.Kernel.Products
import DenseKron.Proofs.Schedules
import Mathlib.Data.List.Nodup

/-!
# Calls, action by action

What a program *writes* (`Writes`) is known up to the buffer that it leaves. Where a call writes,
and how often, is a finer question, and the buffer does not tell: an element may be stored twice, or
be given the value that it had. So each call that a kernel makes is taken apart here into the list
of its actions, which are those of its columns or of its tasks in the order in which the call makes
them (`Copier.actions`, `diagonalActions`); to make the call is to perform that list
(`Copier.copy_eq_perform`, `storeDiagonal_eq_perform`). The write set of the call is then read off
the list (`places`).

Calls **keep apart** if they are faultless, write each of their places once, and share none
(`KeepApart`). This is all that it takes for the calls to be made in any order
(`KeepApart.each_perm`).
-/

namespace DenseKron

/-! ### Write sets -/

section Places

variable {α : Type}

/-- **The write set** of a list of actions: the places that they store to, each as often as they do.
-/
def places (acts : List (Action α)) : List Nat :=
  acts.filterMap fun
    | .ok s => some s.index
    | .error _ => none

theorem places_map_ok (stores : List (Store α)) :
    places (stores.map .ok) = stores.map Store.index := by
  rw [places, List.filterMap_map]
  exact congrFun List.filterMap_eq_map' stores

/-- Stores to places of their own cannot disagree. -/
theorem consistent_of_nodup {stores : List (Store α)} (h : (stores.map Store.index).Nodup) :
    Consistent stores := by
  intro s hs t ht hidx
  rw [List.inj_on_of_nodup_map h hs ht hidx]

end Places

/-! ### Loops over calls -/

section Loops

variable {σ ι κ : Type}

theorem Guarded.each_append (act : ι → Guarded σ Unit) (first second : List ι) (s : σ) :
    Guarded.each act (first ++ second) s =
      (Guarded.each act first >>= fun _ => Guarded.each act second) s := by
  induction first generalizing s with
  | nil => rfl
  | cons i rest ih =>
    rw [List.cons_append]
    cases h : act i s with
    | ok _ t =>
      rw [Guarded.each_cons_of_ok act h, ih]
      exact (EStateM.bind_congr_run (Guarded.each_cons_of_ok act h rest) _).symm
    -- a fault in the first part keeps both sides from the second
    | error f t =>
      rw [Guarded.each_cons_of_error act h,
        EStateM.bind_of_error (Guarded.each_cons_of_error act h rest)]

/-- Two loops, one inside of the other, are one loop over all rounds of the inner one. -/
theorem Guarded.each_flatMap (act : κ → Guarded σ Unit) (f : ι → List κ) (l : List ι) (s : σ) :
    Guarded.each act (l.flatMap f) s = Guarded.each (fun i => Guarded.each act (f i)) l s := by
  induction l generalizing s with
  | nil => rfl
  | cons i rest ih =>
    rw [List.flatMap_cons, Guarded.each_append, Guarded.each_cons, funext ih]

theorem Guarded.each_flatMap_map {ν : Type} (act : ν → Guarded σ Unit) (g : ι → κ → ν)
    (l : List ι) (l' : List κ) (s : σ) :
    Guarded.each act (l.flatMap fun i => l'.map (g i)) s =
      Guarded.each (fun i => Guarded.each (fun k => act (g i k)) l') l s := by
  rw [Guarded.each_flatMap]
  exact Guarded.each_congr (fun i _ t => Guarded.each_map act (g i) l' t) s

/-- A loop over lists of actions performs them all. -/
theorem Write.perform_flatMap {α : Type} (acts : ι → List (Action α)) (l : List ι)
    (dst : Array α) :
    Write.perform (l.flatMap acts) dst =
      Guarded.each (fun i => Write.perform (acts i)) l dst := by
  induction l generalizing dst with
  | nil => rfl
  | cons i rest ih =>
    rw [List.flatMap_cons, Write.perform_append, Guarded.each_cons, funext ih]

end Loops

/-! ### The actions of a block copy -/

section Copies

variable {α : Type} [One α] [Mul α] [DecidableEq α]

/-- The actions of a serial copy: column after column of the source. -/
def CopyPlan.serialActions (p : CopyPlan) (alpha : α) (a : Array α) (w : Window) :
    List (Action α) :=
  (List.range p.cols).flatMap (p.column alpha a w)

/-- The actions of a chunked copy: task after task. -/
def CopyPlan.chunkedActions (p : CopyPlan) (alpha : α) (a : Array α) (w : Window) :
    List (Action α) :=
  (p.tasks alpha a w).flatten

namespace Copier

/-- The actions by which a copier carries out a plan. -/
def planActions (c : Copier) (p : CopyPlan) (alpha : α) (a : Array α) (w : Window) :
    List (Action α) :=
  match c with
  | .portable => p.serialActions alpha a w
  | .parallel threshold =>
    match Size.mul p.rows p.cols with
    | .error f => [.error f]
    | .ok count =>
      if threshold ≤ count then p.chunkedActions alpha a w else p.serialActions alpha a w

/-- **The actions of a block copy** to a window. -/
def actions (c : Copier) (r : CopyRequest) (alpha : α) (a : Array α) (w : Window) :
    List (Action α) :=
  match r.plan a.size w.length with
  | .error f => [.error f]
  | .ok none => []
  | .ok (some p) => c.planActions p alpha a w

theorem run_eq_perform (c : Copier) (p : CopyPlan) (alpha : α) (a : Array α) (w : Window) :
    c.run p alpha a w = Write.perform (c.planActions p alpha a w) := by
  -- the loops run over columns and over tasks; performing runs over one list
  have hserial : p.serial alpha a w = Write.perform (p.serialActions alpha a w) := by
    funext dst
    exact (Write.perform_flatMap _ _ dst).symm
  have hchunked : p.chunked alpha a w = Write.perform (p.chunkedActions alpha a w) := by
    funext dst
    rw [CopyPlan.chunkedActions, CopyPlan.tasks, ← List.flatMap_def, Write.perform_flatMap]
    rfl
  cases c with
  | portable => exact hserial
  | parallel threshold =>
    rw [run, planActions]
    -- that the elements cannot be counted is an action of its own
    cases Size.mul p.rows p.cols with
    | error f => rfl
    | ok count =>
      show (if threshold ≤ count then p.chunked alpha a w else p.serial alpha a w) =
        Write.perform (if threshold ≤ count then _ else _)
      rw [apply_ite Write.perform, hserial, hchunked]

/-- **To copy is to perform the actions of the copy**, from its first to its last or to the first
fault. -/
theorem copy_eq_perform (c : Copier) (r : CopyRequest) (alpha : α) (a : Array α) {start : Nat}
    {dst : Array α} (h : start ≤ dst.size) :
    c.copy r alpha a start dst =
      Write.perform (c.actions r alpha a ⟨start, dst.size - start⟩) dst := by
  rw [copy, EStateM.bind_of_ok (Write.window_of_le h), actions]
  -- a refused request is performed as its fault, and an empty one as nothing
  cases r.plan a.size (dst.size - start) with
  | error f => rw [Guarded.liftM_bind_of_error rfl, Write.perform_error]
  | ok o =>
    rw [Guarded.liftM_bind_of_ok rfl]
    cases o with
    | none => rfl
    | some p => exact congrFun (c.run_eq_perform p alpha a _) dst

variable {a : Array α} {w : Window}

/-- Without transposition a block is written column after column, by every copier. -/
theorem planActions_eq (c : Copier) {p : CopyPlan} {x : Nat → Nat → α}
    (hp : p.transpose = .noTrans) (h : p.Fits a.size w.length)
    (hx : Holds a p.rows p.cols p.lda x) (alpha : α) :
    c.planActions p alpha a w = (p.stores alpha x w.start).map .ok := by
  have hstores : p.stores alpha x w.start =
      (List.range p.destinationCols).flatMap (p.columnStores alpha x w.start) := rfl
  -- both ways of copying make the stores of the plan, column by column
  have hserial : p.serialActions alpha a w = (p.stores alpha x w.start).map .ok := by
    rw [hstores, List.map_flatMap, CopyPlan.destinationCols_of_noTrans hp]
    refine List.flatMap_congr fun j hj => ?_
    rw [CopyPlan.column_of_noTrans hp h hx alpha (List.mem_range.1 hj), CopyPlan.columnStores,
      CopyPlan.destinationRows_of_noTrans hp]
    simp only [CopyPlan.image, hp]
  have hchunked : p.chunkedActions alpha a w = (p.stores alpha x w.start).map .ok := by
    rw [CopyPlan.chunkedActions, CopyPlan.tasks_eq h hx, hstores, List.map_flatMap, List.map_map,
      ← List.flatMap_def]
    rfl
  cases c with
  | portable => exact hserial
  | parallel threshold =>
    rw [planActions, Size.mul_eq_ok_iff.2 ⟨h.mul_lt_limit, rfl⟩]
    -- so it does not matter on which side of the threshold the block lies
    show (if threshold ≤ p.rows * p.cols then _ else _) = _
    rw [hserial, hchunked, ite_self]

/-- A packed block, copied to the place of block `(i, j)` of a block matrix: the actions are stores,
one for each entry of the block. -/
theorem actions_blockPlace_eq (c : Copier) {m n p q i j len : Nat} {y : Nat → Nat → α} (hi : i < m)
    (hj : j < n) (hp : 0 < p) (hq : 0 < q) (hlt : m * p * (n * q) < Size.limit)
    (hle : m * p * (n * q) ≤ len) (hy : Holds a p q p y) (alpha : α) :
    c.actions { rows := p, cols := q, lda := p, ldb := m * p } alpha a
        ⟨blockPlace m p q i j 0 0, len - blockPlace m p q i j 0 0⟩ =
      (blockStores (blockPlace m p q i j 0 0) p q (m * p) fun k l => scale alpha (y k l)).map
        .ok := by
  obtain ⟨-, hfit⟩ := CopyRequest.fits_blockPlace hi hj hp hq hlt hle (hy.mul_le_size hp hq)
  have hplan := (CopyRequest.plan_eq_ok_iff (CopyRequest.not_isEmpty_of_fits hfit)).2 ⟨hfit, rfl⟩
  rw [actions, hplan]
  exact c.planActions_eq rfl hfit hy alpha

end Copier

end Copies

/-! ### The actions of a diagonal -/

section Diagonals

variable {α : Type}

/-- The actions of storing `x` along a diagonal, from the start of the window on. -/
def diagonalActions (ldb n : Nat) (w : Window) (x : α) : List (Action α) :=
  match Size.add ldb 1 with
  | .error f => [.error f]
  | .ok stride => (progression w.start stride n (w.start + w.length)).map fun i => .ok ⟨i, x⟩

theorem storeDiagonal_eq_perform (ldb n : Nat) {cursor : Nat} (x : α) {dst : Array α}
    (h : cursor ≤ dst.size) :
    storeDiagonal ldb n cursor x dst =
      Write.perform (diagonalActions ldb n ⟨cursor, dst.size - cursor⟩ x) dst := by
  rw [storeDiagonal, EStateM.bind_of_ok (Write.window_of_le h), diagonalActions]
  cases Size.add ldb 1 with
  | error f => rw [Guarded.liftM_bind_of_error rfl, Write.perform_error]
  | ok stride => rw [Guarded.liftM_bind_of_ok rfl, Write.storeAll_eq_perform]

end Diagonals

/-! ### Calls that keep apart -/

section KeepApart

variable {α ι : Type}

/-- **Calls that keep apart.** On a buffer of `len` elements call `i` performs the actions `acts i`.
All of them are stores, to places before `stop`; no call stores to a place twice, and no two calls
store to one place. -/
structure KeepApart (len stop : Nat) (act : ι → Write α Unit) (acts : ι → List (Action α))
    (calls : List ι) : Prop where
  performs : ∀ i ∈ calls, ∀ d : Array α, d.size = len → act i d = Write.perform (acts i) d
  faultless : ∀ i ∈ calls, ∃ stores : List (Store α), acts i = stores.map .ok
  once : ∀ i ∈ calls, (places (acts i)).Nodup
  apart : (calls.map fun i => places (acts i)).Pairwise List.Disjoint
  inside : ∀ i ∈ calls, ∀ t ∈ places (acts i), t < stop

namespace KeepApart

variable {len stop : Nat} {act : ι → Write α Unit} {acts : ι → List (Action α)} {calls : List ι}

/-- All calls together store to no place twice. -/
theorem nodup (h : KeepApart len stop act acts calls) :
    (calls.flatMap fun i => places (acts i)).Nodup := by
  have hapart := h.apart
  rw [List.pairwise_map] at hapart
  exact List.nodup_flatMap.2 ⟨h.once, hapart⟩

/-- The stores of all calls. They have places of their own. -/
theorem exists_stores (h : KeepApart len stop act acts calls) :
    ∃ stores : ι → List (Store α),
      (∀ i ∈ calls, Writes len (act i) (stores i)) ∧ Consistent (calls.flatMap stores) := by
  -- without faults among them, the actions of a call are a list of stores
  choose! stores hstores using h.faultless
  refine ⟨stores, fun i hi d hd => ?_, consistent_of_nodup ?_⟩
  · rw [h.performs i hi d hd, hstores i hi, perform_map_ok]
  -- apart as places, the calls are consistent as stores
  · have hplaces : (calls.flatMap fun i => places (acts i)) =
        (calls.flatMap stores).map Store.index := by
      rw [List.map_flatMap]
      refine List.flatMap_congr fun i hi => ?_
      rw [hstores i hi, places_map_ok]
    exact hplaces ▸ h.nodup

/-- **Calls that keep apart can be made in any order**, and none of them meets a fault. -/
theorem each_perm (h : KeepApart len stop act acts calls) {dst : Array α} (hdst : dst.size = len) :
    ∃ dst', ∀ order : List ι, order.Perm calls → Guarded.each act order dst = .ok () dst' := by
  obtain ⟨stores, hwrites, hconsistent⟩ := h.exists_stores
  refine ⟨storing (calls.flatMap stores) dst, fun order horder => ?_⟩
  have hmem : ∀ s, s ∈ calls.flatMap stores ↔ s ∈ order.flatMap stores :=
    fun s => (horder.symm.flatMap_right stores).mem_iff
  -- another order of the calls is another order of their stores
  rw [Writes.each (fun i hi => hwrites i (horder.mem_iff.1 hi)) dst hdst,
    storing_congr hconsistent hmem]

end KeepApart

end KeepApart

end DenseKron
