import DenseKron.Proofs.CopyContract
import Mathlib.Logic.Relation

/-!
# Schedules of a chunked copy

The chunked copy gives a task to each chunk of the destination, and the tasks are meant to run side
by side. `CopyPlan.chunked` is only one way to do so, which runs them to the end one by one. An
`Execution` is any other: at every moment one task, whichever, makes its next store
(`Execution.Step`).

What keeps the tasks out of each other's way is the shape of a column. Task `k` writes destination
column `k`, a column is no taller than the leading dimension, and a chunk is as long as the leading
dimension, so that every task stays inside of its chunk and no two tasks write to one place.

The argument itself is about tasks in general. Along an execution the stores that were made and the
stores that are still to come are, together, always the same stores in another order (`Underway`).
At the end nothing is to come, so all have been made; and since they are consistent, the order does
not show (`storing_congr`). That the end is reached at all is a matter of counting: a step takes one
store away, and a task that has stores left can always take a step.
-/

namespace DenseKron

/-! ### Executions -/

/-- **Execution.** What each task has still to do, and the buffer that all of them write to. -/
structure Execution (α : Type) where
  left : List (List (Action α))
  buffer : Array α

namespace Execution

variable {α : Type} {e e' : Execution α}

/-- **Step.** One of the tasks makes its next store. A task that has met a fault makes no step any
more. -/
inductive Step : Execution α → Execution α → Prop
  | store (before after : List (List (Action α))) (s : Store α) (rest : List (Action α))
      (buffer : Array α) :
      Step ⟨before ++ (.ok s :: rest) :: after, buffer⟩
        ⟨before ++ rest :: after, buffer.setIfInBounds s.index s.value⟩

/-- The executions that can follow on an execution, however its tasks are scheduled. -/
def Reaches : Execution α → Execution α → Prop := Relation.ReflTransGen Step

/-- No task has anything left to do. -/
def Finished (e : Execution α) : Prop := ∀ task ∈ e.left, task = []

/-- **An execution that ends in the buffer `b`**, whatever the schedule. -/
structure EndsIn (e : Execution α) (b : Array α) : Prop where
  /-- No schedule goes on forever. -/
  ends : Acc (fun next current => Step current next) e
  /-- No schedule gets stuck. -/
  goes_on : ∀ e', e.Reaches e' → ¬ e'.Finished → ∃ next, e'.Step next
  /-- Every schedule leaves the same buffer. -/
  result : ∀ e', e.Reaches e' → e'.Finished → e'.buffer = b

/-- The number of actions that are still to come. -/
def remaining (e : Execution α) : Nat := (e.left.map List.length).sum

theorem Step.remaining_lt (h : e.Step e') : e'.remaining < e.remaining := by
  cases h
  simp only [remaining, List.map_append, List.map_cons, List.sum_append, List.sum_cons,
    List.length_cons]
  omega

theorem acc_step (e : Execution α) : Acc (fun next current => Step current next) e :=
  (Subrelation.wf (fun h => Step.remaining_lt h) (measure remaining).wf).apply e

/-- **Between two steps.** The stores that were `made` and those that are `coming` from each task
are, together, the stores `all`, and the buffer is what the former have left of `b`. -/
structure Underway (all : List (Store α)) (b : Array α) (e : Execution α)
    (made : List (Store α)) (coming : List (List (Store α))) : Prop where
  left_eq : e.left = coming.map (List.map .ok)
  buffer_eq : e.buffer = storing made b
  perm : (made ++ coming.flatten).Perm all

section Underway

variable {all made : List (Store α)} {b : Array α} {coming : List (List (Store α))}

theorem underway_start (coming : List (List (Store α))) (b : Array α) :
    Underway coming.flatten b ⟨coming.map (List.map .ok), b⟩ [] coming where
  left_eq := rfl
  buffer_eq := rfl
  perm := List.Perm.refl _

/-- A step takes one of the stores that are coming, and makes it. -/
theorem Underway.step (h : Underway all b e made coming) (hstep : e.Step e') :
    ∃ made' coming', Underway all b e' made' coming' := by
  obtain ⟨before, after, s, rest, buffer⟩ := hstep
  -- the task that makes the step, and those in front of it and behind it, are lists of stores
  obtain ⟨front, tail, rfl, rfl, htail⟩ := List.map_eq_append_iff.1 h.left_eq.symm
  obtain ⟨task, back, rfl, htask, rfl⟩ := List.map_eq_cons_iff.1 htail
  obtain ⟨s', rest', rfl, hs, rfl⟩ := List.map_eq_cons_iff.1 htask
  cases hs
  refine ⟨made ++ [s], front ++ rest' :: back, ?_, ?_, ?_⟩
  · rw [List.map_append, List.map_cons]
  · have hbuffer : buffer = storing made b := h.buffer_eq
    rw [hbuffer, storing_append]
    rfl
  · have htaken : (s :: (front ++ rest' :: back).flatten).Perm
        (front ++ (s :: rest') :: back).flatten := by
      rw [List.flatten_append, List.flatten_append, List.flatten_cons, List.flatten_cons,
        List.cons_append]
      exact List.perm_middle.symm
    rw [List.append_assoc, List.singleton_append]
    exact (htaken.append_left made).trans h.perm

theorem Underway.reaches (h : Underway all b e made coming) (hreach : e.Reaches e') :
    ∃ made' coming', Underway all b e' made' coming' := by
  -- on the steps, from the first to the last
  induction hreach with
  | refl => exact ⟨made, coming, h⟩
  | tail _ hstep ih =>
    obtain ⟨made', coming', h'⟩ := ih
    exact h'.step hstep

/-- A task that has a store left can make it. -/
theorem Underway.exists_step (h : Underway all b e made coming) (hleft : ¬ e.Finished) :
    ∃ next, e.Step next := by
  obtain ⟨left, buffer⟩ := e
  unfold Finished at hleft
  push Not at hleft
  -- a task with an action left can make it, whatever the others do
  obtain ⟨task, htask, hne⟩ := hleft
  obtain ⟨stores, -, rfl⟩ := List.mem_map.1 (h.left_eq ▸ htask)
  obtain ⟨before, after, rfl⟩ := List.append_of_mem htask
  cases stores with
  | nil => exact absurd rfl hne
  | cons s rest => exact ⟨_, Step.store before after s (rest.map .ok) buffer⟩

/-- When nothing is to come, everything has been made. -/
theorem Underway.buffer_of_finished (h : Underway all b e made coming) (hc : Consistent all)
    (hfin : e.Finished) : e.buffer = storing all b := by
  -- nothing is still to come, so that all the stores have been made in some order
  have hnone : coming.flatten = [] := by
    refine List.flatten_eq_nil_iff.2 fun stores hstores => ?_
    have hmem : stores.map .ok ∈ e.left := h.left_eq ▸ List.mem_map_of_mem hstores
    exact List.map_eq_nil_iff.1 (hfin _ hmem)
  have hperm := h.perm
  rw [hnone, List.append_nil] at hperm
  rw [h.buffer_eq]
  exact (storing_congr hc (fun s => hperm.mem_iff.symm) b).symm

end Underway

/-- **Tasks with consistent stores** may be scheduled in any way. -/
theorem endsIn_storing {coming : List (List (Store α))} (hc : Consistent coming.flatten)
    (b : Array α) :
    EndsIn ⟨coming.map (List.map .ok), b⟩ (storing coming.flatten b) where
  ends := acc_step _
  -- whatever has been reached is still underway
  goes_on _ hreach hleft := by
    obtain ⟨made, coming', h⟩ := (underway_start coming b).reaches hreach
    exact h.exists_step hleft
  result _ hreach hfin := by
    obtain ⟨made, coming', h⟩ := (underway_start coming b).reaches hreach
    exact h.buffer_of_finished hc hfin

end Execution

/-! ### The tasks of a copy -/

/-- **A task inside of its chunk.** It meets no fault, and its stores go there. -/
def Window.Contains {α : Type} (chunk : Window) (task : List (Action α)) : Prop :=
  ∀ act ∈ task, ∃ s, act = .ok s ∧ chunk.start ≤ s.index ∧ s.index < chunk.start + chunk.length

/-- **Tasks apart.** No place is written to by both of them. -/
def WriteApart {α : Type} (task task' : List (Action α)) : Prop :=
  ∀ s s' : Store α, .ok s ∈ task → .ok s' ∈ task' → s.index ≠ s'.index

theorem CopyRequest.not_isEmpty_of_plan {r : CopyRequest} {p : CopyPlan} {m n : Nat}
    (h : r.plan m n = .ok (some p)) : ¬ r.IsEmpty := by
  intro hempty
  rw [CopyRequest.plan_of_isEmpty hempty] at h
  cases h

namespace CopyPlan

variable {α : Type} [One α] [Mul α] [DecidableEq α] {p : CopyPlan} {a : Array α} {w : Window}
  {x : Nat → Nat → α}

/-- The chunk that begins with destination column `k`. -/
def chunk (p : CopyPlan) (w : Window) (k : Nat) : Window :=
  ⟨w.start + k * p.ldb, min p.ldb (w.length - k * p.ldb)⟩

/-- The stores of destination column `k`. Those of all columns are `CopyPlan.stores`. -/
def columnStores (p : CopyPlan) (alpha : α) (x : Nat → Nat → α) (start k : Nat) :
    List (Store α) :=
  (List.range p.destinationRows).map fun i => ⟨start + (k * p.ldb + i), p.image alpha x i k⟩

omit [One α] [Mul α] [DecidableEq α] in
theorem mem_pieces_iff {m : Nat} (h : p.Fits m w.length) {piece : Window × Nat} :
    piece ∈ p.pieces w ↔ ∃ k < p.destinationCols, piece = (p.chunk w k, k) := by
  rw [pieces_eq h, List.mem_map]
  constructor
  · rintro ⟨k, hk, rfl⟩
    exact ⟨k, List.mem_range.1 hk, rfl⟩
  · rintro ⟨k, hk, rfl⟩
    exact ⟨k, List.mem_range.2 hk, rfl⟩

omit [One α] [Mul α] [DecidableEq α] in
/-- Even where the end of the buffer cuts a chunk short, it leaves room for the column. -/
theorem Fits.chunk_length {m : Nat} (h : p.Fits m w.length) {k : Nat}
    (hk : k < p.destinationCols) : p.destinationRows ≤ (p.chunk w k).length := by
  have := h.destinationRows_le
  have := (h.destination_end hk).2
  show p.destinationRows ≤ min p.ldb (w.length - k * p.ldb)
  omega

omit [One α] [Mul α] [DecidableEq α] in
theorem Fits.chunk_end {m : Nat} (h : p.Fits m w.length) {k : Nat} (hk : k < p.destinationCols) :
    (p.chunk w k).start + (p.chunk w k).length ≤ w.start + w.length := by
  have := (h.destination_end hk).2
  show w.start + k * p.ldb + min p.ldb (w.length - k * p.ldb) ≤ w.start + w.length
  omega

theorem task_chunk (h : p.Fits a.size w.length) (hx : Holds a p.rows p.cols p.lda x) (alpha : α)
    {k : Nat} (hk : k < p.destinationCols) :
    p.task alpha a (p.chunk w k) k = (p.columnStores alpha x w.start k).map .ok := by
  rw [task_eq h hx alpha hk (h.chunk_length hk), columnStores]
  simp only [chunk, Nat.add_assoc]

theorem tasks_eq (h : p.Fits a.size w.length) (hx : Holds a p.rows p.cols p.lda x) (alpha : α) :
    p.tasks alpha a w =
      ((List.range p.destinationCols).map (p.columnStores alpha x w.start)).map
        (List.map .ok) := by
  rw [tasks, pieces_eq h, List.map_map, List.map_map]
  exact List.map_congr_left fun k hk => task_chunk h hx alpha (List.mem_range.1 hk)

/-- Task `k` stays inside of chunk `k`. -/
theorem contains_task_chunk (h : p.Fits a.size w.length) (hx : Holds a p.rows p.cols p.lda x)
    (alpha : α) {k : Nat} (hk : k < p.destinationCols) :
    (p.chunk w k).Contains (p.task alpha a (p.chunk w k) k) := by
  intro act hact
  rw [task_chunk h hx alpha hk] at hact
  obtain ⟨s, hs, rfl⟩ := List.mem_map.1 hact
  obtain ⟨i, hi, rfl⟩ := List.mem_map.1 hs
  -- the chunk has room for the rows of its column
  have hroom := h.chunk_length hk
  have hi : i < p.destinationRows := List.mem_range.1 hi
  refine ⟨_, rfl, ?_, ?_⟩
  · show w.start + k * p.ldb ≤ w.start + (k * p.ldb + i)
    omega
  · show w.start + (k * p.ldb + i) < w.start + k * p.ldb + (p.chunk w k).length
    omega

omit [One α] [Mul α] [DecidableEq α] in
/-- A chunk ends before the next one starts. -/
theorem writeApart_of_contains {k k' : Nat} (hlt : k < k') {task task' : List (Action α)}
    (h : (p.chunk w k).Contains task) (h' : (p.chunk w k').Contains task') :
    WriteApart task task' := by
  intro s s' hs hs'
  obtain ⟨_, heq, -, hstop⟩ := h _ hs
  cases heq
  obtain ⟨_, heq, hstart, -⟩ := h' _ hs'
  cases heq
  -- the earlier chunk ends where a later one starts, or before
  have hnext : k * p.ldb + p.ldb ≤ k' * p.ldb := by
    rw [← Nat.succ_mul]
    exact Nat.mul_le_mul_right p.ldb hlt
  have hstop : s.index < w.start + k * p.ldb + min p.ldb (w.length - k * p.ldb) := hstop
  have hstart : w.start + k' * p.ldb ≤ s'.index := hstart
  omega

theorem pairwise_tasks (h : p.Fits a.size w.length) (hx : Holds a p.rows p.cols p.lda x)
    (alpha : α) : (p.tasks alpha a w).Pairwise WriteApart := by
  rw [tasks, pieces_eq h, List.map_map, List.pairwise_map]
  refine List.pairwise_lt_range.imp_of_mem fun hk hk' hlt => ?_
  exact writeApart_of_contains hlt (contains_task_chunk h hx alpha (List.mem_range.1 hk))
    (contains_task_chunk h hx alpha (List.mem_range.1 hk'))

/-- Whole tasks, one after the other, in any order. -/
theorem each_task_of_perm (h : p.Fits a.size w.length) (hx : Holds a p.rows p.cols p.lda x)
    (alpha : α) {order : List (Window × Nat)} (horder : order.Perm (p.pieces w)) (n : Nat) :
    Writes n (Guarded.each (fun piece => Write.perform (p.task alpha a piece.1 piece.2)) order)
      (p.stores alpha x w.start) := by
  have heach : Writes n
      (Guarded.each (fun piece => Write.perform (p.task alpha a piece.1 piece.2)) order)
      (order.flatMap fun piece => p.columnStores alpha x w.start piece.2) := by
    refine Writes.each fun piece hpiece => ?_
    obtain ⟨k, hk, rfl⟩ := (mem_pieces_iff h).1 (horder.mem_iff.1 hpiece)
    rw [task_chunk h hx alpha hk]
    exact Writes.perform _
  -- another order of the chunks is another order of the stores
  have hmem : ∀ s, s ∈ p.stores alpha x w.start ↔
      s ∈ order.flatMap fun piece => p.columnStores alpha x w.start piece.2 := by
    intro s
    rw [(horder.flatMap_right _).mem_iff, pieces_eq h, List.flatMap_map]
    rfl
  refine heach.congr ?_ fun s => (hmem s).symm
  exact (consistent_stores h alpha x w.start).of_subset fun s hs => (hmem s).2 hs

/-- **Schedules do not matter.** Let a request be planned for the window `w` from `start` to the end
of a buffer `b`. Then the serial copy leaves a buffer which

* the chunked copy leaves as well, in whatever order it takes the chunks;
* the tasks leave when they run side by side, whatever schedule they follow: every schedule comes to
  its end, and no task gets stuck on the way.

The first chunks of the window get a task, one for each destination column. Each is long enough for
the column, lies inside of the buffer and contains what its task writes, so that no two tasks write
to one place. -/
theorem serial_eq_of_schedule {r : CopyRequest} {b : Array α} {start : Nat}
    (hw : Write.window start b = .ok w b) (hplan : r.plan a.size w.length = .ok (some p))
    (alpha : α) :
    ∃ b', p.serial alpha a w b = .ok () b' ∧
      p.chunked alpha a w b = .ok () b' ∧
      (∀ order, order.Perm (p.pieces w) →
        Guarded.each (fun piece => Write.perform (p.task alpha a piece.1 piece.2)) order b =
          .ok () b') ∧
      Execution.EndsIn ⟨p.tasks alpha a w, b⟩ b' ∧
      (p.tasks alpha a w).Pairwise WriteApart ∧
      (p.pieces w).length = p.destinationCols ∧
      ∀ k < p.destinationCols, ∃ c : Window, (p.pieces w)[k]? = some (c, k) ∧
        c.start = start + k * p.ldb ∧ c.start + c.length ≤ b.size ∧
        p.destinationRows ≤ c.length ∧ c.Contains (p.task alpha a c k) := by
  obtain ⟨hstart, rfl, -⟩ := Write.window_eq_ok_iff.1 hw
  obtain ⟨hfit, hp⟩ := (CopyRequest.plan_eq_ok_iff (CopyRequest.not_isEmpty_of_plan hplan)).1 hplan
  cases hp
  obtain ⟨x, hx⟩ := exists_holds (1 : α) (Or.inr (Or.inr hfit.source_le))
  have hc := consistent_stores hfit alpha x start
  refine ⟨storing (r.columnPlan.stores alpha x start) b, serial_writes hfit hx alpha b.size b rfl,
    chunked_writes hfit hx alpha b.size b rfl,
    fun order horder => each_task_of_perm hfit hx alpha horder b.size b rfl, ?_,
    pairwise_tasks hfit hx alpha, ?_, fun k hk => ⟨r.columnPlan.chunk _ k, ?_, rfl, ?_,
      hfit.chunk_length hk, contains_task_chunk hfit hx alpha hk⟩⟩
  · rw [tasks_eq hfit hx alpha]
    exact Execution.endsIn_storing hc b
  · rw [pieces_eq hfit, List.length_map, List.length_range]
  · rw [pieces_eq hfit, List.getElem?_map, List.getElem?_range hk]
    rfl
  · calc (r.columnPlan.chunk _ k).start + (r.columnPlan.chunk _ k).length
        ≤ start + (b.size - start) := hfit.chunk_end hk
      _ = b.size := Nat.add_sub_cancel' hstart

/-- A transposing copy with padding, into a buffer that ends inside of the second chunk. -/
theorem serial_eq_of_schedule_short_chunk :
    Write.window 1 #[9, 9, 9, 9, 9, 9] = .ok ⟨1, 5⟩ #[9, 9, 9, 9, 9, 9] ∧
      CopyRequest.plan { transpose := .trans, rows := 2, cols := 2, lda := 2, ldb := 3 } 4 5 =
        .ok (some ⟨.trans, 2, 2, 2, 3⟩) ∧
      serial ⟨.trans, 2, 2, 2, 3⟩ 2 #[1, 2, 3, 4] ⟨1, 5⟩ #[9, 9, 9, 9, 9, 9] =
        .ok () #[9, 2, 6, 9, 4, 8] ∧
      Execution.EndsIn
        ⟨[[.ok ⟨1, 2⟩, .ok ⟨2, 6⟩], [.ok ⟨4, 4⟩, .ok ⟨5, 8⟩]], #[9, 9, 9, 9, 9, 9]⟩
        #[9, 2, 6, 9, 4, 8] := by
  have hw : Write.window 1 #[9, 9, 9, 9, 9, 9] = .ok ⟨1, 5⟩ #[9, 9, 9, 9, 9, 9] := rfl
  have hplan : CopyRequest.plan { transpose := .trans, rows := 2, cols := 2, lda := 2, ldb := 3 }
      #[1, 2, 3, 4].size (Window.mk 1 5).length = .ok (some ⟨.trans, 2, 2, 2, 3⟩) := rfl
  have hserial : serial ⟨.trans, 2, 2, 2, 3⟩ 2 #[1, 2, 3, 4] ⟨1, 5⟩ #[9, 9, 9, 9, 9, 9] =
      .ok () #[9, 2, 6, 9, 4, 8] := rfl
  obtain ⟨b', hserial', -, -, hends, -⟩ := serial_eq_of_schedule hw hplan 2
  cases hserial.symm.trans hserial'
  exact ⟨hw, hplan, hserial, hends⟩

end CopyPlan

end DenseKron
