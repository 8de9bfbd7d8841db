import DenseKron.Buffer

/-!
# What a write program does to a buffer

A write program that ends well leaves the buffer that it found, with some elements replaced. This
module says which: a list of stores is what the program *writes* (`Writes`), and `storing` is the
buffer that the list leaves.

Two stores **conflict** when they put different values at one place. The order of stores matters
only among conflicting ones, and everything a program writes after its first clearing is free of
conflicts here. For such a list the buffer afterwards is known place by place:

* `getElem?_storing_of_mem`: where a store goes, its value stands;
* `getElem?_storing_of_forall_ne`: where none goes, the old element stands;
* `storing_congr`: two lists with the same members leave the same buffer, in whatever order, and
  however often, the members come.

What a program writes is put together from what its parts write: `Writes.bind` for a sequence,
`Writes.each` for a loop. The other direction, from a run that ended well to the runs of its
parts, is `Guarded.bind_eq_ok_iff`.
-/

namespace DenseKron

/-! ### Runs that end well -/

/-- A value is computed without a fault exactly when both parts of the computation are. -/
theorem Fault.bind_eq_ok_iff {β γ : Type} {e : Except Fault β} {next : β → Except Fault γ} {y : γ} :
    (e >>= next) = .ok y ↔ ∃ x, e = .ok x ∧ next x = .ok y := by
  cases e <;> simp [bind, Except.bind]

theorem Fault.require_bind_eq_ok_iff {γ : Type} {c : Prop} [Decidable c] {f : Fault}
    {next : Unit → Except Fault γ} {y : γ} :
    (require c f >>= next) = .ok y ↔ c ∧ next () = .ok y := by
  rw [Fault.bind_eq_ok_iff]
  constructor
  · rintro ⟨⟨⟩, hc, hnext⟩
    exact ⟨require_eq_ok_iff.1 hc, hnext⟩
  · rintro ⟨hc, hnext⟩
    exact ⟨(), require_eq_ok_iff.2 hc, hnext⟩

namespace Guarded

open EStateM (bind_of_ok bind_of_error bind_congr_run)

variable {σ β γ ι κ : Type}

/-- A sequence ends well exactly when both of its parts do. -/
theorem bind_eq_ok_iff {act : Guarded σ β} {next : β → Guarded σ γ} {s t : σ} {y : γ} :
    (act >>= next) s = .ok y t ↔ ∃ x u, act s = .ok x u ∧ next x u = .ok y t := by
  cases h : act s with
  | ok x u =>
    rw [bind_of_ok h]
    constructor
    · exact fun hnext => ⟨x, u, rfl, hnext⟩
    · rintro ⟨_, _, heq, hnext⟩
      cases heq
      exact hnext
  -- a fault in the first part is the end of the whole
  | error f u => simp [bind_of_error h]

theorem liftM_eq_ok_iff {e : Except Fault β} {s t : σ} {x : β} :
    (liftM e : Guarded σ β) s = .ok x t ↔ e = .ok x ∧ t = s := by
  cases e <;> simp [eq_comm]

theorem liftM_bind_of_ok {e : Except Fault β} {x : β} (h : e = .ok x) (next : β → Guarded σ γ)
    (s : σ) : ((liftM e : Guarded σ β) >>= next) s = next x s := by
  rw [h, bind_of_ok (liftM_ok x s)]

theorem liftM_bind_of_error {e : Except Fault β} {f : Fault} (h : e = .error f)
    (next : β → Guarded σ γ) (s : σ) :
    ((liftM e : Guarded σ β) >>= next) s = .error f s := by
  rw [h, bind_of_error (liftM_error f s)]

theorem require_bind_of {c : Prop} [Decidable c] (h : c) (f : Fault) (next : Unit → Guarded σ γ)
    (s : σ) : ((liftM (require c f) : Guarded σ Unit) >>= next) s = next () s :=
  liftM_bind_of_ok (require_eq_ok_iff.2 h) next s

theorem liftM_bind_eq_ok_iff {e : Except Fault β} {next : β → Guarded σ γ} {s t : σ} {y : γ} :
    ((liftM e : Guarded σ β) >>= next) s = .ok y t ↔ ∃ x, e = .ok x ∧ next x s = .ok y t := by
  rw [bind_eq_ok_iff]
  -- a check leaves the state as it is, and hands on its result
  constructor
  · rintro ⟨x, u, he, hnext⟩
    obtain ⟨hx, rfl⟩ := liftM_eq_ok_iff.1 he
    exact ⟨x, hx, hnext⟩
  · rintro ⟨x, hx, hnext⟩
    exact ⟨x, s, liftM_eq_ok_iff.2 ⟨hx, rfl⟩, hnext⟩

theorem require_bind_eq_ok_iff {c : Prop} [Decidable c] {f : Fault} {next : Unit → Guarded σ γ}
    {s t : σ} {y : γ} :
    ((liftM (require c f) : Guarded σ Unit) >>= next) s = .ok y t ↔
      c ∧ next () s = .ok y t := by
  rw [liftM_bind_eq_ok_iff]
  constructor
  · rintro ⟨⟨⟩, hc, hnext⟩
    exact ⟨require_eq_ok_iff.1 hc, hnext⟩
  · rintro ⟨hc, hnext⟩
    exact ⟨(), require_eq_ok_iff.2 hc, hnext⟩

theorem pure_eq_ok_iff {s t : σ} {x y : β} :
    (pure x : Guarded σ β) s = .ok y t ↔ y = x ∧ t = s := by
  simp [pure, EStateM.pure, eq_comm]

theorem each_cons_of_ok (act : ι → Guarded σ Unit) {i : ι} {s t : σ} (h : act i s = .ok () t)
    (rest : List ι) : each act (i :: rest) s = each act rest t := by
  rw [each_cons, bind_of_ok h]

theorem each_cons_of_error (act : ι → Guarded σ Unit) {i : ι} {s t : σ} {f : Fault}
    (h : act i s = .error f t) (rest : List ι) : each act (i :: rest) s = .error f t := by
  rw [each_cons, bind_of_error h]

theorem each_map (act : κ → Guarded σ Unit) (f : ι → κ) (l : List ι) (s : σ) :
    each act (l.map f) s = each (fun i => act (f i)) l s := by
  -- on the list, for every state that a round may leave
  induction l generalizing s with
  | nil => rfl
  | cons i rest ih =>
    rw [List.map_cons]
    cases h : act (f i) s with
    | ok _ t => rw [each_cons_of_ok act h, each_cons_of_ok (fun i => act (f i)) h, ih]
    | error fault t =>
      rw [each_cons_of_error act h, each_cons_of_error (fun i => act (f i)) h]

theorem each_congr {act act' : ι → Guarded σ Unit} {l : List ι}
    (h : ∀ i ∈ l, ∀ s, act i s = act' i s) (s : σ) : each act l s = each act' l s := by
  induction l generalizing s with
  | nil => rfl
  | cons i rest ih =>
    have hrest : each act rest = each act' rest :=
      funext fun t => ih (fun j hj => h j (List.mem_cons_of_mem i hj)) t
    rw [each_cons, each_cons, hrest, bind_congr_run (h i List.mem_cons_self s)]

end Guarded

theorem Write.window_eq_ok_iff {α : Type} {start : Nat} {dst dst' : Array α} {w : Window} :
    Write.window start dst = .ok w dst' ↔
      start ≤ dst.size ∧ w = ⟨start, dst.size - start⟩ ∧ dst' = dst := by
  by_cases h : start ≤ dst.size
  · simp [Write.window_of_le h, h, eq_comm]
  · simp [Write.window_of_lt (Nat.not_le.1 h), h]

/-! ### Lists of stores -/

section Storing

variable {α : Type}

/-- **The buffer that a list of stores leaves**, when they are made in order. -/
def storing (stores : List (Store α)) (dst : Array α) : Array α :=
  stores.foldl (fun d s => d.setIfInBounds s.index s.value) dst

@[simp] theorem storing_nil (dst : Array α) : storing [] dst = dst := rfl

@[simp] theorem storing_cons (s : Store α) (rest : List (Store α)) (dst : Array α) :
    storing (s :: rest) dst = storing rest (dst.setIfInBounds s.index s.value) := rfl

theorem storing_append (first second : List (Store α)) (dst : Array α) :
    storing (first ++ second) dst = storing second (storing first dst) :=
  List.foldl_append

@[simp] theorem size_storing (stores : List (Store α)) (dst : Array α) :
    (storing stores dst).size = dst.size := by
  induction stores generalizing dst with
  | nil => rfl
  | cons s rest ih => rw [storing_cons, ih, Array.size_setIfInBounds]

theorem perform_map_ok (stores : List (Store α)) (dst : Array α) :
    Write.perform (stores.map .ok) dst = .ok () (storing stores dst) := by
  induction stores generalizing dst with
  | nil => rfl
  | cons s rest ih => exact ih _

/-- Where no store goes, the old element stands. -/
theorem getElem?_storing_of_forall_ne {stores : List (Store α)} {i : Nat}
    (h : ∀ s ∈ stores, s.index ≠ i) (dst : Array α) : (storing stores dst)[i]? = dst[i]? := by
  refine Write.getElem?_of_perform (perform_map_ok stores dst) fun s hs => ?_
  obtain ⟨t, ht, hts⟩ := List.mem_map.1 hs
  cases hts
  exact h s ht

/-- **Consistent stores.** No two of them put different values at one place. -/
def Consistent (stores : List (Store α)) : Prop :=
  ∀ s ∈ stores, ∀ t ∈ stores, s.index = t.index → s.value = t.value

theorem Consistent.tail {s : Store α} {rest : List (Store α)} (h : Consistent (s :: rest)) :
    Consistent rest :=
  fun t ht u hu => h t (List.mem_cons_of_mem s ht) u (List.mem_cons_of_mem s hu)

theorem Consistent.of_subset {l l' : List (Store α)} (h : Consistent l) (hsub : l' ⊆ l) :
    Consistent l' :=
  fun s hs t ht => h s (hsub hs) t (hsub ht)

/-- Where a store goes, its value stands, if no other store disagrees. -/
theorem getElem?_storing_of_mem {stores : List (Store α)} (hc : Consistent stores) {s : Store α}
    (hs : s ∈ stores) {dst : Array α} (hlt : s.index < dst.size) :
    (storing stores dst)[s.index]? = some s.value := by
  induction stores generalizing dst s with
  | nil => cases hs
  | cons t rest ih =>
    rw [storing_cons]
    have hlt' : s.index < (dst.setIfInBounds t.index t.value).size := by
      rw [Array.size_setIfInBounds]
      exact hlt
    by_cases hlater : ∃ u ∈ rest, u.index = s.index
    -- the last store at this place decides, and it agrees with `s`
    · obtain ⟨u, hu, hidx⟩ := hlater
      have hval : u.value = s.value := hc u (List.mem_cons_of_mem t hu) s hs hidx
      rw [← hidx, ← hval]
      exact ih hc.tail hu (hidx ▸ hlt')
    -- nothing comes after `s`, which is therefore the store made here
    · have hst : s = t := by
        rcases List.mem_cons.1 hs with h | h
        · exact h
        · exact absurd ⟨s, h, rfl⟩ hlater
      subst hst
      rw [getElem?_storing_of_forall_ne fun u hu hidx => hlater ⟨u, hu, hidx⟩,
        Array.getElem?_setIfInBounds_self_of_lt hlt]

/-- Consistent stores with the same members leave the same buffer. -/
theorem storing_congr {l l' : List (Store α)} (hc : Consistent l) (h : ∀ s, s ∈ l ↔ s ∈ l')
    (dst : Array α) : storing l dst = storing l' dst := by
  have hc' : Consistent l' := hc.of_subset fun s hs => (h s).2 hs
  refine Array.ext_getElem? fun i => ?_
  by_cases hstored : ∃ s ∈ l, s.index = i
  · obtain ⟨s, hs, rfl⟩ := hstored
    -- a store behind the end of the buffer is lost in either list
    by_cases hlt : s.index < dst.size
    · rw [getElem?_storing_of_mem hc hs hlt, getElem?_storing_of_mem hc' ((h s).1 hs) hlt]
    · rw [Array.getElem?_eq_none (by rw [size_storing]; omega),
        Array.getElem?_eq_none (by rw [size_storing]; omega)]
  · rw [getElem?_storing_of_forall_ne fun s hs hi => hstored ⟨s, hs, hi⟩,
      getElem?_storing_of_forall_ne fun s hs hi => hstored ⟨s, (h s).2 hs, hi⟩]

end Storing

/-! ### What a program writes -/

section Writes

variable {α ι : Type}

/-- **Writing.** On every buffer of length `n` the program ends well and leaves the buffer that
these stores leave. -/
def Writes (n : Nat) (act : Write α Unit) (stores : List (Store α)) : Prop :=
  ∀ dst : Array α, dst.size = n → act dst = .ok () (storing stores dst)

namespace Writes

variable {n : Nat}

theorem perform (stores : List (Store α)) : Writes n (Write.perform (stores.map .ok)) stores :=
  fun dst _ => perform_map_ok stores dst

theorem pure : Writes n (Pure.pure () : Write α Unit) [] := fun _ _ => rfl

theorem bind {act next : Write α Unit} {first second : List (Store α)}
    (h : Writes n act first) (h' : Writes n next second) :
    Writes n (act >>= fun _ => next) (first ++ second) := by
  intro dst hdst
  rw [EStateM.bind_of_ok (h dst hdst), h' _ (by rw [size_storing, hdst]), storing_append]

/-- A loop writes the stores of its rounds. -/
theorem each {act : ι → Write α Unit} {stores : ι → List (Store α)} {l : List ι}
    (h : ∀ i ∈ l, Writes n (act i) (stores i)) :
    Writes n (Guarded.each act l) (l.flatMap stores) := by
  induction l with
  | nil => exact pure
  | cons i rest ih =>
    -- the later rounds find a buffer of the same length
    intro dst hdst
    rw [Guarded.each_cons, List.flatMap_cons]
    exact bind (h i List.mem_cons_self)
      (ih fun j hj => h j (List.mem_cons_of_mem i hj)) dst hdst

/-- The same stores in another order. -/
theorem congr {act : Write α Unit} {l l' : List (Store α)} (h : Writes n act l)
    (hc : Consistent l) (hmem : ∀ s, s ∈ l ↔ s ∈ l') : Writes n act l' := by
  intro dst hdst
  rw [h dst hdst, storing_congr hc hmem]

theorem storeAll (x : α) (places : List Nat) :
    Writes n (Write.storeAll x places) (places.map fun i => ⟨i, x⟩) := by
  intro dst _
  rw [Write.storeAll_eq_perform, ← perform_map_ok, List.map_map]
  rfl

end Writes

/-- **The stores of a filling.** One value at every place before `stop`. -/
def filling (stop : Nat) (x : α) : List (Store α) :=
  (List.range stop).map fun i => ⟨i, x⟩

theorem Writes.fill {n stop : Nat} (h : stop ≤ n) (x : α) :
    Writes n (Write.fill stop x) (filling stop x) := by
  intro dst hdst
  subst hdst
  rw [Write.fill_of_le h]
  exact Writes.storeAll x _ dst rfl

theorem mem_filling {stop : Nat} {x : α} {s : Store α} :
    s ∈ filling stop x ↔ s.index < stop ∧ s.value = x := by
  rw [filling, List.mem_map]
  constructor
  · rintro ⟨i, hi, rfl⟩
    exact ⟨List.mem_range.1 hi, rfl⟩
  · rintro ⟨hi, rfl⟩
    exact ⟨s.index, List.mem_range.2 hi, rfl⟩

theorem getElem?_storing_filling (x : α) {stop i : Nat} {dst : Array α} (hstop : stop ≤ dst.size)
    (hi : i < stop) : (storing (filling stop x) dst)[i]? = some x := by
  have hc : Consistent (filling stop x) := fun s hs t ht _ =>
    (mem_filling.1 hs).2.trans (mem_filling.1 ht).2.symm
  have hmem : ⟨i, x⟩ ∈ filling stop x := mem_filling.2 ⟨hi, rfl⟩
  exact getElem?_storing_of_mem hc hmem (Nat.lt_of_lt_of_le hi hstop)

theorem getElem?_storing_filling_of_le (x : α) {stop i : Nat} (dst : Array α) (hi : stop ≤ i) :
    (storing (filling stop x) dst)[i]? = dst[i]? :=
  getElem?_storing_of_forall_ne (fun _ hs =>
    Nat.ne_of_lt (Nat.lt_of_lt_of_le (mem_filling.1 hs).1 hi)) dst

end Writes

end DenseKron
