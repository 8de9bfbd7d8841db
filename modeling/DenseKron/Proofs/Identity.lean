import DenseKron.Kernel.Products
import DenseKron.Proofs.Places

/-!
# The identity that is written out

`identity n` clears the first `n * n` elements of a buffer and stores a one at every `n + 1`-st of
them, for as long as there are any. How many that are is not said in advance. It is the count of the
multiples of `n + 1` below `n * n`, and this is `n`: the next multiple after the last place on the
diagonal is `n * n + n` (`progression_diagonal`). So the ones stand on the diagonal, and nowhere
else.

Read as a matrix of `n × n` blocks with one entry each, the identity is a block matrix like every
other product here, cleared first and then completed (`identity_writes`). What can fail is the count
of the entries and the clearing, and both come before the first store, so that the buffer is either
completed or left alone (`identity_written_or_stopped`). The step to the next one cannot fail, since
it is a size if the number of entries is (`diagonal_step_eq_ok`).
-/

namespace DenseKron

variable {α : Type} {n : Nat} {dst dst' : Array α}

/-- Every `n + 1`-st place before `n * n` is one on the diagonal. -/
theorem progression_diagonal (n : Nat) :
    progression 0 (n + 1) (n * n) (n * n) = (List.range n).map fun k => k * (n + 1) := by
  have hcount : (n * n - 0 + (n + 1 - 1)) / (n + 1) = n := by
    rw [Nat.sub_zero, Nat.add_sub_cancel, ← Nat.mul_succ]
    exact Nat.mul_div_cancel n (Nat.succ_pos n)
  -- the end of the places cuts the progression off behind `n` of them
  have hcut : progression 0 (n + 1) (n * n) (n * n) = progression 0 (n + 1) n (n * n) := by
    rw [progression, progression, hcount, Nat.min_eq_right (Nat.le_mul_self n), Nat.min_self]
  have hin : ∀ k < n, 0 + k * (n + 1) < n * n := by
    intro k hk
    rw [Nat.zero_add, Nat.mul_succ]
    exact mul_add_lt_mul hk hk
  rw [hcut, progression_eq (Nat.succ_pos n) hin]
  simp only [Nat.zero_add]

section Stores

variable [Zero α] [One α]

/-- The stores of the identity of order `n`, as blocks with one entry each. -/
def identityStores (n : Nat) : List (Store α) :=
  blockMatrixStores n n 1 1 fun i j _ _ => if i = j then 1 else 0

theorem blockPlace_single (n i j : Nat) : blockPlace n 1 1 i j 0 0 = j * n + i := by
  unfold blockPlace
  ring

/-- What the ones leave of the clearing is what is zero in the identity. -/
theorem storing_ones (h : n * n ≤ dst.size) :
    storing ((List.range n).map fun k => ⟨k * (n + 1), 1⟩) (storing (filling (n * n) 0) dst) =
      storing (identityStores n) dst := by
  have htotal : n * 1 * (n * 1) = n * n := by ring
  -- the ones are the entries on the diagonal of blocks of one entry each
  have hone : ∀ k < n, (⟨k * (n + 1), 1⟩ : Store α) =
      ⟨blockPlace n 1 1 k k 0 0, if k = k then 1 else 0⟩ := by
    intro k _
    rw [blockPlace_single, Nat.mul_succ, if_pos rfl]
  have hsub : ((List.range n).map fun k => ⟨k * (n + 1), 1⟩) ⊆ identityStores (α := α) n := by
    intro s hs
    obtain ⟨k, hk, rfl⟩ := List.mem_map.1 hs
    have hk' := List.mem_range.1 hk
    rw [hone k hk']
    exact mem_blockMatrixStores.2 ⟨k, hk', k, hk', 0, Nat.one_pos, 0, Nat.one_pos, rfl⟩
  rw [← htotal] at h ⊢
  refine storing_storing_filling hsub (fun i hi j _ k hk l hl => ?_) h
  obtain rfl := Nat.lt_one_iff.1 hk
  obtain rfl := Nat.lt_one_iff.1 hl
  by_cases hij : i = j
  · subst hij
    rw [← hone i hi]
    exact Or.inl (List.mem_map_of_mem (List.mem_range.2 hi))
  -- off the diagonal the zero is there already
  · exact Or.inr (if_neg hij)

/-- **What the identity writes**, when it fits: ones on the diagonal, and zero beside it. -/
theorem identity_writes {len : Nat} (hlt : n * n < Size.limit) (hle : n * n ≤ len) :
    Writes len (identity n) (identityStores (α := α) n) := by
  intro dst hdst
  subst hdst
  have htotal : Size.mul n n = .ok (n * n) := Size.mul_eq_ok_iff.2 ⟨hlt, rfl⟩
  -- cleared first, and then the ones
  rw [identity, Guarded.liftM_bind_of_ok htotal, EStateM.bind_of_ok (Writes.fill hle 0 dst rfl),
    Guarded.liftM_bind_of_ok (diagonal_step_eq_ok hlt), progression_diagonal,
    Writes.storeAll 1 _ _ (size_storing _ dst), List.map_map]
  exact congrArg (EStateM.Result.ok ()) (storing_ones hle)

/-- The identity is written exactly if its entries can be counted and the buffer has room for them.
-/
theorem identity_eq_ok_iff :
    identity n dst = .ok () dst' ↔
      n * n < Size.limit ∧ n * n ≤ dst.size ∧ dst' = storing (identityStores n) dst := by
  constructor
  · intro h
    have hrun := h
    rw [identity] at hrun
    -- a run that ended well has counted the entries and cleared them
    obtain ⟨_, htotal, hrun⟩ := Guarded.liftM_bind_eq_ok_iff.1 hrun
    obtain ⟨hlt, rfl⟩ := Size.mul_eq_ok_iff.1 htotal
    obtain ⟨_, _, hfill, -⟩ := Guarded.bind_eq_ok_iff.1 hrun
    have hle : n * n ≤ dst.size := by
      by_contra hshort
      rw [Write.fill_of_lt (Nat.not_le.1 hshort)] at hfill
      cases hfill
    rw [identity_writes hlt hle dst rfl] at h
    cases h
    exact ⟨hlt, hle, rfl⟩
  · rintro ⟨hlt, hle, rfl⟩
    exact identity_writes hlt hle dst rfl

/-- The entries of an identity that was written. -/
theorem holds_of_identity_eq_ok (h : identity n dst = .ok () dst') :
    Holds dst' n n n fun r c => if r = c then 1 else 0 := by
  obtain ⟨-, hle, rfl⟩ := identity_eq_ok_iff.1 h
  intro r hr c hc
  have htotal : n * 1 * (n * 1) = n * n := by ring
  rw [← htotal] at hle
  rw [← blockPlace_single]
  exact getElem?_blockMatrixStores hle hr hc Nat.one_pos Nat.one_pos

/-! ### When the identity is written -/

theorem identity_of_limit_le (h : Size.limit ≤ n * n) :
    identity n dst = .error .mulOverflow dst := by
  rw [identity, Guarded.liftM_bind_of_error (Size.mul_of_limit_le h)]

theorem identity_of_lt (hlt : n * n < Size.limit) (h : dst.size < n * n) :
    identity n dst = .error (.rangeEnd (n * n) dst.size) dst := by
  have htotal : Size.mul n n = .ok (n * n) := Size.mul_eq_ok_iff.2 ⟨hlt, rfl⟩
  rw [identity, Guarded.liftM_bind_of_ok htotal, EStateM.bind_of_error (Write.fill_of_lt h 0)]

/-- **The identity stops** if its entries cannot be counted, or else if there is no room for them,
and it stops in the buffer that it found. Behind the clearing there is nothing that could fail. -/
theorem identity_eq_error_iff {f : Fault} :
    identity n dst = .error f dst' ↔
      (Size.limit ≤ n * n ∧ f = .mulOverflow ∨
        n * n < Size.limit ∧ dst.size < n * n ∧ f = .rangeEnd (n * n) dst.size) ∧ dst' = dst := by
  constructor
  · intro h
    obtain hlt | hlimit := Nat.lt_or_ge (n * n) Size.limit
    · obtain hshort | hle := Nat.lt_or_ge dst.size (n * n)
      · rw [identity_of_lt hlt hshort] at h
        cases h
        exact ⟨Or.inr ⟨hlt, hshort, rfl⟩, rfl⟩
      · -- a run with room for the entries ends well
        rw [identity_writes hlt hle dst rfl] at h
        cases h
    · rw [identity_of_limit_le hlimit] at h
      cases h
      exact ⟨Or.inl ⟨hlimit, rfl⟩, rfl⟩
  · rintro ⟨⟨hlimit, rfl⟩ | ⟨hlt, hshort, rfl⟩, rfl⟩
    · exact identity_of_limit_le hlimit
    · exact identity_of_lt hlt hshort

/-- Behind its entries the identity does not write. -/
theorem getElem?_of_identity_eq_ok (h : identity n dst = .ok () dst') {t : Nat} (ht : n * n ≤ t) :
    dst'[t]? = dst[t]? := by
  obtain ⟨-, -, rfl⟩ := identity_eq_ok_iff.1 h
  refine getElem?_blockMatrixStores_of_le dst ?_
  rwa [Nat.mul_one]

/-- **The identity is written, or the buffer is left alone.** The entries of the identity of order
`n` are `n * n`, and the run stops exactly if this is no machine size or the buffer is shorter; then
nothing has changed. Otherwise it ends well. Then the ones are on the diagonal and there is zero
beside it, whatever stood there, and behind the entries nothing has changed. -/
theorem identity_written_or_stopped (n : Nat) (dst : Array α) :
    ((∃ f dst', identity n dst = .error f dst') ↔ Size.limit ≤ n * n ∨ dst.size < n * n) ∧
    (∀ f dst', identity n dst = .error f dst' → dst' = dst) ∧
    (n * n < Size.limit → n * n ≤ dst.size →
      ∃ dst', identity n dst = .ok () dst' ∧
        (∀ r < n, ∀ c < n, dst'[c * n + r]? = some (if r = c then 1 else 0)) ∧
        (∀ t, n * n ≤ t → dst'[t]? = dst[t]?) ∧ dst'.size = dst.size) := by
  refine ⟨⟨?stops, ?cause⟩, fun f dst' h => (identity_eq_error_iff.1 h).2, fun hlt hle => ?_⟩
  case stops =>
    rintro ⟨f, dst', h⟩
    obtain ⟨⟨hlimit, -⟩ | ⟨-, hshort, -⟩, -⟩ := identity_eq_error_iff.1 h
    · exact Or.inl hlimit
    · exact Or.inr hshort
  case cause =>
    intro hcause
    -- of two causes the number of entries is looked at first
    obtain hlt | hlimit := Nat.lt_or_ge (n * n) Size.limit
    · exact ⟨_, _, identity_of_lt hlt (hcause.resolve_left (Nat.not_le.2 hlt))⟩
    · exact ⟨_, _, identity_of_limit_le hlimit⟩
  -- without a cause the whole identity is written
  have hok : identity n dst = .ok () (storing (identityStores n) dst) :=
    identity_writes hlt hle dst rfl
  refine ⟨_, hok, fun r hr c hc => ?_, fun t ht => getElem?_of_identity_eq_ok hok ht,
    size_storing _ dst⟩
  exact holds_of_identity_eq_ok hok r hr c hc

/-- The identity of order two in a buffer with an element too many, and one whose entries cannot be
counted. -/
theorem identity_written_or_stopped_two :
    (∃ dst', identity 2 #[7, 7, 7, 7, 9] = .ok () dst' ∧ dst'[1 * 2 + 1]? = some 1 ∧
      dst'[1 * 2 + 0]? = some 0 ∧ dst'[4]? = some 9) ∧
      ∃ f, identity 0x100000000 #[5] = .error f #[5] := by
  obtain ⟨-, -, hwritten⟩ := identity_written_or_stopped 2 #[7, 7, 7, 7, 9]
  obtain ⟨hstops, hleft, -⟩ := identity_written_or_stopped 0x100000000 #[5]
  obtain ⟨dst', hok, hentry, hrest, -⟩ := hwritten (by decide) (by decide)
  obtain ⟨f, dst'', hf⟩ := hstops.2 (by decide)
  refine ⟨⟨dst', hok, hentry 1 (by decide) 1 (by decide), hentry 0 (by decide) 1 (by decide), ?_⟩,
    f, ?_⟩
  · rw [hrest 4 (by decide)]
    rfl
  · rw [hf, hleft f dst'' hf]

end Stores

end DenseKron
