import DenseKron.Proofs.CopyFaults
import DenseKron.Proofs.Factorization

/-!
# What a determinant is computed from

Over elements whose arithmetic obeys no law, the determinant is no more than a run: `n` elements of
a buffer, some of them negated, multiplied up from the left. This module says which elements, which
signs, and when there is no run at all.

* A run is stopped for one of three reasons, of which the first that applies is reported
  (`determinant_eq_error_iff`): the number of factors is no size, the factors are too short, or the
  pivots are.
* Any other run multiplies exactly `n` factors, one for each step, whatever the length of the
  buffers (`exists_signedFactors`). It visits nothing but the diagonal and the first `n`
  pivots, so that two inputs with the same diagonal and the same pivots have the same determinant.
* The sign of a factor is decided by comparing a pivot of 32 bits with a place, and it does not
  matter whether they are compared as numbers or as words. The square of the order is a size, so
  that the order fits 32 bits (`step_lt_of_square_lt`), and a negative pivot is the word of no
  place.
-/

namespace DenseKron

/-- **Signed factors** of a run: one for each step, the diagonal element if the pivot is the number
of the step, counted from `1`, and its negation otherwise. -/
structure SignedFactors {α : Type} [Neg α] (factors : Array α) (pivots : Array Int) (n : Nat)
    (signed : List α) : Prop where
  length_eq : signed.length = n
  signed_eq : ∀ i < n, ∃ x p, factors[i * (n + 1)]? = some x ∧ pivots[i]? = some p ∧
    signed[i]? = some (if p = (i : Int) + 1 then x else -x)

section Run

variable {α : Type} [One α] [Mul α] [Neg α] {factors factors' : Array α}
  {pivots pivots' : Array Int} {n : Nat} {f : Fault}

/-! ### Runs that are stopped -/

/-- **Why a determinant is not computed.** -/
theorem determinant_eq_error_iff :
    determinant factors pivots n = .error f ↔
      Size.limit ≤ n * n ∧ f = .mulOverflow ∨
      n * n < Size.limit ∧ factors.size < n * n ∧ f = .shortFactors factors.size n (n * n) ∨
      n * n < Size.limit ∧ n * n ≤ factors.size ∧ pivots.size < n ∧
        f = .shortPivots pivots.size n := by
  -- the count comes first: past the limit nothing else is looked at
  by_cases hlt : n * n < Size.limit
  · have hrequired : Size.mul n n = .ok (n * n) := Size.mul_eq_ok_iff.2 ⟨hlt, rfl⟩
    rw [determinant, hrequired]
    show (require (n * n ≤ factors.size) _ >>= fun _ =>
      require (n ≤ pivots.size) _ >>= fun _ => _) = Except.error f ↔ _
    rw [Fault.require_bind_eq_error_iff, Fault.require_bind_eq_error_iff,
      diagonal_step_eq_ok hlt]
    -- behind the checks there is nothing left that could fail
    have hrun : ∀ y : α, ¬ (Except.ok y : Except Fault α) = .error f := by
      intro y h
      cases h
    have hfits : ¬ Size.limit ≤ n * n := Nat.not_le.2 hlt
    simp only [bind, Except.bind, pure, Except.pure, hrun, hfits, hlt, Nat.not_le, true_and,
      false_and, and_false, or_false, false_or]
  · have hle : Size.limit ≤ n * n := Nat.not_lt.1 hlt
    rw [determinant, Size.mul_of_limit_le hle]
    show Except.error Fault.mulOverflow = Except.error f ↔ _
    simp only [hle, hlt, true_and, false_and, or_false, Except.error.injEq, eq_comm]

/-- **When a determinant is not computed.** -/
theorem exists_determinant_eq_error_iff :
    (∃ f, determinant factors pivots n = .error f) ↔
      Size.limit ≤ n * n ∨ factors.size < n * n ∨ pivots.size < n := by
  constructor
  · rintro ⟨f, hf⟩
    obtain ⟨hle, -⟩ | ⟨-, hshort, -⟩ | ⟨-, -, hshort, -⟩ := determinant_eq_error_iff.1 hf
    · exact .inl hle
    · exact .inr (.inl hshort)
    · exact .inr (.inr hshort)
  · intro h
    -- the reasons are looked at one by one, and the first that applies is the one that is given
    by_cases hlt : n * n < Size.limit
    · by_cases hle : n * n ≤ factors.size
      · have hshort : pivots.size < n := by
          obtain hlarge | hshort | hshort := h
          · exact absurd hlt (Nat.not_lt.2 hlarge)
          · exact absurd hle (Nat.not_le.2 hshort)
          · exact hshort
        exact ⟨_, determinant_eq_error_iff.2 (.inr (.inr ⟨hlt, hle, hshort, rfl⟩))⟩
      · exact ⟨_, determinant_eq_error_iff.2 (.inr (.inl ⟨hlt, Nat.not_le.1 hle, rfl⟩))⟩
    · exact ⟨_, determinant_eq_error_iff.2 (.inl ⟨Nat.not_lt.1 hlt, rfl⟩)⟩

/-! ### Runs that end -/

omit [Mul α] [Neg α] in
/-- Buffers that are long enough have a diagonal and pivots for it. -/
theorem exists_diagonal (hfactors : n * n ≤ factors.size) (hpivots : n ≤ pivots.size) :
    ∃ (x : Nat → α) (p : Nat → Int), (∀ i < n, factors[i * (n + 1)]? = some (x i)) ∧
      ∀ i < n, pivots[i]? = some (p i) := by
  refine ⟨fun i => factors[i * (n + 1)]?.getD 1, fun i => pivots[i]?.getD 1, fun i hi => ?_,
    fun i hi => ?_⟩
  -- the last diagonal element is the last of all factors
  · have hin : i * (n + 1) < factors.size := by nlinarith
    show factors[i * (n + 1)]? = some (factors[i * (n + 1)]?.getD 1)
    rw [Array.getElem?_eq_getElem hin, Option.getD_some]
  -- there is a pivot for each step
  · show pivots[i]? = some (pivots[i]?.getD 1)
    rw [Array.getElem?_eq_getElem (Nat.lt_of_lt_of_le hi hpivots), Option.getD_some]

/-- **A run that is not stopped** multiplies its signed factors from the left. -/
theorem exists_signedFactors (hlt : n * n < Size.limit) (hfactors : n * n ≤ factors.size)
    (hpivots : n ≤ pivots.size) :
    ∃ signed, SignedFactors factors pivots n signed ∧
      determinant factors pivots n = .ok (signed.foldl (fun d x => d * x) 1) := by
  obtain ⟨x, p, hx, hp⟩ := exists_diagonal hfactors hpivots
  refine ⟨_, ⟨?_, fun i hi => ⟨x i, p i, hx i hi, hp i hi, ?_⟩⟩,
    determinant_eq_ok hlt hfactors hpivots hx hp⟩
  · rw [List.length_map, List.length_range]
  · rw [List.getElem?_map, List.getElem?_range hi]
    rfl

/-- What does not stand on the diagonal has no part in a determinant, and neither has what lies
behind the first `n` pivots. -/
theorem determinant_congr (hlt : n * n < Size.limit) (hfactors : n * n ≤ factors.size)
    (hpivots : n ≤ pivots.size) (hfactors' : n * n ≤ factors'.size) (hpivots' : n ≤ pivots'.size)
    (hentry : ∀ i < n, factors'[i * (n + 1)]? = factors[i * (n + 1)]?)
    (hpivot : ∀ i < n, pivots'[i]? = pivots[i]?) :
    determinant factors' pivots' n = determinant factors pivots n := by
  obtain ⟨x, p, hx, hp⟩ := exists_diagonal hfactors hpivots
  have hx' : ∀ i < n, factors'[i * (n + 1)]? = some (x i) := fun i hi =>
    (hentry i hi).trans (hx i hi)
  have hp' : ∀ i < n, pivots'[i]? = some (p i) := fun i hi => (hpivot i hi).trans (hp i hi)
  rw [determinant_eq_ok hlt hfactors hpivots hx hp,
    determinant_eq_ok hlt hfactors' hpivots' hx' hp']

end Run

/-! ### Pivots as words -/

/-- An order whose square is a size fits 32 bits, and so does the number of each of its steps. -/
theorem step_lt_of_square_lt {n i : Nat} (hlt : n * n < Size.limit) (hi : i < n) :
    i < 0xFFFFFFFF := by
  by_contra hlarge
  have hn : 0x100000000 ≤ n := by omega
  have hsquare := Nat.mul_le_mul hn hn
  unfold Size.limit at hlt
  omega

/-- A pivot that is not positive is that of no place. -/
theorem signedFactor_of_nonpos {α : Type} [Neg α] {p : Int} (hp : p ≤ 0) (i : Nat) (x : α) :
    signedFactor i x p = -x :=
  if_neg (by omega)

/-- **The determinant is a product along the diagonal**, over any elements whatsoever. It is not
computed if and only if the number of factors is no size, the factors are too few, or the pivots
are. Otherwise it is a product of exactly `n` factors from the left, starting from one: the diagonal
elements, each negated unless its pivot is the number of its step. It is the same for any buffers
with that diagonal and these pivots. Pivots of 32 bits can be compared as words, and one that is
zero or negative leaves no element as it is. -/
theorem determinant_along_diagonal {α : Type} [One α] [Mul α] [Neg α] (factors : Array α)
    (pivots : Array Int) (n : Nat) :
    ((∃ f, determinant factors pivots n = .error f) ↔
      Size.limit ≤ n * n ∨ factors.size < n * n ∨ pivots.size < n) ∧
    (n * n < Size.limit → n * n ≤ factors.size → n ≤ pivots.size →
      (∃ signed, SignedFactors factors pivots n signed ∧
        determinant factors pivots n = .ok (signed.foldl (fun d x => d * x) 1)) ∧
      (∀ (factors' : Array α) (pivots' : Array Int), n * n ≤ factors'.size → n ≤ pivots'.size →
        (∀ i < n, factors'[i * (n + 1)]? = factors[i * (n + 1)]?) →
        (∀ i < n, pivots'[i]? = pivots[i]?) →
        determinant factors' pivots' n = determinant factors pivots n) ∧
      ∀ i < n, ∀ x : α,
        (∀ p : BitVec 32, signedFactor i x p.toInt =
          if pivotWord p = BitVec.ofNat 64 (i + 1) then x else -x) ∧
        ∀ p : Int, p ≤ 0 → signedFactor i x p = -x) := by
  refine ⟨exists_determinant_eq_error_iff, fun hlt hfactors hpivots =>
    ⟨exists_signedFactors hlt hfactors hpivots, ?_, fun i hi x => ⟨?_, ?_⟩⟩⟩
  · intro factors' pivots' hfactors' hpivots' hentry hpivot
    exact determinant_congr hlt hfactors hpivots hfactors' hpivots' hentry hpivot
  · exact signedFactor_eq_of_word (step_lt_of_square_lt hlt hi) x
  · exact fun p hp => signedFactor_of_nonpos hp i x

/-- Two rows with a negative pivot, and other buffers, one of them longer, with that diagonal. -/
theorem determinant_along_diagonal_negative_pivot :
    ∃ (factors factors' : Array Int) (pivots pivots' : Array Int), factors = #[3, 7, 1, 5, 9] ∧
      factors' = #[3, 0, 0, 5] ∧ pivots = #[-1, 2] ∧ pivots' = #[-1, 2, 4] ∧
      2 * 2 < Size.limit ∧ 2 * 2 ≤ factors.size ∧ 2 ≤ pivots.size ∧ 2 * 2 ≤ factors'.size ∧
      2 ≤ pivots'.size ∧ (∀ i < 2, factors'[i * (2 + 1)]? = factors[i * (2 + 1)]?) ∧
      (∀ i < 2, pivots'[i]? = pivots[i]?) ∧
      SignedFactors factors pivots 2 [-3, 5] ∧
      determinant factors pivots 2 = .ok (-15) ∧
      determinant factors' pivots' 2 = determinant factors pivots 2 := by
  have hdiagonal : ∀ i < 2, (#[3, 0, 0, 5] : Array Int)[i * (2 + 1)]? =
      (#[3, 7, 1, 5, 9] : Array Int)[i * (2 + 1)]? := by decide
  have hpivots : ∀ i < 2, (#[-1, 2, 4] : Array Int)[i]? = (#[-1, 2] : Array Int)[i]? := by decide
  obtain ⟨-, hrun⟩ := determinant_along_diagonal (#[3, 7, 1, 5, 9] : Array Int) #[-1, 2] 2
  obtain ⟨-, hcongr, -⟩ := hrun (by decide) (by decide) (by decide)
  refine ⟨_, _, _, _, rfl, rfl, rfl, rfl, by decide, by decide, by decide, by decide, by decide,
    hdiagonal, hpivots, ⟨rfl, ?_⟩, by decide, hcongr _ _ (by decide) (by decide) hdiagonal hpivots⟩
  intro i hi
  obtain rfl | rfl : i = 0 ∨ i = 1 := by omega
  · exact ⟨3, -1, by decide⟩
  · exact ⟨5, 2, by decide⟩

end DenseKron
