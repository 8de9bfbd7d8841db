/-!
# Accounts

A finite map from ids to balances, listed by ascending id. An id that was ever given a balance
is listed, also with a balance of zero; an id that is not listed has none. The order is part of
the type, so that two accounts with the same balances are equal.
-/

namespace DenseKron

namespace Balances

/-- Sets the balance of an id in a list, in its place by ascending id. -/
def set (id : Int) (bytes : Nat) : List (Int × Nat) → List (Int × Nat)
  | [] => [(id, bytes)]
  | (other, balance) :: rest =>
    if id < other then (id, bytes) :: (other, balance) :: rest
    else if id = other then (id, bytes) :: rest
    else (other, balance) :: set id bytes rest

/-- The listed ids ascend. -/
def Ascending (entries : List (Int × Nat)) : Prop :=
  entries.Pairwise fun x y => x.1 < y.1

theorem fst_mem_set {id : Int} {bytes : Nat} {entries : List (Int × Nat)} {x : Int × Nat}
    (h : x ∈ set id bytes entries) : x.1 = id ∨ x ∈ entries := by
  induction entries with
  | nil => simp_all [set]
  | cons e rest ih =>
    obtain ⟨other, balance⟩ := e
    simp only [set] at h
    split at h
    · simp only [List.mem_cons] at h ⊢
      rcases h with rfl | h
      · exact .inl rfl
      · exact .inr h
    · split at h
      · simp only [List.mem_cons] at h ⊢
        rcases h with rfl | h
        · exact .inl rfl
        · exact .inr (.inr h)
      · simp only [List.mem_cons] at h ⊢
        rcases h with rfl | h
        · exact .inr (.inl rfl)
        · rcases ih h with h | h
          · exact .inl h
          · exact .inr (.inr h)

theorem ascending_set {entries : List (Int × Nat)} (h : Ascending entries) (id : Int)
    (bytes : Nat) : Ascending (set id bytes entries) := by
  induction entries with
  | nil => simp [set, Ascending]
  | cons e rest ih =>
    obtain ⟨other, balance⟩ := e
    simp only [Ascending, List.pairwise_cons] at h
    simp only [set]
    split
    -- the new id goes in front of a larger one
    · rename_i hlt
      simp only [Ascending, List.pairwise_cons, List.mem_cons]
      refine ⟨?_, h⟩
      rintro x (rfl | hx)
      · exact hlt
      · exact Int.lt_trans hlt (h.1 x hx)
    · split
      -- the id is listed already, and its place stays the same
      · rename_i heq
        subst heq
        exact List.pairwise_cons.2 h
      -- the id belongs behind the first one: what is put there was listed or is the id itself
      · rename_i hnlt hne
        refine List.pairwise_cons.2 ⟨?_, ih h.2⟩
        intro x hx
        rcases fst_mem_set hx with heq | hmem
        · simp only [heq]
          omega
        · exact h.1 x hmem

end Balances

/-- **Accounts.** Ids and their balances, by ascending id. -/
structure Accounts where
  entries : List (Int × Nat)
  ascending : Balances.Ascending entries
  deriving DecidableEq

namespace Accounts

/-- No id is listed. -/
def empty : Accounts := ⟨[], List.Pairwise.nil⟩

/-- The balance of an id, if it is listed. -/
def balance? (a : Accounts) (id : Int) : Option Nat := a.entries.lookup id

/-- The balance of an id; one that is not listed has a balance of zero. -/
def balance (a : Accounts) (id : Int) : Nat := (a.balance? id).getD 0

/-- Sets the balance of an id. -/
def set (a : Accounts) (id : Int) (bytes : Nat) : Accounts :=
  ⟨Balances.set id bytes a.entries, Balances.ascending_set a.ascending id bytes⟩

@[simp] theorem balance_empty (id : Int) : empty.balance id = 0 := rfl

/-- Setting a balance sets that balance and no other. -/
theorem balance?_set (a : Accounts) (id other : Int) (bytes : Nat) :
    (a.set id bytes).balance? other = if other = id then some bytes else a.balance? other := by
  obtain ⟨entries, hasc⟩ := a
  simp only [balance?, set]
  induction entries with
  | nil =>
    by_cases h : other = id
    · simp [Balances.set, h]
    · simp [Balances.set, List.lookup_cons, beq_eq_false_iff_ne.2 h, h]
  | cons e rest ih =>
    obtain ⟨i, b⟩ := e
    have ih := ih (List.pairwise_cons.1 hasc).2
    simp only [Balances.set]
    by_cases hlt : id < i
    · by_cases h : other = id
      · simp [hlt, h]
      · simp [hlt, List.lookup_cons, beq_eq_false_iff_ne.2 h, h]
    · by_cases heq : id = i
      · subst heq
        by_cases h : other = id
        · simp [h]
        · simp [List.lookup_cons, beq_eq_false_iff_ne.2 h, h]
      · by_cases h : other = i
        · subst h
          have hne : other ≠ id := fun hc => heq hc.symm
          simp [hlt, heq, hne]
        · simp [hlt, heq, List.lookup_cons, beq_eq_false_iff_ne.2 h, ih]

@[simp] theorem balance_set (a : Accounts) (id other : Int) (bytes : Nat) :
    (a.set id bytes).balance other = if other = id then bytes else a.balance other := by
  simp only [balance, balance?_set]
  split <;> rfl

end Accounts

end DenseKron
