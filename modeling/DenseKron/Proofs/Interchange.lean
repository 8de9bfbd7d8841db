import DenseKron.Arrays
import DenseKron.Checked
import DenseKron.Proofs.CopyContract
import DenseKron.Settings.Load

/-!
# Copiers are interchangeable

The serial copier scatters the columns of a block, and a parallel one cuts the destination into
chunks and lets each chunk gather a column of its own, if the block is large enough. A caller sees
nothing of this. A call either stops at its checks, which come before any copier is asked, or makes
the stores of its plan, and these are the same for every copier (`Copier.copy_cases`).

So copiers are equal as functions (`Copier.copy_eq`), and whatever is computed by way of a copier is
computed alike by any other: the kernels, the checked products and the products of views. Which
settings were loaded has no influence on a result.
-/

namespace DenseKron

section Copies

variable {α : Type} [One α] [Mul α] [DecidableEq α]

/-- **How a copy ends.** It stops in the buffer that it found, or it runs to its end, and every
copier does the same. -/
theorem Copier.copy_cases (r : CopyRequest) (alpha : α) (a : Array α) (start : Nat) (b : Array α) :
    (∃ f, ∀ c : Copier, c.copy r alpha a start b = .error f b) ∨
      ∃ b', ∀ c : Copier, c.copy r alpha a start b = .ok () b' := by
  by_cases hstart : start ≤ b.size
  · by_cases hempty : r.IsEmpty
    · exact Or.inr ⟨b, fun c => c.copy_of_isEmpty hempty hstart alpha⟩
    -- the checks decide, and they know nothing of the copier
    · cases hplan : r.plan a.size (b.size - start) with
      | error f =>
        refine Or.inl ⟨f, fun c => ?_⟩
        rw [copy, EStateM.bind_of_ok (Write.window_of_le hstart)]
        exact EStateM.bind_of_error (by rw [hplan]; rfl) _
      | ok o =>
        obtain ⟨hfit, -⟩ := (CopyRequest.plan_eq_ok_iff hempty).1 hplan
        obtain ⟨y, hy⟩ := CopyRequest.exists_entries (1 : α) hfit
        exact Or.inr ⟨_, fun c => c.copy_writes hstart hfit hy alpha b rfl⟩
  -- a window that starts beyond the buffer stops the call before the checks
  · refine Or.inl ⟨.rangeStart start b.size, fun c => ?_⟩
    rw [copy]
    exact EStateM.bind_of_error (Write.window_of_lt (Nat.not_le.1 hstart)) _

theorem Copier.copy_eq (c c' : Copier) :
    (c.copy : CopyRequest → α → Array α → Nat → Write α Unit) = c'.copy := by
  funext r alpha a start b
  obtain ⟨f, h⟩ | ⟨b', h⟩ := Copier.copy_cases r alpha a start b
  · rw [h c, h c']
  · rw [h c, h c']

theorem Copier.eq_of_copy_eq_error {c : Copier} {r : CopyRequest} {alpha : α} {a b b' : Array α}
    {start : Nat} {f : Fault} (h : c.copy r alpha a start b = .error f b') : b' = b := by
  obtain ⟨f', h'⟩ | ⟨b'', h'⟩ := Copier.copy_cases r alpha a start b
  · rw [h' c] at h
    cases h
    rfl
  · rw [h' c] at h
    cases h

theorem product_copier_eq (c c' : Copier) (a b : Operand α) : product c a b = product c' a b := by
  unfold product
  rw [Copier.copy_eq c c']

theorem identityTimes_copier_eq [Zero α] (c c' : Copier) (a : Operand α) (n : Nat) :
    identityTimes c a n = identityTimes c' a n := by
  unfold identityTimes
  rw [Copier.copy_eq c c']

end Copies

variable {α : Type} [Zero α] [One α] [Mul α] [DecidableEq α] [ByteWidth α]

/-- **Copiers are interchangeable.** Every copier has the outcome of the serial one: the same fault
in a buffer that is as it was, or the same buffer afterwards. So any two settings that can be loaded
lead to the same outcome of every kernel, of every checked product and of every product of views,
faults, refusals and events included. -/
theorem copiers_interchangeable :
    (∀ (c : Copier) (r : CopyRequest) (alpha : α) (a : Array α) (start : Nat) (b : Array α),
      c.copy r alpha a start b = Copier.portable.copy r alpha a start b ∧
        ∀ f b', c.copy r alpha a start b = .error f b' → b' = b) ∧
    ∀ (lookup lookup' : String → Option String) (settings settings' : Settings)
      (s s' t t' : Observed SettingsEvent Unit),
      Settings.load lookup s = .ok settings t → Settings.load lookup' s' = .ok settings' t' →
      (∀ a b : Operand α, product settings.copier a b = product settings'.copier a b) ∧
      (∀ (a : Operand α) n,
        identityTimes settings.copier a n = identityTimes settings'.copier a n) ∧
      (∀ a b : Operand α,
        Checked.product settings.copier a b = Checked.product settings'.copier a b) ∧
      (∀ (a : Operand α) n,
        Checked.identityTimes settings.copier a n = Checked.identityTimes settings'.copier a n) ∧
      (∀ a b : View α, View.product settings.copier a b = View.product settings'.copier a b) ∧
      ∀ (a : View α) n,
        View.identityTimes settings.copier a n = View.identityTimes settings'.copier a n := by
  refine ⟨fun c r alpha a start b => ⟨?_, fun f b' => Copier.eq_of_copy_eq_error⟩, ?_⟩
  · rw [Copier.copy_eq c .portable]
  · intro lookup lookup' settings settings' s s' t t' _ _
    -- nothing but the copier of the settings gets to a kernel
    have hproduct := product_copier_eq (α := α) settings.copier settings'.copier
    have hidentity := identityTimes_copier_eq (α := α) settings.copier settings'.copier
    refine ⟨hproduct, hidentity, fun a b => ?_, fun a n => ?_, fun a b => ?_, fun a n => ?_⟩
    · rw [Checked.product, Checked.product, hproduct]
    · rw [Checked.identityTimes, Checked.identityTimes, hidentity]
    · rw [View.product, View.product, hproduct]
    · rw [View.identityTimes, View.identityTimes, hidentity]

/-- No settings at all, and a parallel backend that splits every block. -/
theorem copiers_interchangeable_portable_parallel :
    Settings.load (fun _ => none) ⟨(), []⟩ =
        .ok ⟨.portable, 65536⟩ ⟨(), [.loaded ⟨.portable, 65536⟩]⟩ ∧
      Settings.load (fun key => some (if key = Settings.backendKey then "PARALLEL" else "+1"))
        ⟨(), []⟩ = .ok ⟨.parallel, 1⟩ ⟨(), [.loaded ⟨.parallel, 1⟩]⟩ ∧
      ∀ a b : Operand Float, product .portable a b = product (.parallel 1) a b := by
  have hnone : Settings.load (fun _ => none) ⟨(), []⟩ =
      .ok ⟨.portable, 65536⟩ ⟨(), [.loaded ⟨.portable, 65536⟩]⟩ := rfl
  have hsome : Settings.load (fun key => some (if key = Settings.backendKey then "PARALLEL" else
      "+1")) ⟨(), []⟩ = .ok ⟨.parallel, 1⟩ ⟨(), [.loaded ⟨.parallel, 1⟩]⟩ := rfl
  exact ⟨hnone, hsome, (copiers_interchangeable.2 _ _ _ _ _ _ _ _ hnone hsome).1⟩

end DenseKron
