import DenseKron.BlockCopy.Copier
import DenseKron.Kernel.Sweep

/-!
# The Kronecker products and the identity

`A ⊗ B` is the block matrix whose block in row `r` and column `c` is `A[r, c] * B`. It is
written straight into a destination whose leading dimension is its row count `a.rows * b.rows`:
a sweep over `A` makes one scaled block copy of `B` per entry, so that every element of the
product is written exactly once and the destination need not be cleared. The lengths of `B` and
of the destination are checked first, whatever the shapes. A product without entries is then
finished, and only otherwise is `A` looked at.

Where one of the factors is an identity, it is not formed as an operand, and nothing is
multiplied:

* `A ⊗ I` is a matrix of diagonal blocks. A sweep over `A` writes each entry along the diagonal
  of an `n × n` block.
* `I ⊗ A` is a block diagonal matrix. `A` is copied `n` times, each time one block further down
  the diagonal.

Either of these has `n * a.rows` rows, which is also its leading dimension, and is *cleared*
first: what the kernel does not write afterwards is zero. The destination behind a product is
left alone.
-/

namespace DenseKron

/-! ### Products of two matrices -/

section Product

variable {α : Type} [One α] [Mul α] [DecidableEq α]

/-- **Kronecker product.** Writes `a ⊗ b` into the buffer. -/
def product (copier : Copier) (a b : Operand α) : Write α Unit := do
  let length ← Write.length
  -- the right factor and the destination are checked even for a product without entries
  let rightLength ← Size.mul b.rows b.cols
  require (rightLength ≤ b.entries.size) .shortRightFactor
  let total ← Size.mul (← Size.mul (← Size.mul a.rows b.rows) a.cols) b.cols
  require (total ≤ length) .shortProduct
  if a.rows = 0 ∨ a.cols = 0 ∨ b.rows = 0 ∨ b.cols = 0 then
    return ()
  else
    -- from here on every block has entries, and the cursor meets one block per entry of `a`
    let ldc ← Size.mul b.rows a.rows
    let entries ← a.packed
    let block : CopyRequest := { rows := b.rows, cols := b.cols, lda := b.rows, ldb := ldc }
    let jump := do Size.mul (← Size.sub b.cols 1) ldc
    Sweep.run b.rows jump (fun cursor x => copier.copy block x b.entries cursor) 0
      (a.columns entries)

end Product

/-! ### Identities -/

section Identity

variable {α : Type} [Zero α] [One α] [Mul α] [DecidableEq α]

omit [Mul α] [DecidableEq α] in
/-- **Identity.** Writes the identity of order `n` into the buffer. The ones lie `n + 1`
elements apart, in the cleared `n * n` elements and not behind them. -/
def identity (n : Nat) : Write α Unit := do
  let total ← Size.mul n n
  Write.fill total 0
  let stride ← Size.add n 1
  Write.storeAll 1 (progression 0 stride total total)

omit [One α] [Mul α] [DecidableEq α] in
/-- The common beginning of both products: checks the destination and the operand, clears the
product and returns its leading dimension, its number of entries and the packed operand. -/
def clearProduct (a : Operand α) (n : Nat) : Write α (Nat × Nat × Array α) := do
  let length ← Write.length
  let ldb ← Size.mul n a.rows
  let total ← Size.mul (← Size.mul ldb n) a.cols
  require (total ≤ length) .shortIdentityProduct
  let entries ← a.packed
  Write.fill total 0
  return (ldb, total, entries)

omit [Zero α] [One α] [Mul α] [DecidableEq α] in
/-- Writes `x` along the diagonal of the `n × n` block at `cursor`, in a buffer with leading
dimension `ldb`: at most `n` stores, and none behind the end of the buffer. -/
def storeDiagonal (ldb n : Nat) (cursor : Nat) (x : α) : Write α Unit := do
  let w ← Write.window cursor
  let stride ← Size.add ldb 1
  Write.storeAll x (progression cursor stride n (cursor + w.length))

omit [One α] [Mul α] [DecidableEq α] in
/-- **Product with an identity on the right.** Writes `a ⊗ I` into the buffer, for the identity
of order `n`. -/
def timesIdentity (a : Operand α) (n : Nat) : Write α Unit := do
  let (ldb, total, entries) ← clearProduct a n
  if total = 0 then
    return ()
  else
    -- a column of blocks is `n` columns wide: one is walked down, the others are jumped over
    let jump := do Size.mul ldb (← Size.sub n 1)
    Sweep.run n jump (storeDiagonal ldb n) 0 (a.columns entries)

/-- **Product with an identity on the left.** Writes `I ⊗ a` into the buffer, for the identity
of order `n`. -/
def identityTimes (copier : Copier) (a : Operand α) (n : Nat) : Write α Unit := do
  let (ldb, total, entries) ← clearProduct a n
  if total = 0 then
    return ()
  else
    -- the next diagonal block starts `a.cols` columns to the right and `a.rows` rows down
    let stride ← Size.add (← Size.mul ldb a.cols) a.rows
    let block : CopyRequest := { rows := a.rows, cols := a.cols, lda := a.rows, ldb }
    Guarded.each (fun i => do
      copier.copy block 1 entries (← Size.mul i stride)) (List.range n)

end Identity

end DenseKron
