import DenseKron.Fault
import DenseKron.Size
import DenseKron.Layout
import DenseKron.Shape
import DenseKron.Buffer
import DenseKron.BlockCopy.Plan
import DenseKron.BlockCopy.Serial
import DenseKron.BlockCopy.Chunked
import DenseKron.BlockCopy.Copier
import DenseKron.Kernel.Sweep
import DenseKron.Kernel.Products
import DenseKron.Determinant
import DenseKron.Error
import DenseKron.Log
import DenseKron.Text.CodePoints
import DenseKron.Text.Cased
import DenseKron.Text.LowerCase
import DenseKron.Text.Printable
import DenseKron.Text.Shown
import DenseKron.Checked
import DenseKron.View
import DenseKron.Arrays
import DenseKron.Settings.Values
import DenseKron.Settings.Load
import DenseKron.Ledger.Accounts
import DenseKron.Ledger.Basic
import DenseKron.Ledger.Report
import DenseKron.Ledger.Session
import DenseKron.Decimal.Binary
import DenseKron.Decimal.Fixed
import DenseKron.Demo
import DenseKron.Main
import DenseKron.Proofs.Stores
import DenseKron.Proofs.Places
import DenseKron.Proofs.BlockCopy
import DenseKron.Proofs.CopyContract
import DenseKron.Proofs.Cursor
import DenseKron.Proofs.ProductBlocks
import DenseKron.Proofs.IdentityBlocks
import DenseKron.Proofs.Interchange
import DenseKron.Proofs.KernelFaults
import DenseKron.Proofs.Written
import DenseKron.Proofs.Screen
import DenseKron.Proofs.CheckedOutcome
import DenseKron.Proofs.Identity
import DenseKron.Proofs.IdentityAgreement
import DenseKron.Proofs.Gathering
import DenseKron.Proofs.ViewProducts
import DenseKron.Proofs.Dealings
import DenseKron.Proofs.SessionHistory
import DenseKron.Proofs.HonestSessions
import DenseKron.Proofs.Factorization
import DenseKron.Proofs.Made
import DenseKron.Proofs.Composition
import DenseKron.Proofs.Shuffle
import DenseKron.Proofs.Transposition
import DenseKron.Proofs.Associativity
import DenseKron.Proofs.Journal
import DenseKron.Proofs.Schedules
import DenseKron.Proofs.CopyFaults
import DenseKron.Proofs.Spans
import DenseKron.Proofs.Calls
import DenseKron.Proofs.WriteSets
import DenseKron.Proofs.DoubleTransposition
import DenseKron.Proofs.ViewOutcome
import DenseKron.Proofs.ProductSizes
import DenseKron.Proofs.Reports
import DenseKron.Proofs.CallOrder
import DenseKron.Proofs.DeterminantRuns
import DenseKron.Proofs.WhiteSpace
import DenseKron.Proofs.LetterCase
import DenseKron.Proofs.BackendNames
import DenseKron.Proofs.Thresholds
import DenseKron.Proofs.SettingsLoad
