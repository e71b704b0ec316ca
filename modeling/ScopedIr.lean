import ScopedIr.Builder.Basic
import ScopedIr.Builder.Declare
import ScopedIr.Builder.Emit
import ScopedIr.Builder.Library
import ScopedIr.Builder.Session
import ScopedIr.Check.Finding
import ScopedIr.Check.Replay
import ScopedIr.Class.Basic
import ScopedIr.Class.Session
import ScopedIr.Class.Table
import ScopedIr.Config
import ScopedIr.Instr.Basic
import ScopedIr.Instr.Opcode
import ScopedIr.Instr.Operand
import ScopedIr.Library
import ScopedIr.Program
import ScopedIr.Proofs.Builder.Atomic
import ScopedIr.Proofs.Builder.Bindings
import ScopedIr.Proofs.Builder.Checked
import ScopedIr.Proofs.Builder.ClassBindings
import ScopedIr.Proofs.Builder.Effects
import ScopedIr.Proofs.Builder.Lockstep
import ScopedIr.Proofs.Builder.Registration
import ScopedIr.Proofs.Builder.Shape
import ScopedIr.Proofs.Builder.Spec
import ScopedIr.Proofs.Builder.Stream
import ScopedIr.Proofs.Builder.Visibility
import ScopedIr.Proofs.Chain
import ScopedIr.Proofs.Check.Agree
import ScopedIr.Proofs.Check.Brackets
import ScopedIr.Proofs.Check.Order
import ScopedIr.Proofs.Check.Reentry
import ScopedIr.Proofs.Check.Replay
import ScopedIr.Proofs.Class.Links
import ScopedIr.Proofs.Class.Methods
import ScopedIr.Proofs.Class.Subclass
import ScopedIr.Proofs.Instr.Identity
import ScopedIr.Proofs.Report.Span
import ScopedIr.Proofs.Scope.Frame
import ScopedIr.Proofs.Scope.Lookup
import ScopedIr.Proofs.Scope.Names
import ScopedIr.Proofs.Scope.Shape
import ScopedIr.Proofs.Scope.Tree
import ScopedIr.Report.Finding
import ScopedIr.Report.Render
import ScopedIr.Report.Span
import ScopedIr.Scope.Kind
import ScopedIr.Scope.Session
import ScopedIr.Scope.Tree
import ScopedIr.Symbol.Basic
import ScopedIr.Symbol.Type
import ScopedIr.Text.Blank
import ScopedIr.Text.Escaped
import ScopedIr.Text.GraphemeExtend
import ScopedIr.Text.Printable
import ScopedIr.Text.Ranges
import ScopedIr.Text.Width
import ScopedIr.Toml.Lexical
import ScopedIr.Toml.Parse
import ScopedIr.Toml.Tree
