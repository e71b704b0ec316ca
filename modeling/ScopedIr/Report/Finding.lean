import ScopedIr.Report.Render
import ScopedIr.Check.Finding

/-!
# Reports of findings

A finding is reported at the token its instruction's metadata points to in the source.
-/

namespace ScopedIr

/-- The diagnostic of a finding in the source at `path`. -/
def Finding.toDiagnostic (f : Finding) (path source : String) : Diagnostic :=
  { code := f.code, message := f.message, path, span := Span.ofPosition f.origin source,
    label := f.label }

/-- The rendered report of a finding. -/
def Finding.report (f : Finding) (path source : String) : String :=
  (f.toDiagnostic path source).render source

end ScopedIr
