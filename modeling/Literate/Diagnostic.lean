import Literate.Fault

/-! A fault in the form in which it is shown to a reader: a message, the place it is
about, and notes. -/

namespace Literate

/-- The marked place of a diagnostic. -/
structure Label where
  file : Nat
  span : Span
deriving DecidableEq

structure Diagnostic where
  message : String
  labels : List Label
  notes : List String
deriving DecidableEq

/-- The diagnostic of a fault has one label, at the fault's place. -/
def Fault.diagnostic (fault : Fault) : Diagnostic :=
  { message := fault.text, labels := [⟨fault.file, fault.span⟩], notes := fault.notes }

end Literate
