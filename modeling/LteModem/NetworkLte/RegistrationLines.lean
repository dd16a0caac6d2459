import LteModem.NetworkLte.Machine
import LteModem.XE310.Reports

/-!
# Two readers of a registration line

`handle_urc` and `get_registration_status` read `+CEREG:` each in its own way. The URC has the status in its first
field, the answer to the query in its second.
-/

open Strings

namespace LteModem.NetworkLte.RegistrationLines

/-! ## The lines -/

/-- Spaces and tabs. -/
def Blank (b : Str) : Prop := ∀ c ∈ b, c ∈ [' ', '\t']

/-- A number with blanks around it. -/
structure Number where
  before : Str
  value : Nat
  behind : Str
  blank : Blank before ∧ Blank behind

def Number.text (x : Number) : Str := x.before ++ decimal x.value ++ x.behind

end LteModem.NetworkLte.RegistrationLines
