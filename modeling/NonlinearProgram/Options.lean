import NonlinearProgram.Datum.Conversion
import NonlinearProgram.Dictionary

/-!
# Options

Backends take options of several types by name.
-/

namespace NonlinearProgram

abbrev Options (α : Type) := Dictionary (Datum α)

end NonlinearProgram
