import NonlinearProgram.Datum.Conversion

/-!
# Errors raised by user code

User code raises an error by the name of a class and a message of any type, which is worded as it is
written. Which classes there are is told by whoever runs the code.
-/

namespace NonlinearProgram

abbrev RaisableKinds := String → Option ErrorKind

def RaisableKinds.error {α : Type} [Scalar α] (kinds : RaisableKinds) (kind message : Datum α) :
    Error α :=
  match kinds kind.write with
  | some known => .raised known message.write
  | none => .fault (.noKey kind.write)

end NonlinearProgram
