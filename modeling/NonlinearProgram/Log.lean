/-!
# Logs

A computation that reports what it does returns its records with its value. The records of a step
come before those of the steps that follow, and they are kept when a later step fails.
-/

namespace NonlinearProgram

/-- How much attention a record asks for. -/
inductive Level where
  | debug
  | info
  | warning
  | error
  deriving DecidableEq, Repr

structure Record where
  level : Level
  message : String
  deriving DecidableEq, Repr

/-- A value and what was reported on the way to it. -/
structure Logged (β : Type) where
  value : β
  records : List Record := []

namespace Logged

instance : Monad Logged where
  pure b := ⟨b, []⟩
  bind m f :=
    let next := f m.value
    ⟨next.value, m.records ++ next.records⟩

def report (level : Level) (message : String) : Logged Unit := ⟨(), [⟨level, message⟩]⟩

@[simp] theorem value_pure {β : Type} (b : β) : (pure b : Logged β).value = b := rfl

@[simp] theorem records_pure {β : Type} (b : β) : (pure b : Logged β).records = [] := rfl

@[simp] theorem value_bind {β γ : Type} (m : Logged β) (f : β → Logged γ) :
    (m >>= f).value = (f m.value).value := rfl

@[simp] theorem records_bind {β γ : Type} (m : Logged β) (f : β → Logged γ) :
    (m >>= f).records = m.records ++ (f m.value).records := rfl

end Logged

end NonlinearProgram
