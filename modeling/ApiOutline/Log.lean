import ApiOutline.Failure

/-!
Notes that a run leaves behind, and computations that leave them. A computation that fails keeps
the notes it made before.
-/
namespace ApiOutline

inductive Level where
  | debug
  | info
  | warning
  | error
  | critical
  deriving DecidableEq, Repr

def Level.rank : Level → Nat
  | .debug => 10
  | .info => 20
  | .warning => 30
  | .error => 40
  | .critical => 50

structure Note where
  level : Level
  message : String
  deriving DecidableEq, Repr

/-- The notes made so far, and the value or the failure that they led to. -/
structure Logged (α : Type) where
  notes : List Note
  result : Except Failure α

namespace Logged

variable {α β : Type}

def ok (a : α) : Logged α := ⟨[], .ok a⟩

def fail (e : Failure) : Logged α := ⟨[], .error e⟩

def ofExcept (r : Except Failure α) : Logged α := ⟨[], r⟩

def bind (x : Logged α) (f : α → Logged β) : Logged β :=
  match x.result with
  | .ok a => ⟨x.notes ++ (f a).notes, (f a).result⟩
  | .error e => ⟨x.notes, .error e⟩

instance : Monad Logged where
  pure := ok
  bind := bind

instance : MonadLift (Except Failure) Logged := ⟨ofExcept⟩

def note (level : Level) (message : String) : Logged Unit := ⟨[⟨level, message⟩], .ok ()⟩

def debug (message : String) : Logged Unit := note .debug message
def info (message : String) : Logged Unit := note .info message
def warning (message : String) : Logged Unit := note .warning message

end Logged

end ApiOutline
