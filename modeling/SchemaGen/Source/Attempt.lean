import SchemaGen.Notice
import SchemaGen.Source.Error

/-! An attempt to read a source: its result, the requests made, whether they were answered or not,
and the notices given, each in their order. What was asked and told before a failure stays. -/

namespace SchemaGen.Source

set_option autoImplicit false

structure Attempt (α : Type) where
  result : Except Stop α
  requests : List Web.Request := []
  notices : List Notice := []

namespace Attempt

/-- Goes on with a value, if there is one. -/
def andThen {α β : Type} (x : Attempt α) (f : α → Attempt β) : Attempt β :=
  match x.result with
  | .error e => ⟨.error e, x.requests, x.notices⟩
  | .ok a =>
    let y := f a
    ⟨y.result, x.requests ++ y.requests, x.notices ++ y.notices⟩

instance : Monad Attempt where
  pure a := { result := .ok a }
  bind := andThen

/-- Fails. -/
def fail {α : Type} (e : SourceError) : Attempt α := { result := .error (.failed e) }

/-- Breaks the run off. -/
def abort {α : Type} : Attempt α := { result := .error .aborted }

/-- A result that takes no request and no notice. -/
def ofExcept {α : Type} (x : Except SourceError α) : Attempt α :=
  { result := x.mapError .failed }

/-- Gives a notice. -/
def notify (n : Notice) : Attempt Unit := { result := .ok (), notices := [n] }

/-- Notes that a request was made. -/
def asked (r : Web.Request) : Attempt Unit := { result := .ok (), requests := [r] }

end Attempt

end SchemaGen.Source
