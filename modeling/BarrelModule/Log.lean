namespace BarrelModule

inductive Level where
  | error
  | warn
  | info
  | debug
  | trace
  deriving DecidableEq, Repr

namespace Level

def rank : Level → Nat
  | .error => 1
  | .warn => 2
  | .info => 3
  | .debug => 4
  | .trace => 5

def label : Level → String
  | .error => "ERROR"
  | .warn => " WARN"
  | .info => " INFO"
  | .debug => "DEBUG"
  | .trace => "TRACE"

end Level

structure Event where
  level : Level
  source : String
  message : String
  fields : List (String × String)
  deriving DecidableEq, Repr

namespace Event

def line (e : Event) : String :=
  e.level.label ++ " " ++ e.message ++
    String.join (e.fields.map fun (name, value) => " " ++ name ++ "=" ++ value)

end Event

structure Journaled (ε α : Type) where
  events : List Event
  result : Except ε α

namespace Journaled

variable {ε α β : Type}

def ok (a : α) : Journaled ε α := ⟨[], .ok a⟩

def error (e : ε) : Journaled ε α := ⟨[], .error e⟩

def bind (j : Journaled ε α) (f : α → Journaled ε β) : Journaled ε β :=
  match j.result with
  | .error e => ⟨j.events, .error e⟩
  | .ok a => ⟨j.events ++ (f a).events, (f a).result⟩

def noting (a : α) (events : List Event) : Journaled ε α := ⟨events, .ok a⟩

end Journaled

end BarrelModule
