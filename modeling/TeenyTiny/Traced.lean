import TeenyTiny.Event

/-!
# Traced results

A result together with the events noted on the way to it.  A failure keeps the
events that came before it, and nothing is noted after it.
-/

namespace TeenyTiny

/-- A result or a failure, and the events noted on the way, the oldest first. -/
structure Traced (Failure Result : Type) where
  events : List Event
  result : Except Failure Result

namespace Traced

variable {Failure Result Next : Type}

def done (result : Result) : Traced Failure Result :=
  ⟨[], .ok result⟩

def fail (failure : Failure) : Traced Failure Result :=
  ⟨[], .error failure⟩

def note (event : Event) : Traced Failure Unit :=
  ⟨[event], .ok ()⟩

def enter (rule : Rule) : Traced Failure Unit :=
  note (.entered rule)

def enterAll (rules : List Rule) : Traced Failure Unit :=
  ⟨rules.map .entered, .ok ()⟩

/-- Goes on with a result, and stops at a failure. -/
def andThen (traced : Traced Failure Result)
    (next : Result → Traced Failure Next) : Traced Failure Next :=
  match traced.result with
  | .error failure => ⟨traced.events, .error failure⟩
  | .ok result =>
      let rest := next result
      ⟨traced.events ++ rest.events, rest.result⟩

instance : Monad (Traced Failure) where
  pure := done
  bind := andThen

def ofExcept (result : Except Failure Result) : Traced Failure Result :=
  ⟨[], result⟩

def mapFailure {Other : Type} (change : Failure → Other)
    (traced : Traced Failure Result) : Traced Other Result :=
  ⟨traced.events, traced.result.mapError change⟩

end Traced

end TeenyTiny
