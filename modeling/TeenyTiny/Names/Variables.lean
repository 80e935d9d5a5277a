/-!
# Variables

The variables that a program has bound so far.  Binding a variable again changes
nothing.
-/

namespace TeenyTiny

/-- The bound variables in the order of their first binding. -/
structure Variables where
  names : List String
  deriving DecidableEq, Repr

namespace Variables

def empty : Variables :=
  ⟨[]⟩

def contains (bound : Variables) (name : String) : Bool :=
  bound.names.contains name

def bind (bound : Variables) (name : String) : Variables :=
  if bound.contains name then bound else ⟨bound.names ++ [name]⟩

def count (bound : Variables) : Nat :=
  bound.names.length

end Variables

end TeenyTiny
