import TeenyTiny.Fault

/-!
# Labels

The labels that a program has declared, and those that it jumps to.  A jump may
come before the declaration of its label, so the two are compared only when the
whole program is known.
-/

namespace TeenyTiny

/-- The declared labels, and for each label that is jumped to the span of the
first jump, ascending by name. -/
structure Labels where
  declared : List String
  targets : List (String × Span)
  deriving DecidableEq, Repr

namespace Labels

def empty : Labels :=
  ⟨[], []⟩

def isDeclared (labels : Labels) (name : String) : Bool :=
  labels.declared.contains name

/-- Declares a label, which may be done only once. -/
def declare (labels : Labels) (name : String) (span : Span) :
    Except Fault Labels :=
  if labels.isDeclared name then .error (.name (.repeatedLabel name) span)
  else .ok { labels with declared := name :: labels.declared }

/-- Puts a jump in its place among the others; the first jump to a label
stays. -/
def insertTarget (name : String) (span : Span) :
    List (String × Span) → List (String × Span)
  | [] => [(name, span)]
  | target :: rest =>
      if name < target.1 then (name, span) :: target :: rest
      else if name = target.1 then target :: rest
      else target :: insertTarget name span rest

def jump (labels : Labels) (name : String) (span : Span) : Labels :=
  { labels with targets := insertTarget name span labels.targets }

/-- The labels that are jumped to and not declared, ascending by name, each with
its first jump. -/
def unresolved (labels : Labels) : List (String × Span) :=
  labels.targets.filter fun target => !labels.isDeclared target.1

/-- Fails at the first unresolved label and names them all. -/
def check (labels : Labels) : Except Fault Unit :=
  match labels.unresolved with
  | [] => .ok ()
  | target :: rest =>
      let names := target.1 :: rest.map Prod.fst
      .error (.name (.missingLabels names) target.2)

end Labels

end TeenyTiny
