import RpcSchema.Code.Fragment

/-!
Code written step by step.
-/

namespace RpcSchema.Code

/-- The lines written so far, and the level of those to come. -/
structure Builder where
  indent : Indent
  level : Nat
  lines : List Line

namespace Builder

def new (indent : Indent) : Builder := ⟨indent, 0, []⟩

/-- Appends lines. -/
def push (builder : Builder) (lines : List Line) : Builder :=
  { builder with lines := builder.lines ++ lines }

def line (builder : Builder) (text : String) : Builder := builder.push [⟨builder.level, text⟩]

/-- Appends every line of a text. -/
def textLines (builder : Builder) (text : String) : Builder :=
  (Text.lines text).foldl line builder

def blank (builder : Builder) : Builder := builder.line ""

def deeper (builder : Builder) : Builder := { builder with level := builder.level + 1 }

/-- The outermost level has none outside it. -/
def outer (builder : Builder) : Builder := { builder with level := builder.level - 1 }

def apply (builder : Builder) (fragment : Fragment) : Builder :=
  builder.push (fragment.lines builder.level)

def applyAll (builder : Builder) (fragments : List Fragment) : Builder :=
  fragments.foldl apply builder

/-- Goes on only when a condition holds. -/
def when (builder : Builder) (condition : Bool) (step : Builder → Builder) : Builder :=
  if condition then step builder else builder

def text (builder : Builder) : String := writeLines builder.indent builder.lines

end Builder

end RpcSchema.Code
