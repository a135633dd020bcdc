import RpcSchema.Code.Fragment

/-!
# Rows of code

Code is read off fragments, before their lines are written. A row is a line of code without its
white space; comments are no rows.
-/

namespace RpcSchema.Code

def Fragment.row? : Fragment → Option String
  | .line text => some text
  | _ => none

/-- The rows that stand directly in a body. -/
def rowsOf (body : List Fragment) : List String := body.filterMap Fragment.row?

theorem rowsOf_append (front rest : List Fragment) :
    rowsOf (front ++ rest) = rowsOf front ++ rowsOf rest := List.filterMap_append

theorem rowsOf_lines (rows : List String) : rowsOf (rows.map Fragment.line) = rows := by
  rw [rowsOf, List.filterMap_map]
  exact List.filterMap_some

/-! ## Blocks -/

mutual
/-- The bodies of the blocks of a fragment, from the outside to the inside. -/
def Fragment.bodies : Fragment → List (List Fragment)
  | .block _ body _ => body :: bodiesOf body
  | .indent body => bodiesOf body
  | _ => []

def bodiesOf : List Fragment → List (List Fragment)
  | [] => []
  | fragment :: rest => fragment.bodies ++ bodiesOf rest
end

theorem bodiesOf_append (front rest : List Fragment) :
    bodiesOf (front ++ rest) = bodiesOf front ++ bodiesOf rest := by
  induction front with
  | nil => rfl
  | cons fragment front ih =>
      rw [List.cons_append, bodiesOf, ih, bodiesOf, List.append_assoc]

theorem bodiesOf_lines (rows : List String) : bodiesOf (rows.map Fragment.line) = [] := by
  induction rows with
  | nil => rfl
  | cons row rows ih => exact ih

/-! ## All rows -/

mutual
/-- The rows of a fragment at every depth. -/
def Fragment.rows : Fragment → List String
  | .line text => [text]
  | .block header body close => header :: rowsIn body ++ close.toList
  | .indent body => rowsIn body
  | _ => []

def rowsIn : List Fragment → List String
  | [] => []
  | fragment :: rest => fragment.rows ++ rowsIn rest
end

theorem rowsIn_append (front rest : List Fragment) :
    rowsIn (front ++ rest) = rowsIn front ++ rowsIn rest := by
  induction front with
  | nil => rfl
  | cons fragment front ih => rw [List.cons_append, rowsIn, ih, rowsIn, List.append_assoc]

theorem rowsIn_flatMap {α : Type} (items : List α) (part : α → List Fragment) :
    rowsIn (items.flatMap part) = items.flatMap fun item => rowsIn (part item) := by
  induction items with
  | nil => rfl
  | cons item items ih => rw [List.flatMap_cons, rowsIn_append, ih, List.flatMap_cons]

end RpcSchema.Code
