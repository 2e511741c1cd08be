/-!
# Inspection texts of records

A record is shown on one line, as its name and its fields in order.
-/

namespace Stencil.Text

/-- The fields of a record, each as its name and the text of its value, behind its name. -/
def record (name : String) (fields : List (String × String)) : String :=
  name ++ " \x7b " ++ ", ".intercalate (fields.map fun field => field.1 ++ ": " ++ field.2) ++
    " \x7d"

/-- Values in brackets, separated by commas. -/
def bracketed (values : List String) : String := "[" ++ ", ".intercalate values ++ "]"

/-- The text of a truth value. -/
def truth (b : Bool) : String := if b then "true" else "false"

end Stencil.Text
