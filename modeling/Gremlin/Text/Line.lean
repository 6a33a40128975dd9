set_option autoImplicit false

namespace Gremlin.Text

def call (name : String) (values : List String) : String :=
  name ++ "(" ++ ", ".intercalate values ++ ")"

def labelled (name : String) (fields : List (String × String)) : String :=
  let shown := fields.map fun field => field.1 ++ ": " ++ field.2
  name ++ " \x7b " ++ ", ".intercalate shown ++ " \x7d"

def optional (value : Option String) : String :=
  match value with
  | some value => call "Some" [value]
  | none => "None"

def flag (b : Bool) : String := if b then "true" else "false"

end Gremlin.Text
