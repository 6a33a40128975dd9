set_option autoImplicit false

namespace Gremlin.Text

def capitalize : List Char → List Char
  | [] => []
  | c :: rest => c.toUpper :: rest

/-- The words between the underscores of an identifier, capitalized, with a space between
neighbours. -/
def title (identifier : String) : String :=
  String.ofList ([' '].intercalate
    (((identifier.toList.splitOn '_').filter (!·.isEmpty)).map capitalize))

end Gremlin.Text
