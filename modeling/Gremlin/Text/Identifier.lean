set_option autoImplicit false

/-! Identifiers: a lower-case letter, then lower-case letters, digits and underscores, all ASCII. -/

namespace Gremlin.Text

def startsIdentifier (c : Char) : Bool := c.isLower

def continuesIdentifier (c : Char) : Bool := c.isLower || c.isDigit || c = '_'

def isIdentifier : List Char → Bool
  | [] => false
  | c :: rest => startsIdentifier c && rest.all continuesIdentifier

end Gremlin.Text
