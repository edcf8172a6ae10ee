/-!
# Resource names

Every exported object gets a resource name.  It starts from the display name,
which `canonical` turns into a token character by character: parentheses are
dropped, ASCII letters are lowered, and whatever is neither an ASCII letter, digit
nor underscore becomes an underscore.  `fresh` adds the least number that keeps
the name apart from those already taken.
-/

set_option autoImplicit false

namespace DashboardExport.Naming

/-- What a character of a display name contributes to its token. -/
def tokenOf (c : Char) : List Char :=
  if c == '(' || c == ')' then []
  else if c.isAlphanum || c == '_' then [c.toLower]
  else ['_']

/-- The characters of a token: what the characters of the name contribute, one after the other. -/
def canonicalChars (chars : List Char) : List Char := chars.flatMap tokenOf

/-- The token of a display name, as a text. -/
def canonical (name : String) : String := String.ofList (canonicalChars name.toList)

/-- **The token of a joined name is the joined token.** -/
theorem canonicalChars_append (left right : List Char) :
    canonicalChars (left ++ right) = canonicalChars left ++ canonicalChars right :=
  List.flatMap_append

/-- A name with a number. -/
def numbered (base : String) (n : Nat) : String := base ++ "_" ++ toString n

/-- The first of the names numbered from `n` on that is not taken; the search gives up after `fuel`
numbers. -/
def firstFree (base : String) (taken : List String) : Nat → Nat → String
  | 0, n => numbered base n
  | fuel + 1, n =>
    if taken.contains (numbered base n) then firstFree base taken fuel (n + 1)
    else numbered base n

/-- The name itself if it is free, otherwise with the least number that makes it free. -/
def fresh (base : String) (taken : List String) : String :=
  if taken.contains base then firstFree base taken taken.length 1 else base

end DashboardExport.Naming
