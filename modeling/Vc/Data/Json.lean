import Mathlib

/-!
# JSON values

The tree that a JSON text denotes.  Numbers are kept as their literals, so that
no rounding is built into the type.
-/

namespace Vc

/-- A JSON value. -/
inductive Json where
  | null
  | bool (value : Bool)
  | num (literal : String)
  | str (text : String)
  | arr (elements : List Json)
  | obj (members : List (String × Json))
  deriving Inhabited

end Vc
