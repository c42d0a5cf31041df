/-
# Parameters between braces

Between braces stands the name of a parameter, and perhaps what is done with its
value: another text stands in for it, its length is taken, or its beginning or
its end is cut off.

Key definitions: `Shell.Use`, `Shell.Parameter`, `Shell.Parameter.read?`.
-/
import SessionWatch.Shell.Token

namespace SessionWatch.Shell

/-- What is done with the value of a parameter. With a colon, an empty value counts as none. -/
inductive Use where
  | value
  | length
  /-- A word stands in for a missing value. -/
  | fallback (colon : Bool) (w : Word)
  /-- A word becomes the value if there is none. -/
  | assign (colon : Bool) (w : Word)
  /-- A missing value is an error. -/
  | insist (colon : Bool) (w : Word)
  /-- A word stands in for a value that is there. -/
  | instead (colon : Bool) (w : Word)
  | cutFront (longest : Bool) (w : Word)
  | cutBack (longest : Bool) (w : Word)

structure Parameter where
  name : String
  use : Use

namespace Parameter

/-- The name that a text begins with. -/
def nameOf (cs : List Char) : List Char :=
  match cs with
  | c :: _ =>
    if isNameStart c then cs.takeWhile isNameChar
    else if c.isDigit then cs.takeWhile Char.isDigit
    else if isSpecial c then [c] else []
  | [] => []

/-- What stands behind the name. -/
def readUse? (quoted : Bool) (cs : List Char) : Option Use :=
  let word := fun (cs : List Char) => Word.ofText? .braces quoted (String.ofList cs)
  let pattern := fun (cs : List Char) => Word.ofText? .braces false (String.ofList cs)
  let (colon, op) : Bool × List Char := match cs with
    | ':' :: op => (true, op)
    | op => (false, op)
  match cs, op with
  | [], _ => some .value
  | '%' :: '%' :: w, _ => (pattern w).map (.cutBack true)
  | '%' :: w, _ => (pattern w).map (.cutBack false)
  | '#' :: '#' :: w, _ => (pattern w).map (.cutFront true)
  | '#' :: w, _ => (pattern w).map (.cutFront false)
  | _, '-' :: w => (word w).map (.fallback colon)
  | _, '=' :: w => (word w).map (.assign colon)
  | _, '?' :: w => (word w).map (.insist colon)
  | _, '+' :: w => (word w).map (.instead colon)
  | _, _ => none

/-- What a text between braces says; `quoted` if they stand between double quotes. -/
def read? (quoted : Bool) (text : String) : Option Parameter :=
  let whole := fun (cs : List Char) =>
    let name := nameOf cs
    if name.isEmpty then none
    else (readUse? quoted (cs.drop name.length)).map fun u =>
      (⟨String.ofList name, u⟩ : Parameter)
  match text.toList with
  | '#' :: c :: cs =>
    if (nameOf (c :: cs)).length = cs.length + 1 then some ⟨String.ofList (c :: cs), .length⟩
    else whole ('#' :: c :: cs)
  | cs => whole cs

end Parameter

end SessionWatch.Shell
