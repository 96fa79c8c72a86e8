import SopDocs.Decimal.Binary
import SopDocs.Sorted
/-!
JSON values. An object that is read has its members in ascending order of their keys, each key once.
-/

namespace SopDocs.Json

inductive Value where
  | null
  | bool (value : Bool)
  | int (value : Int)
  | float (value : Decimal.Binary)
  | string (value : String)
  | array (items : List Value)
  | object (members : List (String × Value))
deriving Inhabited

def Value.field? (key : String) : Value → Option Value
  | .object members => Sorted.get? key members
  | _ => none

end SopDocs.Json
