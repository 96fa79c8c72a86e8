/-!
Tables with text keys, kept in ascending order of the keys. Putting a value under a key that is
there replaces its value.
-/

namespace SopDocs.Sorted

variable {α : Type}

/-- Sets the value of a key; a table in ascending order stays so. -/
def put (key : String) (value : α) : List (String × α) → List (String × α)
  | [] => [(key, value)]
  | (k, v) :: r =>
    if key < k then (key, value) :: (k, v) :: r
    else if key = k then (key, value) :: r
    else (k, v) :: put key value r

def get? (key : String) (table : List (String × α)) : Option α :=
  (table.find? (·.1 == key)).map (·.2)

def contains (key : String) (table : List (String × α)) : Bool := (get? key table).isSome

def keys (table : List (String × α)) : List String := table.map (·.1)

/-- The table of pairs in any order; the last one of a key counts. -/
def ofList (pairs : List (String × α)) : List (String × α) :=
  pairs.foldl (fun table p => put p.1 p.2 table) []

end SopDocs.Sorted
