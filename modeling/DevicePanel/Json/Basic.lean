import DevicePanel.Json.Number

/-!
# JSON values

The values of JSON.  The fields of an object are held in the order of their
keys, each key once; `Json.insert` and `Json.ofFields` keep it so.
-/

namespace DevicePanel

/-- A JSON value. -/
inductive Json where
  | null
  | bool (value : Bool)
  | number (value : Json.Number)
  | text (value : String)
  | array (items : List Json)
  | object (fields : List (String × Json))

namespace Json

instance : Inhabited Json := ⟨.null⟩

/-- Put a field into its place by key; a value under the same key is replaced. -/
def insert (key : String) (value : Json) : List (String × Json) → List (String × Json)
  | [] => [(key, value)]
  | (k, v) :: rest =>
    if key < k then (key, value) :: (k, v) :: rest
    else if key == k then (key, value) :: rest
    else (k, v) :: insert key value rest

/-- The object with the given fields, where the last value of a key counts. -/
def ofFields (fields : List (String × Json)) : Json :=
  .object (fields.foldl (fun sorted (k, v) => insert k v sorted) [])

/-- The natural number `n`, when it is below `2 ^ 64`. -/
def ofNat (n : Nat) (h : n < 18446744073709551616) : Json := .number (.ofNat n h)

end Json

end DevicePanel
