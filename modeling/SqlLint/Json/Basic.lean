import SqlLint.Json.Double

/-!
# JSON values

`Json` is the type of JSON values.  The members of an object are kept in the order of their keys,
each key once: `Json.object` sorts its members and `Members.insert` replaces the member of a key.
Numbers are integers or doubles; only integers that fit 64 bits are read as integers.
-/

namespace SqlLint

/-- A JSON number. -/
inductive JsonNumber where
  | int (value : Int)
  | real (value : Double)
  deriving DecidableEq, Repr, Inhabited

/-- A JSON value. -/
inductive Json where
  | null
  | bool (value : Bool)
  | num (value : JsonNumber)
  | str (value : String)
  | arr (items : List Json)
  | obj (members : List (String × Json))
  deriving Repr, Inhabited, BEq

/-- Entries of a map that is kept in the order of its keys. -/
abbrev Members (α : Type) := List (String × α)

namespace Members

/-- The entries with the one of `key` replaced, or added at its place. -/
def insert {α : Type} (key : String) (value : α) : Members α → Members α
  | [] => [(key, value)]
  | (k, v) :: rest =>
    if k = key then (key, value) :: rest
    else if key < k then (key, value) :: (k, v) :: rest
    else (k, v) :: insert key value rest

/-- The entry of a key. -/
def get? {α : Type} (key : String) (entries : Members α) : Option α := entries.lookup key

/-- The entries of a list, a later one replacing an earlier one of the same key. -/
def ofList {α : Type} (entries : List (String × α)) : Members α :=
  entries.foldl (fun acc (k, v) => insert k v acc) []

end Members

namespace Json

/-- The object with the given members, in the order of their keys. -/
def object (members : List (String × Json)) : Json := .obj (Members.ofList members)

/-- The object of the members that are present. -/
def objectOf (members : List (String × Option Json)) : Json :=
  object (members.filterMap fun (k, v) => v.map (k, ·))

/-- An integer. -/
def int (i : Int) : Json := .num (.int i)

/-- A natural number. -/
def nat (n : Nat) : Json := .num (.int n)

/-- The value, or null. -/
def ofOption {α : Type} (f : α → Json) : Option α → Json
  | none => .null
  | some a => f a

/-- The array of the images. -/
def list {α : Type} (f : α → Json) (xs : List α) : Json := .arr (xs.map f)

/-- The array of strings. -/
def strings (xs : List String) : Json := list .str xs

/-- The member of an object. -/
def get? (key : String) : Json → Option Json
  | .obj members => members.lookup key
  | _ => none

/-- The text of a string. -/
def str? : Json → Option String
  | .str s => some s
  | _ => none

/-- The value is null. -/
def isNull : Json → Bool
  | .null => true
  | _ => false

end Json

end SqlLint
