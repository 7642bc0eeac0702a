import SqlLint.Json.Basic

/-!
# JSON texts as read

A `Draft` is the tree of a JSON text before anything is made of it: an object still has every
member that was written, and a number out of range or a string whose escapes denote no character
is kept as `none`, since a reader that skips it never looks at it.  `Draft.settle?` makes the value
of a draft if all of it denotes something and it is not nested too deeply; `Json.draft` is the
draft of a value.
-/

namespace SqlLint

/-- The tree of a JSON text. -/
inductive Draft where
  | null
  | bool (value : Bool)
  | num (value : Option JsonNumber)
  | str (value : Option String)
  | arr (items : List Draft)
  | obj (members : List (Option String × Draft))
  deriving Inhabited

mutual

/-- The draft of a value. -/
def Json.draft : Json → Draft
  | .null => .null
  | .bool b => .bool b
  | .num n => .num (some n)
  | .str s => .str (some s)
  | .arr items => .arr (Json.draftItems items)
  | .obj members => .obj (Json.draftMembers members)

/-- The drafts of the items of an array. -/
def Json.draftItems : List Json → List Draft
  | [] => []
  | j :: js => j.draft :: Json.draftItems js

/-- The drafts of the members of an object. -/
def Json.draftMembers : List (String × Json) → List (Option String × Draft)
  | [] => []
  | (k, j) :: ms => (some k, j.draft) :: Json.draftMembers ms

end

namespace Draft

/-- The number of arrays and objects that may be open inside one another. -/
def maxDepth : Nat := 127

mutual

/-- The value of a draft with at most `depth` arrays and objects open inside one another. -/
def settleAt? (depth : Nat) : Draft → Option Json
  | .null => some .null
  | .bool b => some (.bool b)
  | .num n => n.map .num
  | .str s => s.map .str
  | .arr items => if depth = 0 then none else (settleItems? (depth - 1) items).map .arr
  | .obj members =>
    if depth = 0 then none
    else (settleMembers? (depth - 1) members).map fun ms => .obj (Members.ofList ms)

/-- The values of the items of an array. -/
def settleItems? (depth : Nat) : List Draft → Option (List Json)
  | [] => some []
  | d :: ds => do return (← settleAt? depth d) :: (← settleItems? depth ds)

/-- The values of the members of an object. -/
def settleMembers? (depth : Nat) : List (Option String × Draft) → Option (List (String × Json))
  | [] => some []
  | (k, d) :: ms => do return (← k, ← settleAt? depth d) :: (← settleMembers? depth ms)

end

/-- The value of a draft. -/
def settle? (d : Draft) : Option Json := d.settleAt? maxDepth

end Draft

end SqlLint
