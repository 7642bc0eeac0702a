import SqlLint.Json.Draft

/-!
# Records in JSON

A record is written as an object, whose unknown members are ignored, or as the array of its fields
in their order.  `Draft.record?` views a draft as a record of the fields it is given the names of;
`Record.required`, `Record.optional` and `Record.defaulted` read one field.  They differ in what a
missing field is: an error, nothing (in an object; an array has to give it), or a default.  The
readers of simple values reject every value of another type.
-/

namespace SqlLint

namespace Draft

/-! ## Simple values -/

/-- A truth value. -/
def bool? : Draft → Option Bool
  | .bool b => some b
  | _ => none

/-- A string. -/
def text? : Draft → Option String
  | .str s => s
  | _ => none

/-- An integer from `low` to `high`. -/
def int? (low high : Int) : Draft → Option Int
  | .num (some (.int i)) => if low ≤ i ∧ i ≤ high then some i else none
  | _ => none

/-- An integer of 32 bits with a sign. -/
def int32? : Draft → Option Int := int? (-0x80000000) 0x7FFFFFFF

/-- An integer of 64 bits with a sign. -/
def int64? : Draft → Option Int := int? (-0x8000000000000000) 0x7FFFFFFFFFFFFFFF

/-- An integer of 32 bits without a sign. -/
def nat32? (d : Draft) : Option Nat := (int? 0 0xFFFFFFFF d).map Int.toNat

/-- An integer of 16 bits without a sign. -/
def word16? (d : Draft) : Option UInt16 := (int? 0 0xFFFF d).map fun i => i.toNat.toUInt16

/-- An integer of 64 bits without a sign. -/
def word64? (d : Draft) : Option UInt64 :=
  (int? 0 0xFFFFFFFFFFFFFFFF d).map fun i => i.toNat.toUInt64

/-- An array of values. -/
def list? {α : Type} (read : Draft → Option α) : Draft → Option (List α)
  | .arr items => items.mapM read
  | _ => none

/-- Null, or a value. -/
def nullable? {α : Type} (read : Draft → Option α) : Draft → Option (Option α)
  | .null => some none
  | d => (read d).map some

/-- One of the named values: its name, or an object whose one member has that name and is null. -/
def oneOf? {α : Type} (names : List (String × α)) : Draft → Option α
  | .str s => s.bind (names.lookup ·)
  | .obj [(k, .null)] => k.bind (names.lookup ·)
  | _ => none

/-- The first reading that succeeds. -/
def firstOf {α : Type} (readers : List (Draft → Option α)) (d : Draft) : Option α :=
  readers.findSome? (· d)

end Draft

/-- A draft seen as a record: the fields it gives and whether it gives them by name. -/
structure Record where
  byName : Bool
  fields : List (String × Draft)

/-- The members of an object whose keys all denote something. -/
def Draft.members? : Draft → Option (List (String × Draft))
  | .obj members => members.mapM fun (k, d) => k.map (·, d)
  | _ => none

/-- No known field is given twice. -/
def givenOnce (known : List String) (fields : List (String × Draft)) : Bool :=
  known.all fun name => (fields.filter (·.1 == name)).length ≤ 1

/-- A draft as a record that is written as an object only. -/
def Draft.namedRecord? (known : List String) (d : Draft) : Option Record := do
  let fields ← d.members?
  if givenOnce known fields then some ⟨true, fields⟩ else none

/-- A draft as a record of the fields `known`. -/
def Draft.record? (known : List String) : Draft → Option Record
  | .arr items => if items.length ≤ known.length then some ⟨false, known.zip items⟩ else none
  | d => d.namedRecord? known

namespace Record

/-- A field that has to be given. -/
def required {α : Type} (r : Record) (name : String) (read : Draft → Option α) : Option α := do
  read (← r.fields.lookup name)

/-- A field that an object may leave out or give as null. -/
def optional {α : Type} (r : Record) (name : String) (read : Draft → Option α) :
    Option (Option α) :=
  match r.fields.lookup name with
  | some d => d.nullable? read
  | none => if r.byName then some none else none

/-- A field that is `default` when it is not given. -/
def defaulted {α : Type} (r : Record) (name : String) (read : Draft → Option α) (default : α) :
    Option α :=
  match r.fields.lookup name with
  | some d => read d
  | none => some default

/-- The fields other than the known ones. -/
def others (r : Record) (known : List String) : List (String × Draft) :=
  r.fields.filter fun (name, _) => ! known.contains name

end Record

end SqlLint
