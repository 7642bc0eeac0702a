import SqlLint.Json.Record

/-!
# Shapes of JSON values

A `Shape` says how a value has to be built whose contents do not matter.  `Shape.read?` tells
whether a draft has the shape, by the readers of simple values and of records.
-/

namespace SqlLint

/-- Whether a field of a record has to be given: always; in an array, or as null; or not at all. -/
inductive Need where
  | required
  | optional
  | missable
  deriving DecidableEq, Repr

/-- How a value has to be built.  A record is written as an object or an array, and a named one as
an object only. -/
inductive Shape where
  | any
  | flag
  | number
  | count
  | text
  | word (names : List String)
  | list (item : Shape)
  | either (first second : Shape)
  | record (fields : List (String × Need × Shape))
  | named (fields : List (String × Need × Shape))

namespace Shape

mutual

/-- The draft has the shape. -/
def read? : Shape → Draft → Option Unit
  | .any, d => d.settle?.map fun _ => ()
  | .flag, d => d.bool?.map fun _ => ()
  | .number, d => d.int32?.map fun _ => ()
  | .count, d => d.nat32?.map fun _ => ()
  | .text, d => d.text?.map fun _ => ()
  | .word names, d => Draft.oneOf? (names.map (·, ())) d
  | .list item, d => (d.list? item.read?).map fun _ => ()
  | .either first second, d => (first.read? d).or (second.read? d)
  | .record fields, d => (d.record? (fields.map (·.1))).bind (readFields? fields)
  | .named fields, d => (d.namedRecord? (fields.map (·.1))).bind (readFields? fields)

/-- The fields of a record have their shapes. -/
def readFields? : List (String × Need × Shape) → Record → Option Unit
  | [], _ => some ()
  | (name, need, shape) :: fields, r =>
    let one : Option Unit := match need with
      | .required => r.required name shape.read?
      | .optional => (r.optional name shape.read?).map fun _ => ()
      | .missable => (r.defaulted name (Draft.nullable? shape.read?) none).map fun _ => ()
    one.bind fun _ => readFields? fields r

end

/-! ## Fields -/

/-- A field that may be left out. -/
def field (name : String) (shape : Shape) : String × Need × Shape := (name, .optional, shape)

/-- A field that has to be given. -/
def need (name : String) (shape : Shape) : String × Need × Shape := (name, .required, shape)

/-- A record of which each field may be left out. -/
def options (fields : List (String × Shape)) : Shape :=
  .record (fields.map fun (name, shape) => field name shape)

/-- A record of truth values, each of which may be left out. -/
def flags (names : List String) : Shape := options (names.map (·, .flag))

end Shape

end SqlLint
