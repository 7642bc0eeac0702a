/-!
# Double-precision numbers in decimal

`Double` is a number in the 64-bit binary format, kept as its bits.  `Double.digits` finds the
shortest decimal that reads back as the number: the grids of ten, from coarse to fine, are searched
for a point in the interval of reals that round to it.  `Double.render` writes that decimal, plain
between `1e-5` and `1e16` and with an exponent elsewhere.  `Double.scaled?` reads a significand of
at most 64 bits and a power of ten the way number readers do that keep to double arithmetic: the
significand is rounded once and then multiplied or divided by exact powers of ten.
-/

namespace SqlLint

/-- A number in the 64-bit binary floating-point format. -/
structure Double where
  bits : UInt64
  deriving DecidableEq, Repr, Inhabited

namespace Double

/-- The sign bit. -/
def negative (d : Double) : Bool := d.bits >>> 63 != 0

/-- The exponent field. -/
def exponentField (d : Double) : Nat := (d.bits >>> 52).toNat % 0x800

/-- The fraction field. -/
def fraction (d : Double) : Nat := d.bits.toNat % Nat.pow 2 52

/-- The number is neither infinite nor undefined. -/
def isFinite (d : Double) : Bool := d.exponentField != 0x7FF

/-- The magnitude as `mantissa * 2 ^ exponent`. -/
def parts (d : Double) : Nat × Int :=
  if d.exponentField = 0 then (d.fraction, -1074)
  else (Nat.pow 2 52 + d.fraction, (d.exponentField : Int) - 1075)

/-- The magnitude and the two ends of the interval that rounds to it, as numerators of one
denominator. -/
structure Interval where
  low : Nat
  value : Nat
  high : Nat
  denominator : Nat
  closed : Bool

/-- The interval of reals that round to the number. -/
def interval (d : Double) : Interval :=
  let (m, q) := d.parts
  let below := if d.fraction = 0 ∧ 1 < d.exponentField then 1 else 2
  let scale := Nat.pow 2 (q - 2).toNat
  ⟨(4 * m - below) * scale, 4 * m * scale, (4 * m + 2) * scale, Nat.pow 2 (2 - q).toNat,
    m % 2 = 0⟩

/-- The interval holds `n * 10 ^ e`. -/
def Interval.contains (i : Interval) (n : Nat) (e : Int) : Bool :=
  let point := n * Nat.pow 10 e.toNat * i.denominator
  let shrink := Nat.pow 10 (-e).toNat
  if i.closed then i.low * shrink ≤ point && point ≤ i.high * shrink
  else i.low * shrink < point && point < i.high * shrink

/-- The point of the grid `10 ^ e` in the interval that is nearest to the value. -/
def Interval.onGrid? (i : Interval) (e : Int) : Option Nat :=
  let num := i.value * Nat.pow 10 (-e).toNat
  let den := i.denominator * Nat.pow 10 e.toNat
  let down := num / den
  let twice := 2 * (num - down * den)
  let first := if twice < den ∨ (twice = den ∧ down % 2 = 0) then down else down + 1
  let second := if first = down then down + 1 else down
  if i.contains first e then some first
  else if i.contains second e then some second
  else none

/-- The first grid at or below `10 ^ e` that has a point in the interval. -/
def Interval.search (i : Interval) (e : Int) : Nat → Nat × Int
  | 0 => (0, e)
  | steps + 1 =>
    match i.onGrid? e with
    | some n => if n = 0 then i.search (e - 1) steps else (n, e)
    | none => i.search (e - 1) steps

/-- The digits and the power of ten of the shortest decimal that reads back. -/
def digits (d : Double) : List Char × Int :=
  let (n, e) := d.interval.search 309 640
  let ds := Nat.toDigits 10 n
  let zeros := (ds.reverse.takeWhile (· == '0')).length
  (ds.take (ds.length - zeros), e + zeros)

/-- The magnitude in decimal. -/
def renderMagnitude (d : Double) : List Char :=
  if d.parts.1 = 0 then ['0', '.', '0']
  else
    let (ds, e) := d.digits
    let point := (ds.length : Int) + e
    if 0 ≤ e ∧ point ≤ 16 then ds ++ List.replicate e.toNat '0' ++ ['.', '0']
    else if 0 < point ∧ point ≤ 16 then ds.take point.toNat ++ '.' :: ds.drop point.toNat
    else if -5 < point ∧ point ≤ 0 then ['0', '.'] ++ List.replicate (-point).toNat '0' ++ ds
    else
      let exponent := (if 0 < point then ['+'] else []) ++ (toString (point - 1)).toList
      match ds with
      | [d] => d :: 'e' :: exponent
      | d :: rest => d :: '.' :: rest ++ 'e' :: exponent
      | [] => ['0', '.', '0']

/-- The number in decimal. -/
def render (d : Double) : String :=
  String.ofList ((if d.negative then ['-'] else []) ++ d.renderMagnitude)

/-- The double nearest to `10 ^ n`. -/
def powerOfTen (n : Nat) : Float := Float.ofScientific 1 false n

/-- The float `f * 10 ^ exponent` for an exponent of at most zero, by divisions. -/
def divide (f : Float) (n : Nat) : Float :=
  if n ≤ 308 then f / powerOfTen n
  else if n ≤ 616 then f / powerOfTen 308 / powerOfTen (n - 308)
  else f / powerOfTen 308 / powerOfTen 308 / powerOfTen (min (n - 616) 308)

/-- The double that a significand and a power of ten write, unless it is too large. -/
def scaled? (negative : Bool) (significand : UInt64) (exponent : Int) : Option Double :=
  let f := significand.toFloat
  let magnitude : Option Float :=
    if exponent ≤ 0 then some (divide f (-exponent).toNat)
    else if f == 0.0 then some 0.0
    else if 308 < exponent then none
    else
      let g := f * powerOfTen exponent.toNat
      if g.isInf then none else some g
  magnitude.map fun m => ⟨(if negative then -m else m).toBits⟩

end Double

end SqlLint
