import SqlLint.Domain.Basic
import SqlLint.Url.Percent

/-!
# Hosts of URLs

A host is a domain name in ASCII, four numbers, an IPv6 address in brackets, or, for schemes
without registered names, any text.  `specialHost` reads the host of a scheme that has domain
names and `plainHost` that of another scheme; both give the text that the URL shows.
-/

namespace SqlLint.Url

open Text

/-- Why a text is not a URL. -/
inductive Fault where
  | emptyHost
  | badDomain
  | badPort
  | badIpv4
  | badIpv6
  | badCharacter
  | relative
  deriving DecidableEq, Repr

/-- The words for a fault. -/
def Fault.message : Fault → String
  | .emptyHost => "empty host"
  | .badDomain => "invalid international domain name"
  | .badPort => "invalid port number"
  | .badIpv4 => "invalid IPv4 address"
  | .badIpv6 => "invalid IPv6 address"
  | .badCharacter => "invalid domain character"
  | .relative => "relative URL without a base"

/-! ## IPv4 -/

/-- A part of an address: decimal, octal after a zero, hexadecimal after `0x`. -/
def ipv4Part? (cs : List Char) : Option Nat :=
  let number (base : Nat) (digits : List Char) : Option Nat :=
    digits.foldlM (fun n c => do
      let d ← hexValue? c
      if d < base then some (base * n + d) else none) 0
  match cs with
  | [] => none
  | '0' :: 'x' :: ds => number 16 ds
  | '0' :: 'X' :: ds => number 16 ds
  | '0' :: ds => number 8 ds
  | ds => number 10 ds

/-- The parts of a host between dots, without an empty last one. -/
def dottedParts (cs : List Char) : List (List Char) :=
  let parts := pieces (· == '.') cs
  if 1 < parts.length ∧ parts.getLast? = some [] then parts.dropLast else parts

/-- The last part of the host is a number, so that the host has to be an address. -/
def endsInNumber (cs : List Char) : Bool :=
  match (dottedParts cs).getLast? with
  | none => false
  | some [] => false
  | some part => part.all Char.isDigit || (ipv4Part? part).isSome

/-- The address that a host writes, as four numbers between dots. -/
def ipv4 (cs : List Char) : Except Fault (List Char) :=
  let parts := dottedParts cs
  match parts.mapM ipv4Part? with
  | none => .error .badIpv4
  | some numbers =>
    let leading := numbers.dropLast
    let last := numbers.getLastD 0
    if 4 < numbers.length ∨ leading.any (255 < ·) ∨ Nat.pow 256 (5 - numbers.length) ≤ last then
      .error .badIpv4
    else
      let value := leading.zipIdx.foldl (fun v (n, i) => v + n * Nat.pow 256 (3 - i)) last
      let octets := [value >>> 24, (value >>> 16) % 256, (value >>> 8) % 256, value % 256]
      .ok (join ['.'] (octets.map fun n => (toString n).toList))

/-! ## IPv6 -/

/-- A group of one to four hexadecimal digits. -/
def ipv6Group? (cs : List Char) : Option Nat :=
  if cs = [] ∨ 4 < cs.length then none
  else cs.foldlM (fun n c => (hexValue? c).map (16 * n + ·)) 0

/-- Four decimal numbers as two groups. -/
def ipv6Tail? (cs : List Char) : Option (List Nat) := do
  let parts := pieces (· == '.') cs
  let numbers ← parts.mapM fun p =>
    if 1 < p.length ∧ p.head? = some '0' then none else decimal? 256 p
  match numbers with
  | [a, b, c, d] => some [256 * a + b, 256 * c + d]
  | _ => none

/-- Groups between colons, of which the last may be four decimal numbers. -/
def ipv6Groups? (cs : List Char) : Option (List Nat) :=
  if cs = [] then some []
  else
    let parts := pieces (· == ':') cs
    let last := parts.getLastD []
    if last.contains '.' then do
      return (← parts.dropLast.mapM ipv6Group?) ++ (← ipv6Tail? last)
    else parts.mapM ipv6Group?

/-- The eight groups of an address. -/
def ipv6Address? (cs : List Char) : Option (List Nat) :=
  match cutAt [':', ':'] cs with
  | none => do
    let groups ← ipv6Groups? cs
    if groups.length = 8 then some groups else none
  | some (before, after) => do
    let first ← ipv6Groups? before
    if before.contains '.' then none
    let second ← ipv6Groups? after
    let given := first.length + second.length
    if 7 < given then none
    else some (first ++ List.replicate (8 - given) 0 ++ second)

/-- The number of zero groups at the start of a list. -/
def zeroRun (groups : List Nat) : Nat := (groups.takeWhile (· = 0)).length

/-- The longest run of at least two zero groups: where it begins and how long it is. -/
def longestRun (groups : List Nat) : Option (Nat × Nat) :=
  let runs := (List.range groups.length).map fun i => (i, zeroRun (groups.drop i))
  runs.foldl (fun best (i, n) =>
    match best with
    | none => if 1 < n then some (i, n) else none
    | some (_, m) => if m < n then some (i, n) else best) none

/-- A group in hexadecimal. -/
def ipv6Text (n : Nat) : List Char := Nat.toDigits 16 n

/-- An address in brackets, its longest run of zeros left out. -/
def ipv6Host (groups : List Nat) : List Char :=
  let body := match longestRun groups with
    | none => join [':'] (groups.map ipv6Text)
    | some (i, n) =>
      join [':'] ((groups.take i).map ipv6Text) ++ [':', ':'] ++
        join [':'] ((groups.drop (i + n)).map ipv6Text)
  '[' :: body ++ [']']

/-! ## Hosts -/

/-- The characters that no host holds. -/
def isForbidden (c : Char) : Bool :=
  "\x00\t\n\r #/:<>?@[\\]^|".contains c

/-- An address in brackets. -/
def bracketed (cs : List Char) : Except Fault (List Char) :=
  match cs.getLast? with
  | some ']' =>
    match ipv6Address? (cs.dropLast.drop 1) with
    | some groups => .ok (ipv6Host groups)
    | none => .error .badIpv6
  | _ => .error .badIpv6

/-- The host of a scheme with domain names. -/
def specialHost (cs : List Char) : Except Fault (List Char) :=
  if cs.head? = some '[' then bracketed cs
  else match Domain.ascii? (Utf8.lossy (decode cs)) with
    | none => .error .badDomain
    | some name =>
      if name = [] then .error .emptyHost
      else if endsInNumber name then ipv4 name
      else .ok name

/-- The host of another scheme. -/
def plainHost (cs : List Char) : Except Fault (List Char) :=
  if cs.head? = some '[' then bracketed cs
  else if cs.any isForbidden then .error .badCharacter
  else .ok (encodeWith isControl cs)

end SqlLint.Url
