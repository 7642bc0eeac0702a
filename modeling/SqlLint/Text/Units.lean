/-!
# UTF-16 units

Editors count columns in UTF-16 code units: a character outside the basic plane takes two of
them, every other character one.  `Char.units16` is that width, `units16` the width of a text,
and `charsBefore` the number of characters that begin before a given column.
-/

namespace SqlLint.Text

/-- The number of UTF-16 code units of a character. -/
def charUnits (c : Char) : Nat := if c.toNat < 0x10000 then 1 else 2

/-- The number of UTF-16 code units of a text. -/
def units16 : List Char → Nat
  | [] => 0
  | c :: cs => charUnits c + units16 cs

/-- The number of characters of the text that begin before the UTF-16 column `column`. -/
def charsBefore : List Char → Nat → Nat
  | [], _ => 0
  | c :: cs, column => if column = 0 then 0 else charsBefore cs (column - charUnits c) + 1

/-- The number of bytes of a text in UTF-8. -/
def utf8Size : List Char → Nat
  | [] => 0
  | c :: cs => c.utf8Size + utf8Size cs

theorem charUnits_pos (c : Char) : 0 < charUnits c := by
  unfold charUnits; split <;> omega

@[simp] theorem units16_nil : units16 [] = 0 := rfl

@[simp] theorem units16_cons (c : Char) (cs : List Char) :
    units16 (c :: cs) = charUnits c + units16 cs := rfl

theorem units16_append (xs ys : List Char) : units16 (xs ++ ys) = units16 xs + units16 ys := by
  induction xs with
  | nil => simp
  | cons c cs ih => simp [ih, Nat.add_assoc]

theorem utf8Size_append (xs ys : List Char) : utf8Size (xs ++ ys) = utf8Size xs + utf8Size ys := by
  induction xs with
  | nil => simp [utf8Size]
  | cons c cs ih => simp [utf8Size, ih, Nat.add_assoc]

theorem utf8ByteSize_ofList (cs : List Char) : (String.ofList cs).utf8ByteSize = utf8Size cs := by
  induction cs with
  | nil => rfl
  | cons c cs ih =>
    rw [← List.singleton_append, String.ofList_append, String.utf8ByteSize_append, ih]
    simp [utf8Size]

theorem utf8ByteSize_eq (s : String) : s.utf8ByteSize = utf8Size s.toList := by
  rw [← utf8ByteSize_ofList, String.ofList_toList]

theorem charsBefore_zero (cs : List Char) : charsBefore cs 0 = 0 := by
  cases cs <;> simp [charsBefore]

theorem charsBefore_le_length (cs : List Char) (column : Nat) :
    charsBefore cs column ≤ cs.length := by
  induction cs generalizing column with
  | nil => simp [charsBefore]
  | cons c cs ih =>
    simp only [charsBefore, List.length_cons]
    split
    · omega
    · have := ih (column - charUnits c)
      omega

end SqlLint.Text
