/-! # Lengths in UTF-16 code units

Columns of a source position count UTF-16 code units, so a character outside the basic plane is two
columns wide.
-/
namespace LiveMarkup

/-- The number of UTF-16 code units of a character: one in the basic plane, two outside. -/
def unitsOf (c : Char) : Nat := if c.toNat < 0x10000 then 1 else 2

theorem unitsOf_pos (c : Char) : 0 < unitsOf c := by
  unfold unitsOf; split <;> decide

def utf16Length : List Char → Nat
  | [] => 0
  | c :: cs => unitsOf c + utf16Length cs

@[simp] theorem utf16Length_nil : utf16Length [] = 0 := rfl

@[simp] theorem utf16Length_cons (c : Char) (cs : List Char) :
    utf16Length (c :: cs) = unitsOf c + utf16Length cs := rfl

theorem utf16Length_append (s t : List Char) :
    utf16Length (s ++ t) = utf16Length s + utf16Length t := by
  induction s with
  | nil => simp
  | cons c s ih => simp [ih, Nat.add_assoc]

/-- How many characters of a line lie before the point `units` code units into it.

A point inside a character of two units is moved behind that character, and a point past the end of
the line to the end. -/
def charsBefore : List Char → Nat → Nat
  | [], _ => 0
  | _ :: _, 0 => 0
  | c :: cs, units + 1 => charsBefore cs (units + 1 - unitsOf c) + 1

end LiveMarkup
