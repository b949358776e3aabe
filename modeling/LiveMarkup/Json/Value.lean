/-! # JSON values

An object lists its members in order. Objects that come from text or from `Json.ofMembers` are sorted
by key, by code point, and hold each key once; a record with a fixed order of members is written in
that order.
-/
namespace LiveMarkup

/-- A JSON number: an integer of the 64-bit ranges, or a double. -/
inductive JsonNumber where
  | int (value : Int)
  | float (value : Float)

inductive Json where
  | null
  | bool (value : Bool)
  | num (value : JsonNumber)
  | str (value : String)
  | arr (items : List Json)
  | obj (members : List (String × Json))

/-- Puts a member into a sorted list, in place of one with the same key. -/
def insertMember {α : Type} (key : String) (value : α) : List (String × α) → List (String × α)
  | [] => [(key, value)]
  | (k, v) :: rest =>
    if key < k then (key, value) :: (k, v) :: rest
    else if key = k then (key, value) :: rest
    else (k, v) :: insertMember key value rest

namespace Json

/-- An object from members in any order; of two with the same key the later one stays. -/
def ofMembers (members : List (String × Json)) : Json :=
  obj (members.foldl (fun acc m => insertMember m.1 m.2 acc) [])

def ofInt (i : Int) : Json := num (.int i)

def ofNat (n : Nat) : Json := ofInt n

def member? : Json → String → Option Json
  | obj members, key => (members.find? fun m => m.1 = key).map (·.2)
  | _, _ => none

end Json
end LiveMarkup
