/-! # Paths

A path is a string; its meaning is its list of components. Repeated slashes, a slash at the end and
single dots other than at the start are no components.
-/
namespace LiveMarkup

inductive PathStep where
  | root | here | up | name (text : String)
deriving DecidableEq, Repr

namespace Path

def pieces : List Char → List (List Char)
  | [] => [[]]
  | c :: cs =>
    if c = '/' then [] :: pieces cs
    else match pieces cs with
      | [] => [[c]]
      | p :: more => (c :: p) :: more

def stepOf (first : Bool) (piece : List Char) : Option PathStep :=
  if piece = [] then none
  else if piece = ['.'] then if first then some .here else none
  else if piece = ['.', '.'] then some .up
  else some (.name (String.ofList piece))

def steps (path : String) : List PathStep :=
  match pieces path.toList with
  | [] => []
  | head :: tail =>
    let later := tail.filterMap (stepOf false)
    if head = [] then if tail = [] then [] else .root :: later
    else match stepOf true head with
      | some s => s :: later
      | none => later

def same (a b : String) : Bool := steps a = steps b

def fileName? (path : String) : Option String :=
  match (steps path).getLast? with
  | some (.name text) => some text
  | _ => none

def isAbsolute (path : String) : Bool := path.toList.head? = some '/'

/-- A path continued by another. An absolute continuation stands alone. -/
def join (base more : String) : String :=
  if isAbsolute more then more
  else if base = "" || base.toList.getLast? = some '/' then base ++ more
  else base ++ "/" ++ more

/-- The pieces of a path up to its file name: empty pieces and single dots at the end do not count. -/
def trimmedPieces (path : String) : List (List Char) :=
  let all := pieces path.toList
  let kept := (all.reverse.dropWhile fun p => p = [] || p = ['.']).reverse
  if kept = [] then all.take 1 else kept

def ofPieces (ps : List (List Char)) : String := String.ofList (['/'].intercalate ps)

/-- The path of the directory that holds a path; nothing for the root and the empty path. -/
def parent? (path : String) : Option String :=
  match steps path with
  | [] | [.root] => none
  | _ =>
    let rest := (trimmedPieces path).dropLast
    if rest = [] then some ""
    else if rest = [[]] then some "/"
    else some (ofPieces (trimmedPieces (ofPieces rest)))

/-- A file name without its extension. A dot at the start of a name starts no extension. -/
def stem (name : List Char) : List Char :=
  match (name.drop 1).reverse.dropWhile (· ≠ '.') with
  | [] => name
  | _ :: before => name.take 1 ++ before.reverse

/-- A path with another extension; a path without a file name stays as it is. The old extension is taken
off first, and two dots that are left of a path then name no file that could get another. -/
def withExtension (path extension : String) : String :=
  match fileName? path with
  | none => path
  | some name =>
    let front := (trimmedPieces path).dropLast
    if stem name.toList = ['.'] ∧ (pieces path.toList).getLast? = some name.toList then
      ofPieces (front ++ [['.', '.']])
    else ofPieces (front ++ [stem name.toList ++ '.' :: extension.toList])

end Path
end LiveMarkup
