/-! # File paths

The parts of a path are set off by slashes.
-/
namespace Storefront.Text

/-- The path of something in a folder. A path that begins at the root stands for itself. -/
def joinPath (folder name : List Char) : List Char :=
  if name.head? = some '/' || folder.isEmpty then name
  else if folder.getLast? = some '/' then folder ++ name
  else folder ++ '/' :: name

def pathParts : List Char → List (List Char)
  | [] => [[]]
  | '/' :: rest => [] :: pathParts rest
  | c :: rest => match pathParts rest with
    | part :: parts => (c :: part) :: parts
    | [] => [[c]]

/-- The parts that count: one dot stands for the folder itself, and so does nothing. -/
def properParts (path : List Char) : List (List Char) :=
  (pathParts path).filter fun part => !(part.isEmpty || part == ['.'])

def samePath (a b : List Char) : Bool :=
  a.head? == b.head? && !a.isEmpty && a.getLast? != some '/' && properParts a == properParts b

end Storefront.Text
