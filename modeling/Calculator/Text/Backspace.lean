import Calculator.Text.Cluster

/-!
# Backspaces

A backspace in a line of input takes back the cluster before it and vanishes with it. One with nothing
before it just vanishes. What is taken back is counted in bytes of UTF-8, and the size of a cluster is
kept in a single byte: of a cluster of 256 bytes or more, only the remainder of its size goes. A later
backspace then counts off the size of an earlier cluster from what is left. A count can end within a
character, and a line where one does cannot be carried out.
-/

set_option autoImplicit false

namespace Calculator.Text

def backspace : Char := '\x08'

/-- A line in the making. The characters and the sizes of the clusters have the latest first. -/
structure Draft where
  characters : List Char
  sizes : List UInt8
  deriving DecidableEq

namespace Draft

def empty : Draft :=
  { characters := [], sizes := [] }

/-- What is left without the first bytes, unless they end within a character. -/
def dropBytes (size : Nat) : List Char → Option (List Char)
  | [] => if size = 0 then some [] else none
  | character :: rest =>
      if size = 0 then some (character :: rest)
      else if character.utf8Size ≤ size then dropBytes (size - character.utf8Size) rest
      else none

def keep (draft : Draft) (cluster : List Char) : Draft :=
  { characters := cluster.reverse ++ draft.characters
    sizes := .ofNat (String.ofList cluster).utf8ByteSize :: draft.sizes }

def takeBack (draft : Draft) : Option Draft :=
  match draft.sizes with
  | [] => some draft
  | size :: earlier =>
      (dropBytes size.toNat draft.characters).map fun rest =>
        { characters := rest, sizes := earlier }

def add (draft : Draft) (cluster : List Char) : Option Draft :=
  if cluster = [backspace] then draft.takeBack else some (draft.keep cluster)

def text (draft : Draft) : String :=
  String.ofList draft.characters.reverse

end Draft

def applyBackspaces? (text : String) : Option String :=
  if text.toList.contains backspace then
    ((clusters text.toList).foldlM Draft.add Draft.empty).map Draft.text
  else
    some text

end Calculator.Text
