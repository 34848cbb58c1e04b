import Bindery.Zip.Archive

/-! The index of an archive as one pass over the members makes it. A file has two numbers here, its
place among the files and its position in the archive, and each directory sets them further apart. -/
namespace Bindery.Zip

/-- The files of an archive in order, and the place among them that each name leads to. -/
structure Index where
  entries : List Entry := []
  /-- Of two places for one name the one that was put down last counts; it stands in front. -/
  places : List (String × Nat) := []
deriving DecidableEq, Repr

namespace Index

def add (index : Index) (m : Member) (position : Nat) : Index :=
  if m.isDirectory then index
  else
    { places := (m.name, index.entries.length) :: index.places
      entries := index.entries ++ [.of m position] }

def addFrom (index : Index) (position : Nat) : Archive → Index
  | [] => index
  | m :: rest => (index.add m position).addFrom (position + 1) rest

def build (archive : Archive) : Index := addFrom {} 0 archive

def get? (index : Index) (name : String) : Option Entry :=
  (index.places.lookup name).bind (index.entries[·]?)

end Index
end Bindery.Zip
