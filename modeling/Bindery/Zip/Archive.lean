import Bindery.Zip.Member

/-! Archives, and the index of the files in one. Members that are directories have positions in
the archive and none in the index, so an entry of the index keeps the position of its member. -/
namespace Bindery.Zip

/-- The members of an archive, in order. Their names are distinct in every archive that is read or
written by this library. -/
abbrev Archive := List Member

/-- What the index says of a file. -/
structure Entry where
  name : String
  position : Nat
  size : Nat
  method : Method
deriving DecidableEq, Repr

def Entry.of (m : Member) (position : Nat) : Entry :=
  { name := m.name, position, size := m.size, method := m.packing.method }

namespace Archive

def member? (archive : Archive) (name : String) : Option Member :=
  archive.find? (·.name = name)

def put (m : Member) : Archive → Archive
  | [] => [m]
  | old :: rest => if old.name = m.name then m :: rest else old :: put m rest

def index (archive : Archive) : List Entry :=
  (archive.zipIdx.filter fun (m, _) => !m.isDirectory).map fun (m, position) => .of m position

def entry? (archive : Archive) (name : String) : Option Entry :=
  archive.index.find? (·.name = name)

def entry (archive : Archive) (name : String) : Result Entry :=
  match archive.entry? name with
  | some entry => .ok entry
  | none => .error (.missing (.entry name))

def memberOf (archive : Archive) (entry : Entry) : Result Member :=
  match archive[entry.position]? with
  | some m => .ok m
  | none => unsound "no such member"

def contentOf (archive : Archive) (entry : Entry) : Result Bytes := do
  (← archive.memberOf entry).content

def read (archive : Archive) (name : String) : Result Bytes := do
  archive.contentOf (← archive.entry name)

end Archive
end Bindery.Zip
