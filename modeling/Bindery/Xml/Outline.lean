import Bindery.Xml.Escape

/-! Outlines: markup laid out with one tag a line, two blanks in front of it for each element that
is open there. -/
namespace Bindery.Xml

/-- Attributes in order; those without a value are left out. -/
abbrev Values := List (String × Option String)

/-- What one line of an outline holds. -/
inductive Piece where
  | opening (name : String) (values : Values)
  | empty (name : String) (values : Values)
  | closing (name : String)
  | text (name content : String)
deriving DecidableEq, Repr

/-- A piece and the number of elements open around it. -/
structure Line where
  depth : Nat
  piece : Piece
deriving DecidableEq, Repr

abbrev Outline := List Line

def Outline.leaf (name : String) (values : Values) : Outline := [⟨0, .empty name values⟩]

def Outline.text (name content : String) : Outline := [⟨0, .text name content⟩]

def Outline.nest (name : String) (values : Values) (inside : Outline) : Outline :=
  ⟨0, .opening name values⟩ :: inside.map (fun line => ⟨line.depth + 1, line.piece⟩) ++
    [⟨0, .closing name⟩]

def Values.render (values : Values) : String :=
  String.join (values.map fun (name, value) =>
    match value with
    | some value => " " ++ name ++ "=\"" ++ escape value ++ "\""
    | none => "")

def Piece.render : Piece → String
  | opening name values => "<" ++ name ++ values.render ++ ">"
  | empty name values => "<" ++ name ++ values.render ++ "/>"
  | closing name => "</" ++ name ++ ">"
  | text name content => "<" ++ name ++ ">" ++ escape content ++ "</" ++ name ++ ">"

def Line.render (line : Line) : String :=
  String.ofList (List.replicate (2 * line.depth) ' ') ++ line.piece.render ++ "\n"

def Outline.render (outline : Outline) : String := String.join (outline.map Line.render)

end Bindery.Xml
