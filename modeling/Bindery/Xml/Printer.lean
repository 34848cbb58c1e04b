import Bindery.Xml.Outline

/-! A printer that writes markup piece by piece, each on a line of its own. It knows no more of what
it has written than how many elements are open. -/
namespace Bindery.Xml

structure Printer where
  text : String := ""
  depth : Nat := 0
deriving DecidableEq, Repr

namespace Printer

def line (p : Printer) (content : String) : Printer :=
  { p with text :=
      p.text ++ String.ofList (List.replicate (2 * p.depth) ' ') ++ content ++ "\n" }

/-- One piece. The count of a printer with nothing open stays at zero, whatever is closed. -/
def put (p : Printer) (piece : Piece) : Printer :=
  match piece with
  | .opening _ _ =>
    let p := p.line piece.render
    { p with depth := p.depth + 1 }
  | .closing _ => line { p with depth := p.depth - 1 } piece.render
  | .empty _ _ | .text _ _ => p.line piece.render

end Printer
end Bindery.Xml
