/-! Tables of TOML and the rules by which headers and dotted keys may extend them. -/
namespace Bindery.Toml

/-- How a table came about, which decides what may still extend it. -/
inductive Origin where
  | header
  | implied
  | dotted
  | inline
deriving DecidableEq, Repr

inductive Node where
  | text (s : String)
  | scalar
  | array (items : List Node)
  | table (origin : Origin) (entries : List (String × Node))
  /-- Tables of one name, of which only the last can be extended. -/
  | tables (earlier : List (List (String × Node))) (last : List (String × Node))
deriving Repr, Inhabited

abbrev Entries := List (String × Node)

namespace Entries

def get? (entries : Entries) (key : String) : Option Node :=
  (entries.find? (·.1 = key)).map Prod.snd

def put (key : String) (node : Node) : Entries → Entries
  | [] => [(key, node)]
  | (k, n) :: rest => if k = key then (key, node) :: rest else (k, n) :: put key node rest

/-- The entries with a new one; its key must not be taken. -/
def add? (key : String) (node : Node) (entries : Entries) : Option Entries :=
  if (entries.get? key).isSome then none else some (entries ++ [(key, node)])

/-- Changes the table at the end of a path, creating what is missing on the way. Tables between
braces are closed to everyone. A dotted key leads through tables that have no header of their own,
and only to one that dotted keys began. -/
def change? (dotted : Bool) (act : Entries → Option Entries) :
    List String → Entries → Option Entries
  | [], entries => act entries
  | key :: path, entries =>
    match entries.get? key with
    | none => do
      let inner ← change? dotted act path []
      some (entries.put key (.table (if dotted then .dotted else .implied) inner))
    | some (.table origin inner) =>
      if origin = .inline ∨ (dotted ∧ origin = .header) ∨
          (dotted ∧ path = [] ∧ origin ≠ .dotted) then none
      else do
        let inner ← change? dotted act path inner
        some (entries.put key (.table origin inner))
    | some (.tables earlier last) =>
      if dotted ∧ path = [] then none
      else do
        let last ← change? dotted act path last
        some (entries.put key (.tables earlier last))
    | some _ => none

def assign? (path : List String) (node : Node) (entries : Entries) : Option Entries :=
  match path.getLast? with
  | none => none
  | some key => change? true (add? key node) path.dropLast entries

def openTable? (key : String) (entries : Entries) : Option Entries :=
  match entries.get? key with
  | none => some (entries.put key (.table .header []))
  | some (.table .implied inner) => some (entries.put key (.table .header inner))
  | some _ => none

def openItem? (key : String) (entries : Entries) : Option Entries :=
  match entries.get? key with
  | none => some (entries.put key (.tables [] []))
  | some (.tables earlier last) => some (entries.put key (.tables (earlier ++ [last]) []))
  | some _ => none

def begin? (item : Bool) (path : List String) (entries : Entries) : Option Entries :=
  match path.getLast? with
  | none => none
  | some key => change? false (if item then openItem? key else openTable? key) path.dropLast entries

end Entries
end Bindery.Toml
