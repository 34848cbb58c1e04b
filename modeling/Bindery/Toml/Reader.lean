import Bindery.Toml.Scalar
import Bindery.Toml.Table
import Bindery.Toml.Token

/-! Reading of TOML: the tokens of each line extend the tables read so far. -/
namespace Bindery.Toml

/-- What a value is awaited for or stands in. -/
inductive Frame where
  | entry (path : List String)
  | array (items : List Node)
  | table (entries : Entries) (path : List String)
deriving Repr

/-- What may come next. Paths are held in reverse. -/
inductive Expected where
  | line
  | lineEnd
  | bracket
  | headerPart (item : Bool) (path : List String)
  | headerNext (item : Bool) (path : List String)
  | headerEnd (path : List String)
  | keyPart (path : List String)
  | keyNext (path : List String)
  /-- Behind a key between braces and an end of line, where the key cannot go on. -/
  | equals (path : List String)
  | value
  | item
  | member
  | bare (s : List Char)
  | time (date : List Char)
  | next
deriving Repr

structure Reader where
  root : Entries := []
  header : List String := []
  stack : List Frame := []
  expected : Expected := .line
deriving Repr

def depthLimit : Nat := 80

def partLimit : Nat := 80

def isKeyChar (c : Char) : Bool :=
  ('a' ≤ c && c ≤ 'z') || ('A' ≤ c && c ≤ 'Z') || ('0' ≤ c && c ≤ '9') || c == '_' || c == '-'

def keyPart? : Token → Option String
  | .word s => if s.all isKeyChar then some (spell s) else none
  | .text false s => some (spell s)
  | _ => none

def extend? (path : List String) (token : Token) : Option (List String) :=
  if path.length < partLimit then (keyPart? token).map (· :: path) else none

namespace Reader

/-- Whether a table between braces is the innermost that is unfinished. Its lines may end anywhere
but inside a key. -/
def inTable (r : Reader) : Bool :=
  match r.stack with
  | .table .. :: _ => true
  | _ => false

def place? (r : Reader) (node : Node) : Option Reader :=
  match r.stack with
  | .entry path :: stack => do
    let root ← Entries.change? false (Entries.assign? path node) r.header r.root
    some { r with root, stack, expected := .lineEnd }
  | .array items :: stack =>
    some { r with stack := .array (node :: items) :: stack, expected := .next }
  | .table entries path :: stack => do
    let entries ← entries.assign? path node
    some { r with stack := .table entries [] :: stack, expected := .next }
  | [] => none

def placeBare? (r : Reader) (s : List Char) : Option Reader :=
  if Scalar.isValid s then r.place? .scalar else none

def descend? (r : Reader) (frame : Frame) (expected : Expected) : Option Reader :=
  if depthLimit < r.stack.length then none
  else some { r with stack := frame :: r.stack, expected }

def close? (r : Reader) (c : Char) : Option Reader :=
  match r.stack, c with
  | .array items :: stack, ']' => { r with stack }.place? (.array items.reverse)
  | .table entries _ :: stack, '\x7d' => { r with stack }.place? (.table .inline entries)
  | _, _ => none

def await (r : Reader) (path : List String) : Reader :=
  match r.stack with
  | .table entries _ :: stack =>
    { r with stack := .table entries path :: stack, expected := .value }
  | stack => { r with stack := .entry path :: stack, expected := .value }

def enter? (r : Reader) (item : Bool) (path : List String) : Option Reader := do
  let root ← r.root.begin? item path
  some { r with root, header := path, expected := .lineEnd }

def value? (r : Reader) (token : Token) : Option Reader :=
  match token with
  | .text _ s => r.place? (.text (spell s))
  | .word s => some { r with expected := .bare s }
  | .mark '[' => r.descend? (.array []) .item
  | .mark '\x7b' => r.descend? (.table [] []) .member
  | _ => none

/-- The reader behind a token where no value without quotes is being read. -/
def plain? (r : Reader) (token : Token) : Option Reader :=
  match r.expected, token with
  | .bracket, .mark '[' => some { r with expected := .headerPart true [] }
  | .bracket, .blank _ => some { r with expected := .headerPart false [] }
  | .bracket, token =>
    (extend? [] token).map fun path => { r with expected := .headerNext false path }
  | .headerEnd path, .mark ']' => r.enter? true path.reverse
  | .headerEnd _, _ => none
  | _, .blank _ => some r
  | .line, .mark '\n' => some r
  | .line, .mark '[' => some { r with expected := .bracket }
  | .line, token => (extend? [] token).map fun path => { r with expected := .keyNext path }
  | .lineEnd, .mark '\n' => some { r with expected := .line }
  | .headerPart item path, token =>
    (extend? path token).map fun path => { r with expected := .headerNext item path }
  | .headerNext item path, .mark '.' => some { r with expected := .headerPart item path }
  | .headerNext true path, .mark ']' => some { r with expected := .headerEnd path }
  | .headerNext false path, .mark ']' => r.enter? false path.reverse
  | .keyPart path, token =>
    (extend? path token).map fun path => { r with expected := .keyNext path }
  | .keyNext path, .mark '.' => some { r with expected := .keyPart path }
  | .keyNext path, .mark '=' => some (r.await path.reverse)
  | .keyNext path, .mark '\n' =>
    if r.inTable then some { r with expected := .equals path } else none
  | .equals _, .mark '\n' => some r
  | .equals path, .mark '=' => some (r.await path.reverse)
  | .value, .mark '\n' => if r.inTable then some r else none
  | .value, token => r.value? token
  | .item, .mark '\n' => some r
  | .item, .mark ']' => r.close? ']'
  | .item, token => r.value? token
  | .member, .mark '\n' => some r
  | .member, .mark '\x7d' => r.close? '\x7d'
  | .member, token => (extend? [] token).map fun path => { r with expected := .keyNext path }
  | .next, .mark '\n' => some r
  | .next, .mark ',' =>
    match r.stack with
    | .array _ :: _ => some { r with expected := .item }
    | .table .. :: _ => some { r with expected := .member }
    | _ => none
  | .next, .mark c => r.close? c
  | _, _ => none

def step? (r : Reader) (token : Token) : Option Reader :=
  match r.expected, token with
  | .bare s, .word w => some { r with expected := .bare (s ++ w) }
  | .bare s, .mark '.' => some { r with expected := .bare (s ++ ['.']) }
  | .bare s, .blank [' '] =>
    if Scalar.afterDate? s = some [] then some { r with expected := .time s } else r.placeBare? s
  | .bare s, token => (r.placeBare? s).bind (·.plain? token)
  | .time date, .word w =>
    if (w.head?.map Scalar.isDigit).getD false then
      some { r with expected := .bare (date ++ ' ' :: w) }
    else none
  | .time date, token => (r.placeBare? date).bind (·.plain? token)
  | _, token => r.plain? token

def finish? (r : Reader) : Option Entries :=
  let r? := match r.expected with
    | .bare s | .time s => r.placeBare? s
    | _ => some r
  match r? with
  | some r =>
    match r.expected with
    | .line | .lineEnd => some r.root
    | _ => none
  | none => none

end Reader

/-- The entries of a TOML text; none if it is not well-formed. -/
def read? (text : List Char) : Option Entries := do
  let tokens ← scan? text
  let reader ← tokens.foldlM Reader.step? {}
  reader.finish?

end Bindery.Toml
