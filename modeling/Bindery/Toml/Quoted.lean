import Bindery.Text.Bytes

/-! Strings of TOML as they are written. A string takes the first of four forms that holds it
without escapes; if none does, it is escaped. -/
namespace Bindery.Toml

def longestRun (c : Char) (s : List Char) : Nat :=
  (s.foldl (fun (best, run) d =>
    let run := if d = c then run + 1 else 0
    (max best run, run)) (0, 0)).1

/-- Control characters, which only an escape can stand for; tabs and line feeds are not among
them. -/
def needsEscape (c : Char) : Bool := (c < ' ' && c != '\t' && c != '\n') || c == '\x7f'

/-- How a string is written. -/
inductive Form where
  | basic
  | literal
  | longBasic
  | longLiteral
deriving DecidableEq, Repr

def Form.of (s : List Char) : Form :=
  let escapes := s.any needsEscape
  let breaks := s.contains '\n'
  let slashes := s.contains '\\'
  let double := longestRun '"' s
  let single := longestRun '\'' s
  if !escapes && !slashes && double = 0 && !breaks then basic
  else if !escapes && single = 0 && !breaks then literal
  else if !escapes && !slashes && double ≤ 2 then longBasic
  else if !escapes && single ≤ 2 then longLiteral
  else if breaks then longBasic
  else basic

def numericEscape (c : Char) : List Char :=
  ['\\', 'u', '0', '0', hexDigit (c.toNat / 16), hexDigit (c.toNat % 16)]

/-- Escapes a string in which `run` double quotes have come last. In the long form line feeds and
up to two quotes in a row stand for themselves. -/
def escapeFrom (long : Bool) (run : Nat) : List Char → List Char
  | [] => []
  | c :: rest =>
    if c = '"' then
      if run < (if long then 2 else 0) then '"' :: escapeFrom long (run + 1) rest
      else '\\' :: '"' :: escapeFrom long 0 rest
    else if c = '\n' ∧ long then '\n' :: escapeFrom long 0 rest
    else if c = '\x08' then '\\' :: 'b' :: escapeFrom long 0 rest
    else if c = '\t' then '\\' :: 't' :: escapeFrom long 0 rest
    else if c = '\n' then '\\' :: 'n' :: escapeFrom long 0 rest
    else if c = '\x0c' then '\\' :: 'f' :: escapeFrom long 0 rest
    else if c = '\r' then '\\' :: 'r' :: escapeFrom long 0 rest
    else if c = '\\' then '\\' :: '\\' :: escapeFrom long 0 rest
    else if c < ' ' ∨ c = '\x7f' then numericEscape c ++ escapeFrom long 0 rest
    else c :: escapeFrom long 0 rest

/-- A string between its quotes. A long form starts with a line break, which does not count, if the
string has one. -/
def quoted (s : List Char) : List Char :=
  let lead := if s.contains '\n' then ['\n'] else []
  match Form.of s with
  | .basic => '"' :: escapeFrom false 0 s ++ ['"']
  | .literal => '\'' :: s ++ ['\'']
  | .longBasic => "\"\"\"".toList ++ lead ++ escapeFrom true 0 s ++ "\"\"\"".toList
  | .longLiteral => "'''".toList ++ lead ++ s ++ "'''".toList

end Bindery.Toml
