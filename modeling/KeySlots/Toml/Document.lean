import KeySlots.Toml.Value

namespace KeySlots.Toml

structure Document where
  root     : Fields := []
  header   : Path := []
  opened   : List Path := []
  -- Tables that count as opened from the next header on.
  pending  : List Path := []
  closed   : List Path := []

namespace Document

def innerPaths (header key : Path) : List Path :=
  (List.range (key.length - 1)).map fun n => header ++ key.take (n + 1)

def assign (d : Document) (key : Path) (value : Json) : Option Document :=
  let inner := innerPaths d.header key
  if inner.any d.opened.contains || isWithin d.closed (d.header ++ key.dropLast) then
    none
  else
    (addValue true (d.header ++ key) value d.root).map fun root =>
      { d with
        root
        pending := inner ++ d.pending
        closed := if isClosed value then (d.header ++ key) :: d.closed else d.closed }

def settle (d : Document) : Document :=
  { d with opened := d.pending ++ d.opened, pending := [] }

def openTable (d : Document) (key : Path) : Option Document :=
  if d.opened.contains key || isWithin d.closed key then
    none
  else
    (changeTable true some key d.root).map fun root =>
      { d with root, header := key, opened := key :: d.opened }

def appendTable (key : String) (table : Fields) : Option Fields :=
  match Entries.get? table key with
  | none => some (Entries.put key (.array [.object []]) table)
  | some (.array items) => some (Entries.put key (.array (items ++ [.object []])) table)
  | some _ => none

-- Opens the next table of an array of tables. The tables within the one before are forgotten.
def openItem (d : Document) (key : Path) : Option Document :=
  if isWithin d.closed key then
    none
  else
    let forget (paths : List Path) := paths.filter fun path => !key.isPrefixOf path
    (changeTable true (appendTable (key.getLastD "")) key.dropLast d.root).map fun root =>
      { d with
        root, header := key
        opened := key :: forget d.opened
        closed := forget d.closed }

end Document

def orMalformed {α : Type} : Option α → Except ReadError α
  | some a => .ok a
  | none => .error .malformed

def statement (d : Document) (cs : List Char) : Except ReadError (Document × List Char) :=
  match cs with
  | [] => .ok (d, [])
  | '\n' :: cs => .ok (d, '\n' :: cs)
  | '#' :: cs => .ok (d, '#' :: cs)
  | '[' :: '[' :: cs => do
    let (path, cs) ← key (cs.length + 1) (skipBlanks cs)
    let d ← orMalformed (d.settle.openItem path)
    match cs with
    | ']' :: ']' :: rest => .ok (d, rest)
    | _ => .error .malformed
  | '[' :: cs => do
    let (path, cs) ← key (cs.length + 1) (skipBlanks cs)
    let d ← orMalformed (d.settle.openTable path)
    match cs with
    | ']' :: rest => .ok (d, rest)
    | _ => .error .malformed
  | cs => do
    let (path, cs) ← key (cs.length + 1) cs
    match cs with
    | '=' :: cs =>
      let (v, rest) ← value (2 * cs.length + 1) (skipBlanks cs)
      let d ← orMalformed (d.assign path v)
      .ok (d, rest)
    | _ => .error .malformed

-- Reads the lines of a document. The first argument bounds their number; the length of the text is enough.
def lines : Nat → Document → List Char → Except ReadError Document
  | 0, d, _ => .ok d
  | fuel + 1, d, cs => do
    let (d, cs) ← statement d (skipBlanks cs)
    let cs ← skipComment (skipBlanks cs)
    match cs with
    | [] => .ok d
    | '\n' :: cs => lines fuel d cs
    | _ => .error .malformed

def unifyNewlines : List Char → List Char
  | '\r' :: '\n' :: cs => '\n' :: unifyNewlines cs
  | '\r' :: cs => '\n' :: unifyNewlines cs
  | c :: cs => c :: unifyNewlines cs
  | [] => []

def read (s : String) : Except ReadError Fields :=
  let cs := unifyNewlines s.toList
  (lines (cs.length + 1) {} cs).map (·.root)

end KeySlots.Toml
