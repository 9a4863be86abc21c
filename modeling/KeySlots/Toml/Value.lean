import KeySlots.Toml.Number

namespace KeySlots.Toml

abbrev Path := List String

-- Changes the table at a path, which is created as far as it is not there. Where the path comes to an
-- array, the table is the last item of it, if arrays may be entered; anything else in the way makes the
-- change fail.
def changeTable (enterArrays : Bool) (change : Fields → Option Fields) :
    Path → Fields → Option Fields
  | [], table => change table
  | key :: path, table =>
    match Entries.get? table key with
    | none => (changeTable enterArrays change path []).map fun t => Entries.put key (.object t) table
    | some (.object inner) =>
      (changeTable enterArrays change path inner).map fun t => Entries.put key (.object t) table
    | some (.array items) =>
      match items.getLast?, enterArrays with
      | some (.object inner), true =>
        (changeTable enterArrays change path inner).map fun t =>
          Entries.put key (.array (items.dropLast ++ [.object t])) table
      | _, _ => none
    | some _ => none

def addValue (enterArrays : Bool) (path : Path) (value : Json) (table : Fields) : Option Fields :=
  match path.getLast? with
  | none => none
  | some key =>
    changeTable enterArrays
      (fun t => if (Entries.get? t key).isSome then none else some (Entries.put key value t))
      path.dropLast table

def isClosed : Json → Bool
  | .object _ => true
  | .array _ => true
  | _ => false

def isWithin (paths : List Path) (path : Path) : Bool :=
  paths.any fun outer => outer.isPrefixOf path

mutual

-- The value that starts here. The first argument bounds the depth of the recursion; twice the length of
-- the text is enough, as no two steps in a row leave the text as it is.
def value : Nat → List Char → Except ReadError (Json × List Char)
  | 0, _ => .error .malformed
  | fuel + 1, cs =>
    match string? cs with
    | some result => result.map fun (body, rest) => (.text (String.ofList body), rest)
    | none =>
      match cs with
      | 't' :: 'r' :: 'u' :: 'e' :: rest => .ok (.bool true, rest)
      | 'f' :: 'a' :: 'l' :: 's' :: 'e' :: rest => .ok (.bool false, rest)
      | '[' :: cs => do
        let cs ← skipAll (cs.length + 1) cs
        let (items, rest) ← elements fuel cs
        .ok (.array items, rest)
      | '{' :: cs =>
        match skipBlanks cs with
        | '}' :: rest => .ok (.object [], rest)
        | cs => (pairs fuel [] [] cs).map fun (table, rest) => (.object table, rest)
      | cs =>
        match date? cs with
        | some result => result.map fun rest => (.null, rest)
        | none =>
          match time? cs with
          | some rest => .ok (.null, rest)
          | none =>
            match prefixed? cs with
            | some result => .ok result
            | none =>
              match decimal? cs with
              | some result => result
              | none =>
                match special? cs with
                | some result => .ok result
                | none => .error .malformed

def elements : Nat → List Char → Except ReadError (List Json × List Char)
  | 0, _ => .error .malformed
  | _ + 1, ']' :: rest => .ok ([], rest)
  | fuel + 1, cs => do
    let (v, cs) ← value fuel cs
    let cs ← skipAll (cs.length + 1) cs
    match cs with
    | ']' :: rest => .ok ([v], rest)
    | ',' :: cs =>
      let cs ← skipAll (cs.length + 1) cs
      let (items, rest) ← elements fuel cs
      .ok (v :: items, rest)
    | _ => .error .malformed

def pairs : Nat → List Path → Fields → List Char → Except ReadError (Fields × List Char)
  | 0, _, _, _ => .error .malformed
  | fuel + 1, closed, table, cs => do
    let (path, cs) ← key (cs.length + 1) cs
    match cs with
    | '=' :: cs =>
      let (v, cs) ← value fuel (skipBlanks cs)
      if isWithin closed path then
        .error .malformed
      else
        match addValue false path v table with
        | none => .error .malformed
        | some table =>
          match skipBlanks cs with
          | '}' :: rest => .ok (table, rest)
          | ',' :: cs => pairs fuel (if isClosed v then path :: closed else closed) table (skipBlanks cs)
          | _ => .error .malformed
    | _ => .error .malformed

end

end KeySlots.Toml
