import KeySlots.Json.Reader

namespace KeySlots.Toml

inductive ReadError where
  | malformed
  | overlongNumeral (digits : Nat)
  deriving DecidableEq, Repr

def isBlank (c : Char) : Bool :=
  c = ' ' || c = '\t'

def isBlankOrNewline (c : Char) : Bool :=
  isBlank c || c = '\n'

def skipBlanks (cs : List Char) : List Char :=
  cs.dropWhile isBlank

def isPlain (c : Char) : Bool :=
  (0x20 ≤ c.toNat && c.toNat ≠ 0x7F) || c = '\t'

def isPlainOrNewline (c : Char) : Bool :=
  isPlain c || c = '\n'

def skipComment : List Char → Except ReadError (List Char)
  | '#' :: cs =>
    if (cs.takeWhile (· ≠ '\n')).all isPlain then .ok (cs.dropWhile (· ≠ '\n'))
    else .error .malformed
  | cs => .ok cs

def skipAll : Nat → List Char → Except ReadError (List Char)
  | 0, cs => .ok cs
  | fuel + 1, cs =>
    match cs.dropWhile isBlankOrNewline with
    | '#' :: cs => do skipAll fuel (← skipComment ('#' :: cs))
    | cs => .ok cs

def literal (cs : List Char) : Except ReadError (List Char × List Char) :=
  let body := cs.takeWhile (· ≠ '\'')
  match cs.dropWhile (· ≠ '\'') with
  | _ :: rest => if body.all isPlain then .ok (body, rest) else .error .malformed
  | [] => .error .malformed

def literalLines : List Char → Except ReadError (List Char × List Char)
  | '\'' :: '\'' :: '\'' :: rest => .ok ([], rest)
  | c :: cs =>
    if isPlainOrNewline c then (literalLines cs).map fun (body, rest) => (c :: body, rest)
    else .error .malformed
  | [] => .error .malformed

def namedChar (count : Nat) (cs : List Char) : Except ReadError (Char × List Char) :=
  let digits := cs.take count
  match digits.mapM Json.Reader.hexValue? with
  | some values =>
    let code := Numeral.ofDigits 16 values
    if digits.length = count && (code < 0xD800 || (0xE000 ≤ code && code < 0x110000)) then
      .ok (Char.ofNat code, cs.drop count)
    else
      .error .malformed
  | none => .error .malformed

def escapeChar? : Char → Option Char
  | 'b' => some '\x08'
  | 't' => some '\t'
  | 'n' => some '\n'
  | 'f' => some '\x0c'
  | 'r' => some '\r'
  | '"' => some '"'
  | '\\' => some '\\'
  | _ => none

-- The characters of an escape, after its backslash. On several lines a backslash before the end of a line
-- stands for nothing and takes the blanks and line ends after it with it.
def escape (lines : Bool) : List Char → Except ReadError (List Char × List Char)
  | [] => .error .malformed
  | 'u' :: cs => (namedChar 4 cs).map fun (c, rest) => ([c], rest)
  | 'U' :: cs => (namedChar 8 cs).map fun (c, rest) => ([c], rest)
  | e :: cs =>
    if lines && isBlankOrNewline e then
      match skipBlanks (e :: cs) with
      | [] => .ok ([], [])
      | '\n' :: rest => .ok ([], rest.dropWhile isBlankOrNewline)
      | _ => .error .malformed
    else
      match escapeChar? e with
      | some c => .ok ([c], cs)
      | none => .error .malformed

-- A string between quotation marks, on one line or on several, after the marks that open it. The first
-- argument bounds the depth of the recursion; the length of the text is enough.
def basic (lines : Bool) : Nat → List Char → Except ReadError (List Char × List Char)
  | 0, _ => .error .malformed
  | _ + 1, [] => .error .malformed
  | fuel + 1, '"' :: cs =>
    if lines then
      match cs with
      | '"' :: '"' :: rest => .ok ([], rest)
      | _ => (basic lines fuel cs).map fun (body, rest) => ('"' :: body, rest)
    else
      .ok ([], cs)
  | fuel + 1, '\\' :: cs => do
    let (escaped, cs) ← escape lines cs
    (basic lines fuel cs).map fun (body, rest) => (escaped ++ body, rest)
  | fuel + 1, c :: cs =>
    if isPlain c || (lines && c = '\n') then
      (basic lines fuel cs).map fun (body, rest) => (c :: body, rest)
    else
      .error .malformed

-- Up to two marks that stand before the three that close a string on several lines are its last
-- characters.
def extraMarks (mark : Char) (body : List Char) : List Char → List Char × List Char
  | c :: d :: rest =>
    if c = mark then
      if d = mark then (body ++ [mark, mark], rest) else (body ++ [mark], d :: rest)
    else
      (body, c :: d :: rest)
  | [c] => if c = mark then (body ++ [mark], []) else (body, [c])
  | [] => (body, [])

def dropNewline : List Char → List Char
  | '\n' :: cs => cs
  | cs => cs

def string? : List Char → Option (Except ReadError (List Char × List Char))
  | '"' :: '"' :: '"' :: cs =>
    some ((basic true (cs.length + 1) (dropNewline cs)).map fun (body, rest) =>
      extraMarks '"' body rest)
  | '"' :: cs => some (basic false (cs.length + 1) cs)
  | '\'' :: '\'' :: '\'' :: cs =>
    some ((literalLines (dropNewline cs)).map fun (body, rest) => extraMarks '\'' body rest)
  | '\'' :: cs => some (literal cs)
  | _ => none

def isKeyChar (c : Char) : Bool :=
  c.isAlphanum || c = '-' || c = '_'

def keyPart : List Char → Except ReadError (String × List Char)
  | '"' :: cs => (basic false (cs.length + 1) cs).map fun (body, rest) => (String.ofList body, rest)
  | '\'' :: cs => (literal cs).map fun (body, rest) => (String.ofList body, rest)
  | cs =>
    if (cs.takeWhile isKeyChar).isEmpty then .error .malformed
    else .ok (String.ofList (cs.takeWhile isKeyChar), cs.dropWhile isKeyChar)

def key : Nat → List Char → Except ReadError (List String × List Char)
  | 0, _ => .error .malformed
  | fuel + 1, cs => do
    let (part, cs) ← keyPart cs
    match skipBlanks cs with
    | '.' :: cs =>
      let (parts, rest) ← key fuel (skipBlanks cs)
      .ok (part :: parts, rest)
    | rest => .ok ([part], rest)

end KeySlots.Toml
