import ControlPlane.Config.Data
import ControlPlane.Text.Numeral

/-! # TOML

Reads a document in TOML into `Data`.

* **Lines.**  Each line holds an entry, the header of a table or nothing, and may end in a comment.
* **Values.**  Strings in four forms, whole numbers in four bases, decimal numbers, truth values,
  dates and times, arrays, and inline tables.  Arrays and inline tables nest up to a fixed depth.
* **Tables.**  A table is defined once: by a header, by the dotted keys of entries, or inline.  A
  header may define a table that so far was only passed through on the way to another.

Every reader answers what it has read and the characters after it, or `none`. -/

namespace ControlPlane.Toml

/-! ### Blanks, comments and line ends -/

def isBlank (c : Char) : Bool := c == ' ' || c == '\t'

def skipBlanks (cs : List Char) : List Char := cs.dropWhile isBlank

/-- Whether a character may stand in a comment or a literal string. -/
def isPlain (c : Char) : Bool := c == '\t' || (0x20 ≤ c.toNat && c.toNat != 0x7f)

def newline? : List Char → Option (List Char)
  | '\n' :: rest => some rest
  | '\r' :: '\n' :: rest => some rest
  | _ => none

/-- What follows a comment, if one begins here. -/
def skipComment : List Char → List Char
  | '#' :: rest => rest.dropWhile isPlain
  | cs => cs

/-- The rest after the end of a line: blanks, a comment, and a line end unless the text ends. -/
def lineEnd? (cs : List Char) : Option (List Char) :=
  match skipComment (skipBlanks cs) with
  | [] => some []
  | rest => newline? rest

/-- Skips blanks, comments and line ends. -/
def skipLines : Nat → List Char → List Char
  | 0, cs => cs
  | fuel + 1, cs =>
    let rest := skipComment (skipBlanks cs)
    match newline? rest with
    | some rest => skipLines fuel rest
    | none => rest

/-- Skips all blanks, comments and line ends. -/
def skipAll (cs : List Char) : List Char := skipLines cs.length cs

/-! ### Strings -/

/-- The character of a code point written in hexadecimal. -/
def codePoint? (digits : List Char) : Option Char := do
  let n ← Text.unsigned? 16 digits
  if n < 0xd800 ∨ (0xdfff < n ∧ n < 0x110000) then return Char.ofNat n else none

/-- The character that a letter stands for after a backslash. -/
def escape? : Char → Option Char
  | 'b' => some '\x08'
  | 't' => some '\t'
  | 'n' => some '\n'
  | 'f' => some '\x0c'
  | 'r' => some '\r'
  | '\"' => some '\"'
  | '\\' => some '\\'
  | _ => none

/-- Adds a character in front of what a reader has read. -/
def prepend (c : Char) (read : Option (List Char × List Char)) : Option (List Char × List Char) :=
  read.map fun (cs, rest) => (c :: cs, rest)

/-- The body of a string between double quotes. -/
def basicBody : List Char → Option (List Char × List Char)
  | [] => none
  | '\"' :: rest => some ([], rest)
  | '\\' :: 'u' :: a :: b :: c :: d :: rest =>
    match codePoint? [a, b, c, d] with
    | some x => prepend x (basicBody rest)
    | none => none
  | '\\' :: 'U' :: a :: b :: c :: d :: e :: f :: g :: h :: rest =>
    match codePoint? [a, b, c, d, e, f, g, h] with
    | some x => prepend x (basicBody rest)
    | none => none
  | '\\' :: c :: rest =>
    match escape? c with
    | some x => prepend x (basicBody rest)
    | none => none
  | c :: rest => if isPlain c then prepend c (basicBody rest) else none

/-- The body of a string between single quotes, where nothing is escaped. -/
def literalBody : List Char → Option (List Char × List Char)
  | [] => none
  | '\'' :: rest => some ([], rest)
  | c :: rest => if isPlain c then prepend c (literalBody rest) else none

/-- Whether only blanks stand before the end of the line. -/
def endsLine (cs : List Char) : Bool := (newline? (skipBlanks cs)).isSome

/-- The body of a string of several lines between three double quotes.  While `skipping`, blanks and
line ends are passed over, as they are after a backslash at the end of a line. -/
def basicLines (skipping : Bool) : List Char → Option (List Char × List Char)
  | [] => none
  | '\r' :: '\n' :: rest =>
    if skipping then basicLines true rest else prepend '\n' (basicLines false rest)
  | '\n' :: rest =>
    if skipping then basicLines true rest else prepend '\n' (basicLines false rest)
  | '\"' :: '\"' :: '\"' :: '\"' :: '\"' :: rest => some (['\"', '\"'], rest)
  | '\"' :: '\"' :: '\"' :: '\"' :: rest => some (['\"'], rest)
  | '\"' :: '\"' :: '\"' :: rest => some ([], rest)
  | '\\' :: 'u' :: a :: b :: c :: d :: rest =>
    match codePoint? [a, b, c, d] with
    | some x => prepend x (basicLines false rest)
    | none => none
  | '\\' :: 'U' :: a :: b :: c :: d :: e :: f :: g :: h :: rest =>
    match codePoint? [a, b, c, d, e, f, g, h] with
    | some x => prepend x (basicLines false rest)
    | none => none
  | '\\' :: c :: rest =>
    match escape? c with
    | some x => prepend x (basicLines false rest)
    | none => if endsLine (c :: rest) then basicLines true (c :: rest) else none
  | c :: rest =>
    if skipping && isBlank c then basicLines true rest
    else if isPlain c then prepend c (basicLines false rest)
    else none

/-- The body of a literal string of several lines. -/
def literalLines : List Char → Option (List Char × List Char)
  | [] => none
  | '\r' :: '\n' :: rest => prepend '\n' (literalLines rest)
  | '\'' :: '\'' :: '\'' :: '\'' :: '\'' :: rest => some (['\'', '\''], rest)
  | '\'' :: '\'' :: '\'' :: '\'' :: rest => some (['\''], rest)
  | '\'' :: '\'' :: '\'' :: rest => some ([], rest)
  | c :: rest => if isPlain c || c == '\n' then prepend c (literalLines rest) else none

/-- What follows the line end that a string of several lines may begin with. -/
def afterOpening (cs : List Char) : List Char := (newline? cs).getD cs

/-- A string in any of the four forms. -/
def string? (cs : List Char) : Option (String × List Char) :=
  let body :=
    match cs with
    | '\"' :: '\"' :: '\"' :: rest => basicLines false (afterOpening rest)
    | '\'' :: '\'' :: '\'' :: rest => literalLines (afterOpening rest)
    | '\"' :: rest => basicBody rest
    | '\'' :: rest => literalBody rest
    | _ => none
  body.map fun (s, rest) => (String.ofList s, rest)

/-! ### Keys -/

/-- Whether a character may stand in a key without quotes. -/
def isBare (c : Char) : Bool := c.isAlphanum || c == '_' || c == '-'

def simpleKey? (cs : List Char) : Option (String × List Char) :=
  match cs with
  | '\"' :: rest => (basicBody rest).map fun (s, rest) => (String.ofList s, rest)
  | '\'' :: rest => (literalBody rest).map fun (s, rest) => (String.ofList s, rest)
  | _ =>
    let name := cs.takeWhile isBare
    if name.isEmpty then none else some (String.ofList name, cs.dropWhile isBare)

/-- The parts of a key, separated by dots, with at most `fuel` dots between them. -/
def keyParts? : Nat → List Char → Option (List String × List Char)
  | 0, _ => none
  | fuel + 1, cs => do
    let (name, rest) ← simpleKey? (skipBlanks cs)
    match skipBlanks rest with
    | '.' :: rest =>
      let (names, rest) ← keyParts? fuel rest
      return (name :: names, rest)
    | rest => return ([name], rest)

def key? (cs : List Char) : Option (List String × List Char) := keyParts? cs.length cs

/-! ### Numbers -/

/-- Digits, which single underscores may separate, after a first digit. -/
def moreDigits (base : Nat) : List Char → Option (List Char × List Char)
  | [] => some ([], [])
  | '_' :: c :: rest =>
    if (Text.digit? base c).isSome then prepend c (moreDigits base rest) else none
  | '_' :: [] => none
  | c :: rest =>
    if (Text.digit? base c).isSome then prepend c (moreDigits base rest)
    else some ([], c :: rest)

/-- At least one digit, with leading zeros if need be. -/
def digits? (base : Nat) : List Char → Option (List Char × List Char)
  | [] => none
  | c :: rest => if (Text.digit? base c).isSome then prepend c (moreDigits base rest) else none

/-- The digits of a whole number in decimal, without leading zeros. -/
def wholeDigits? : List Char → Option (List Char × List Char)
  | '0' :: rest => some (['0'], rest)
  | cs => digits? 10 cs

/-- A sign, and whether it is a minus. -/
def sign : List Char → Bool × List Char
  | '+' :: rest => (false, rest)
  | '-' :: rest => (true, rest)
  | cs => (false, cs)

/-- The exponent of a decimal number, if one is written. -/
def exponent? : List Char → Option (Option Int × List Char)
  | c :: rest =>
    if c == 'e' || c == 'E' then do
      let (negative, rest) := sign rest
      let (digits, rest) ← digits? 10 rest
      let n ← Text.unsigned? 10 digits
      return (some (if negative then -(n : Int) else n), rest)
    else
      some (none, c :: rest)
  | [] => some (none, [])

/-- The digits after the point, if there is one. -/
def fraction? : List Char → Option (Option (List Char) × List Char)
  | '.' :: rest => (digits? 10 rest).map fun (digits, rest) => (some digits, rest)
  | cs => some (none, cs)

/-- Exponents of ten beyond this, either way, leave no number with digits in front. -/
def exponentLimit : Nat := 400

/-- The number `digits` times ten to the power `exponent`; none if it is too large. -/
def scaled? (negative : Bool) (digits : List Char) (exponent : Int) : Option Float := do
  let m ← Text.unsigned? 10 digits
  let magnitude : Float :=
    if m = 0 ∨ exponent < -(digits.length + exponentLimit : Int) then 0.0
    else if exponent < 0 then Float.ofScientific m true exponent.natAbs
    else if exponent ≤ exponentLimit then Float.ofScientific m false exponent.natAbs
    else 1.0 / 0.0
  if magnitude.isInf && !negative then none
  else return if negative then -magnitude else magnitude

/-- The least and greatest whole numbers have 64 bits. -/
def inRange (n : Int) : Bool := -(2 ^ 63) ≤ n && n < 2 ^ 63

def integer? (n : Int) : Option Data := if inRange n then some (.integer n) else none

/-- A whole number in another base than ten. -/
def based? (base : Nat) (cs : List Char) : Option (Data × List Char) := do
  let (digits, rest) ← digits? base cs
  let n ← Text.unsigned? base digits
  let d ← integer? n
  return (d, rest)

/-- A number in decimal, whole or not, after its sign. -/
def decimal? (negative : Bool) (cs : List Char) : Option (Data × List Char) := do
  let (whole, rest) ← wholeDigits? cs
  let (fraction, rest) ← fraction? rest
  let (exponent, rest) ← exponent? rest
  match fraction, exponent with
  | none, none =>
    let n ← Text.unsigned? 10 whole
    let d ← integer? (if negative then -(n : Int) else n)
    return (d, rest)
  | _, _ =>
    let after := fraction.getD []
    let x ← scaled? negative (whole ++ after) (exponent.getD 0 - after.length)
    return (.real x, rest)

def number? (cs : List Char) : Option (Data × List Char) :=
  match cs with
  | '0' :: 'x' :: rest => based? 16 rest
  | '0' :: 'o' :: rest => based? 8 rest
  | '0' :: 'b' :: rest => based? 2 rest
  | _ =>
    let (negative, rest) := sign cs
    match rest with
    | 'i' :: 'n' :: 'f' :: rest => some (.real (if negative then -1.0 / 0.0 else 1.0 / 0.0), rest)
    | 'n' :: 'a' :: 'n' :: rest => some (.real (0.0 / 0.0), rest)
    | _ => decimal? negative rest

/-! ### Dates and times -/

/-- A number of exactly `count` digits. -/
def fixed? (count : Nat) (cs : List Char) : Option (Nat × List Char) :=
  let digits := cs.take count
  if digits.length = count then (Text.unsigned? 10 digits).map fun n => (n, cs.drop count) else none

/-- What follows a character. -/
def after? (c : Char) : List Char → Option (List Char)
  | x :: rest => if x = c then some rest else none
  | [] => none

def daysIn (year month : Nat) : Nat :=
  if month = 2 then
    if year % 4 = 0 ∧ (year % 100 ≠ 0 ∨ year % 400 = 0) then 29 else 28
  else if month = 4 ∨ month = 6 ∨ month = 9 ∨ month = 11 then 30
  else 31

/-- What follows a date. -/
def date? (cs : List Char) : Option (List Char) := do
  let (year, rest) ← fixed? 4 cs
  let rest ← after? '-' rest
  let (month, rest) ← fixed? 2 rest
  let rest ← after? '-' rest
  let (day, rest) ← fixed? 2 rest
  if 1 ≤ month ∧ month ≤ 12 ∧ 1 ≤ day ∧ day ≤ daysIn year month then return rest else none

/-- What follows a time of day. -/
def time? (cs : List Char) : Option (List Char) := do
  let (hour, rest) ← fixed? 2 cs
  let rest ← after? ':' rest
  let (minute, rest) ← fixed? 2 rest
  let rest ← after? ':' rest
  let (second, rest) ← fixed? 2 rest
  if hour ≤ 23 ∧ minute ≤ 59 ∧ second ≤ 60 then
    match rest with
    | '.' :: c :: rest =>
      if Text.isDecimal c then return rest.dropWhile Text.isDecimal else none
    | rest => return rest
  else
    none

/-- What follows an offset from universal time, if one is written. -/
def offset? (cs : List Char) : Option (List Char) :=
  match cs with
  | 'Z' :: rest => some rest
  | 'z' :: rest => some rest
  | c :: rest =>
    if c == '+' || c == '-' then do
      let (hour, rest) ← fixed? 2 rest
      let rest ← after? ':' rest
      let (minute, rest) ← fixed? 2 rest
      if hour ≤ 23 ∧ minute ≤ 59 then return rest else none
    else
      some cs
  | [] => some cs

/-- What follows a date, a time, or both. -/
def moment? (cs : List Char) : Option (List Char) :=
  match date? cs with
  | none => time? cs
  | some rest =>
    match rest with
    | c :: more =>
      if c == 'T' || c == 't' || c == ' ' then
        match time? more with
        | some rest => offset? rest
        | none => if c == ' ' then some rest else none
      else
        some rest
    | [] => some rest

/-! ### Tables under construction -/

/-- How a table came to be. -/
inductive TableKind where
  /-- On the way to a table with a header. -/
  | passed
  /-- By the dotted keys of entries. -/
  | dotted
  /-- By a header, or as the whole document. -/
  | headed
  deriving DecidableEq

inductive Node where
  | leaf (d : Data)
  | table (kind : TableKind) (entries : List (String × Node))
  /-- A list of tables with headers; entries go to the last. -/
  | tables (items : List (List (String × Node)))

namespace Node

def lookup? (entries : List (String × Node)) (name : String) : Option Node :=
  (entries.find? fun e => e.1 == name).map Prod.snd

/-- Entries with one of them set. -/
def put (entries : List (String × Node)) (name : String) (node : Node) : List (String × Node) :=
  if entries.any fun e => e.1 == name then
    entries.map fun e => if e.1 == name then (name, node) else e
  else
    entries ++ [(name, node)]

mutual

def toData : Node → Data
  | leaf d => d
  | table _ entries => .table (entriesData entries)
  | tables items => .list (itemsData items)

def entriesData : List (String × Node) → List (String × Data)
  | [] => []
  | (name, node) :: rest => (name, node.toData) :: entriesData rest

def itemsData : List (List (String × Node)) → List Data
  | [] => []
  | entries :: rest => .table (entriesData entries) :: itemsData rest

end

/-- Changes the table at a path, making those on the way of kind `made`.  Dotted keys do not lead
through tables with a header. -/
def descend (made : TableKind)
    (change : TableKind → List (String × Node) → Option (List (String × Node))) :
    List String → TableKind → List (String × Node) → Option (List (String × Node))
  | [], kind, entries => change kind entries
  | name :: path, _, entries =>
    match lookup? entries name with
    | none =>
      (descend made change path made []).map fun inner => put entries name (table made inner)
    | some (leaf _) => none
    | some (tables items) =>
      match items.getLast? with
      | none => none
      | some last =>
        (descend made change path .headed last).map fun inner =>
          put entries name (tables (items.dropLast ++ [inner]))
    | some (table kind inner) =>
      if made = .dotted ∧ kind = .headed then none
      else
        (descend made change path kind inner).map fun inner =>
          put entries name (table kind inner)

/-- Adds an entry whose key has the given last name; `direct` tells that there are no others. -/
def addEntry (direct : Bool) (name : String) (value : Data) (kind : TableKind)
    (entries : List (String × Node)) : Option (List (String × Node)) :=
  if direct = (kind == .dotted) then none
  else if (lookup? entries name).isSome then none
  else some (put entries name (leaf value))

/-- Adds an entry with a key of one name or several to a table. -/
def addPath (path : List String) (value : Data) (kind : TableKind)
    (entries : List (String × Node)) : Option (List (String × Node)) :=
  match path.getLast? with
  | none => none
  | some name =>
    let before := path.dropLast
    descend .dotted (addEntry before.isEmpty name value) before kind entries

/-- Defines the table of a header. -/
def openTable (name : String) (_ : TableKind) (entries : List (String × Node)) :
    Option (List (String × Node)) :=
  match lookup? entries name with
  | none => some (put entries name (table .headed []))
  | some (table .passed inner) => some (put entries name (table .headed inner))
  | some _ => none

/-- Adds a table to a list of tables. -/
def openItem (name : String) (_ : TableKind) (entries : List (String × Node)) :
    Option (List (String × Node)) :=
  match lookup? entries name with
  | none => some (put entries name (tables [[]]))
  | some (tables items) => some (put entries name (tables (items ++ [[]])))
  | some _ => none

end Node

/-! ### Values -/

/-- The items of an array up to its closing bracket. -/
def items? (value? : List Char → Option (Data × List Char)) :
    Nat → List Char → Option (List Data × List Char)
  | 0, _ => none
  | fuel + 1, cs =>
    match skipAll cs with
    | ']' :: rest => some ([], rest)
    | cs => do
      let (item, rest) ← value? cs
      match skipAll rest with
      | ',' :: rest =>
        let (items, rest) ← items? value? fuel rest
        return (item :: items, rest)
      | ']' :: rest => return ([item], rest)
      | _ => none

/-- A key and its value, with an equals sign between them. -/
def pair? (value? : List Char → Option (Data × List Char)) (cs : List Char) :
    Option ((List String × Data) × List Char) := do
  let (path, rest) ← key? cs
  match skipBlanks rest with
  | '=' :: rest =>
    let (value, rest) ← value? (skipBlanks rest)
    return ((path, value), rest)
  | _ => none

/-- The entries of an inline table, of which there is at least one, up to its closing brace. -/
def pairs? (value? : List Char → Option (Data × List Char)) :
    Nat → List (String × Node) → List Char → Option (List (String × Node) × List Char)
  | 0, _, _ => none
  | fuel + 1, entries, cs => do
    let ((path, value), rest) ← pair? value? cs
    let entries ← Node.addPath path value .headed entries
    match skipBlanks rest with
    | ',' :: rest => pairs? value? fuel entries rest
    | '\x7d' :: rest => return (entries, rest)
    | _ => none

/-- A value in which arrays and inline tables nest at most `depth` deep. -/
def value? : Nat → List Char → Option (Data × List Char)
  | depth, cs =>
    match cs with
    | '\"' :: _ => (string? cs).map fun (s, rest) => (.text s, rest)
    | '\'' :: _ => (string? cs).map fun (s, rest) => (.text s, rest)
    | 't' :: 'r' :: 'u' :: 'e' :: rest => some (.boolean true, rest)
    | 'f' :: 'a' :: 'l' :: 's' :: 'e' :: rest => some (.boolean false, rest)
    | '[' :: rest =>
      match depth with
      | 0 => none
      | depth + 1 =>
        (items? (value? depth) cs.length rest).map fun (items, rest) => (.list items, rest)
    | '\x7b' :: rest =>
      match depth with
      | 0 => none
      | depth + 1 =>
        match skipBlanks rest with
        | '\x7d' :: rest => some (.table [], rest)
        | rest =>
          (pairs? (value? depth) cs.length [] rest).map fun (entries, rest) =>
            (.table (Node.entriesData entries), rest)
    | _ =>
      match moment? cs with
      | some rest => some (.moment, rest)
      | none => number? cs

/-- How deep arrays and inline tables may nest. -/
def depthLimit : Nat := 79

/-! ### Documents -/

/-- A document under construction: its entries, and the path of the table that entries go to. -/
structure Document where
  entries : List (String × Node)
  path : List String

namespace Document

def empty : Document := ⟨[], []⟩

def addPair (doc : Document) (path : List String) (value : Data) : Option Document :=
  (Node.descend .passed (Node.addPath path value) doc.path .headed doc.entries).map fun entries =>
    { doc with entries := entries }

/-- Starts the table of a header. -/
def start (doc : Document) (path : List String)
    (openLast : String → TableKind → List (String × Node) → Option (List (String × Node))) :
    Option Document := do
  let name ← path.getLast?
  let entries ← Node.descend .passed (openLast name) path.dropLast .headed doc.entries
  return ⟨entries, path⟩

end Document

/-- Reads one line into a document; the answer is also the text after the line. -/
def line? (doc : Document) (cs : List Char) : Option (Document × List Char) :=
  match skipBlanks cs with
  | '[' :: '[' :: rest => do
    let (path, rest) ← key? rest
    let rest ← after? ']' rest
    let rest ← after? ']' rest
    let doc ← doc.start path Node.openItem
    let rest ← lineEnd? rest
    return (doc, rest)
  | '[' :: rest => do
    let (path, rest) ← key? rest
    let rest ← after? ']' rest
    let doc ← doc.start path Node.openTable
    let rest ← lineEnd? rest
    return (doc, rest)
  | cs =>
    match lineEnd? cs with
    | some rest => some (doc, rest)
    | none => do
      let ((path, value), rest) ← pair? (value? depthLimit) cs
      let doc ← doc.addPair path value
      let rest ← lineEnd? rest
      return (doc, rest)

/-- Reads lines into a document until none is left. -/
def lines? : Nat → Document → List Char → Option Document
  | _, doc, [] => some doc
  | 0, _, _ => none
  | fuel + 1, doc, cs => do
    let (doc, rest) ← line? doc cs
    lines? fuel doc rest

/-- The entries of a document. -/
def parse? (text : String) : Option (List (String × Data)) :=
  let cs :=
    match text.toList with
    | '\ufeff' :: rest => rest
    | cs => cs
  (lines? cs.length .empty cs).map fun doc => Node.entriesData doc.entries

end ControlPlane.Toml
