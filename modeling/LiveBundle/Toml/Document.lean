import LiveBundle.Toml.Scalar

/-!
# Configuration files

A file is a sequence of entries and of headers. Headers name the table that the entries behind them
belong to; dotted keys name tables below it. A table has one definition, and a key one value.

* `Document.parse` reads a file; it gives no reason when the text is not in the format.
-/

namespace LiveBundle.Toml

/-- The number of levels that values may be nested and that keys may be dotted. -/
def maxDepth : Nat := 79

/-! ## Keys -/

/-- Characters of keys without quotes. -/
def isBare (c : Char) : Bool := Text.isAsciiAlphanumeric c || c == '_' || c == '-'

/-- A key without dots. -/
def simpleKey : Reader String := fun s =>
  match s with
  | '"' :: rest => (basicBody s.length rest).map fun (text, rest) => (String.ofList text, rest)
  | '\'' :: rest => (literalBody rest).map fun (text, rest) => (String.ofList text, rest)
  | _ =>
    match s.takeWhile isBare with
    | [] => none
    | name => some (String.ofList name, s.dropWhile isBare)

/-- A key: the names between its dots. -/
def dottedKey : Nat → Reader (List String)
  | 0, _ => none
  | depth + 1, s =>
    match simpleKey s with
    | none => none
    | some (name, rest) =>
      match skipSpace rest with
      | '.' :: more => (dottedKey depth (skipSpace more)).map fun (names, rest) =>
          (name :: names, rest)
      | rest => some ([name], rest)

/-! ## Tables -/

/-- Works on the table at a path below some entries. Tables on the way that do not exist are made;
a dotted key does not go through a table with a header. -/
def within (byKey : Bool) (work : Origin → Entries → Option Entries) :
    List String → Origin → Entries → Option Entries
  | [], origin, entries => work origin entries
  | name :: path, _, entries =>
    let put (old : Entries) (t : Toml) : Entries :=
      old.map fun e => if e.1 == name then (e.1, t) else e
    match entries.lookup name with
    | none =>
      let origin := if byKey then Origin.dotted else Origin.implied
      (within byKey work path origin []).map fun new => entries ++ [(name, .table origin new)]
    | some (.table .inline _) => none
    | some (.table origin old) =>
      if byKey && origin = .header then none
      else (within byKey work path origin old).map fun new => put entries (.table origin new)
    | some (.tables items) =>
      match items.getLast? with
      | none => none
      | some last => (within byKey work path .header last).map fun new =>
          put entries (.tables (items.dropLast ++ [new]))
    | some _ => none

/-- Adds an entry to a table; a key has one value. The table at the end of a dotted key came about
by a dotted key. -/
def addEntry (path : List String) (name : String) (value : Toml) (entries : Entries) :
    Option Entries :=
  within true (fun origin entries =>
    if (!path.isEmpty && origin != .dotted) || (entries.lookup name).isSome then none
    else some (entries ++ [(name, value)])) path .header entries

/-- The names in front of the last one, and the last one. -/
def splitLast : List String → Option (List String × String)
  | [] => none
  | [name] => some ([], name)
  | name :: rest => (splitLast rest).map fun (path, last) => (name :: path, last)

/-- Adds a table with a header; a table that was only named on the way becomes it. -/
def addTable (name : String) (entries : Entries) : Option Entries :=
  match entries.lookup name with
  | none => some (entries ++ [(name, .table .header [])])
  | some (.table .implied _) =>
    some (entries.map fun e =>
      match e.2 with
      | .table .implied old => if e.1 == name then (e.1, .table .header old) else e
      | _ => e)
  | some _ => none

/-- Adds a table to those with a header in double brackets. -/
def appendTable (name : String) (entries : Entries) : Option Entries :=
  match entries.lookup name with
  | none => some (entries ++ [(name, .tables [[]])])
  | some (.tables _) =>
    some (entries.map fun e =>
      match e.2 with
      | .tables items => if e.1 == name then (e.1, .tables (items ++ [[]])) else e
      | _ => e)
  | some _ => none

/-! ## Values -/

/-- The text behind a comment in front, which ends before a line break. -/
def comment? : List Char → Option (List Char)
  | '#' :: rest => some (rest.dropWhile isPlain)
  | _ => none

/-- The text behind blanks, line breaks and comments. A comment ends at a line break or with the
text. -/
def skipFiller : Nat → List Char → Option (List Char)
  | 0, _ => none
  | fuel + 1, s =>
    match skipBlank s with
    | '#' :: rest =>
      match rest.dropWhile isPlain with
      | [] => some []
      | behind => if (newline? behind).isSome then skipFiller fuel behind else none
    | rest => some rest

/-- The keyword for a value. -/
def keyword : Reader Toml
  | 't' :: 'r' :: 'u' :: 'e' :: rest => some (.boolean true, rest)
  | 'f' :: 'a' :: 'l' :: 's' :: 'e' :: rest => some (.boolean false, rest)
  | _ => none

/-- A value that holds no others. -/
def scalar : Reader Toml := fun s =>
  (readString s).map (fun (text, rest) => (Toml.string text, rest)) <|>
    keyword s <|> readDatetime s <|> readFloat s <|> readInteger s

/-- The items of an array up to its bracket; `item` reads one. -/
def arrayItems (item : Reader Toml) : Nat → Reader (List Toml)
  | 0, _ => none
  | fuel + 1, s =>
    match skipFiller (s.length + 1) s with
    | none => none
    | some (']' :: rest) => some ([], rest)
    | some s =>
      match item s with
      | none => none
      | some (v, rest) =>
        match skipFiller (rest.length + 1) rest with
        | some (',' :: rest) => (arrayItems item fuel rest).map fun (vs, rest) => (v :: vs, rest)
        | some (']' :: rest) => some ([v], rest)
        | _ => none

/-- The text behind the equals sign of an entry, and the names of its key. -/
def keyAndSign : Reader (List String) := fun s =>
  match dottedKey maxDepth s with
  | none => none
  | some (names, rest) =>
    match skipSpace rest with
    | '=' :: rest => some (names, skipSpace rest)
    | _ => none

/-- The entries of an inline table up to its brace. -/
def inlineEntries (item : Reader Toml) : Nat → Entries → Reader Entries
  | 0, _, _ => none
  | fuel + 1, entries, s =>
    match keyAndSign (skipSpace s) with
    | none => none
    | some (names, rest) =>
      match splitLast names, item rest with
      | some (path, name), some (v, rest) =>
        match addEntry path name v entries with
        | none => none
        | some entries =>
          match skipSpace rest with
          | ',' :: rest => inlineEntries item fuel entries rest
          | '\x7d' :: rest => some (entries, rest)
          | _ => none
      | _, _ => none

/-- A value, with some levels of nesting left. -/
def value : Nat → Reader Toml
  | 0, s => scalar s
  | depth + 1, s =>
    match s with
    | '[' :: rest =>
      (arrayItems (value depth) s.length rest).map fun (items, rest) => (.array items, rest)
    | '\x7b' :: rest =>
      match skipSpace rest with
      | '\x7d' :: rest => some (.table .inline [], rest)
      | _ => (inlineEntries (value depth) s.length [] rest).map fun (entries, rest) =>
          (.table .inline entries, rest)
    | _ => scalar s

/-! ## Files -/

/-- The text behind the rest of a line that holds nothing more. -/
def endOfLine? (s : List Char) : Option (List Char) :=
  let rest := skipSpace s
  match (comment? rest).getD rest with
  | [] => some []
  | rest => newline? rest

/-- A line of a file. -/
inductive Line where
  | blank
  | header (path : List String)
  | arrayHeader (path : List String)
  | entry (names : List String) (value : Toml)

/-- A line and the text behind it. -/
def line : Reader Line := fun s =>
  match skipSpace s with
  | [] => some (.blank, [])
  | '[' :: '[' :: rest =>
    match dottedKey maxDepth (skipSpace rest) with
    | some (path, rest) =>
      match skipSpace rest with
      | ']' :: ']' :: rest => (endOfLine? rest).map fun rest => (.arrayHeader path, rest)
      | _ => none
    | none => none
  | '[' :: rest =>
    match dottedKey maxDepth (skipSpace rest) with
    | some (path, rest) =>
      match skipSpace rest with
      | ']' :: rest => (endOfLine? rest).map fun rest => (.header path, rest)
      | _ => none
    | none => none
  | c :: rest =>
    if c = '#' ∨ c = '\n' ∨ c = '\r' then (endOfLine? (c :: rest)).map fun rest => (.blank, rest)
    else
      match keyAndSign (c :: rest) with
      | none => none
      | some (names, rest) =>
        match value maxDepth rest with
        | none => none
        | some (v, rest) => (endOfLine? rest).map fun rest => (.entry names v, rest)

/-- The lines of a text. -/
def lines : Nat → List Char → Option (List Line)
  | _, [] => some []
  | 0, _ => none
  | fuel + 1, s =>
    match line s with
    | none => none
    | some (l, rest) => (lines fuel rest).map (l :: ·)

/-- A file that is being read: its entries, and the path of the table that entries belong to. -/
structure Document where
  entries : Entries
  current : List String

namespace Document

/-- Adds a line. -/
def add (d : Document) : Line → Option Document
  | .blank => some d
  | .header path => do
    let (front, name) ← splitLast path
    let entries ← within false (fun _ entries => addTable name entries) front .header d.entries
    pure ⟨entries, path⟩
  | .arrayHeader path => do
    let (front, name) ← splitLast path
    let entries ← within false (fun _ entries => appendTable name entries) front .header d.entries
    pure ⟨entries, path⟩
  | .entry names value => do
    let (path, name) ← splitLast names
    let entries ← within false (fun _ entries => addEntry path name value entries)
      d.current .header d.entries
    pure { d with entries }

/-- Reads a file; a mark of the byte order in front is passed over. -/
def parse (text : String) : Option Entries :=
  let s := match text.toList with
    | c :: rest => if c.toNat = 0xFEFF then rest else c :: rest
    | [] => []
  do
    let ls ← lines (s.length + 1) s
    let d ← ls.foldlM add ⟨[], []⟩
    pure d.entries

end Document

end LiveBundle.Toml
