import LiveBundle.Cli.Host

/-!
# A machine in memory

A machine whose files are a list, with what was printed on it. It behaves as a machine with a single
directory that is not connected to any network, so what a command does can be told without running
one. There is a directory wherever a file is below it.

* `Machine.host` is the host of such a machine.
-/

namespace LiveBundle.Cli

/-- A machine. The files are kept by the names on the way to them. -/
structure Machine where
  files : List (List String × String)
  stdout : String := ""
  stderr : String := ""

namespace Machine

/-- What is at a path. -/
inductive Place where
  | file (text : String)
  | directory
  | absent (fault : FileFault)

/-- The names on the way to a path below the directory; nothing for paths elsewhere. -/
def namesOf? (directory path : String) : Option (List String) :=
  let inside := if path == directory then some "" else
    match Text.stripPrefix? (directory ++ "/") path with
    | some rest => some rest
    | none => if Path.isAbsolute path then none else some path
  inside.bind fun path =>
    (Path.collapse [] (Path.segments path.toList)).map fun stack =>
      (stack.reverse).map String.ofList

/-- What is behind some names. -/
def placeAt (m : Machine) (names : List String) : Place :=
  match m.files.lookup names with
  | some text => .file text
  | none =>
    if names == [] || m.files.any fun f => names.isPrefixOf f.1 then .directory
    else if m.files.any fun f => f.1.isPrefixOf names then .absent .notDirectory
    else .absent .notFound

/-- What is at a path. -/
def placeOf (m : Machine) (directory path : String) : Place :=
  match if path == "" then none else namesOf? directory path with
  | none => .absent .notFound
  | some names => m.placeAt names

/-- A tree with one more file below it. -/
def addToTree (text : String) : List String → List (String × FileTree) →
    List (String × FileTree)
  | [], entries => entries
  | [name], entries => entries ++ [(name, .file (Text.Utf8.encode text.toList))]
  | name :: rest, entries =>
    let inner := match entries.lookup name with
      | some (.directory inner) => inner
      | _ => []
    entries.filter (·.1 != name) ++ [(name, .directory (addToTree text rest inner))]

/-- The tree at a path. -/
def treeOf (m : Machine) (directory path : String) : Option FileTree :=
  match m.placeOf directory path with
  | .absent _ => none
  | .file text => some (.file (Text.Utf8.encode text.toList))
  | .directory =>
    let front := (namesOf? directory path).getD []
    let below := m.files.filter fun f => front.isPrefixOf f.1
    some (.directory (below.foldl (fun acc f =>
      addToTree f.2 (f.1.drop front.length) acc) []))

/-- Writes a file into a directory that is there. -/
def write (m : Machine) (directory path text : String) : Except FileFault Machine :=
  match m.placeOf directory path, namesOf? directory path with
  | .directory, _ => .error .isDirectory
  | .absent .notDirectory, _ => .error .notDirectory
  | _, none => .error .notFound
  | _, some [] => .error .notFound
  | _, some names =>
    match m.placeAt names.dropLast with
    | .directory =>
      let others := m.files.filter fun f => f.1 != names
      .ok { m with files := others ++ [(names, text)] }
    | _ => .error .notFound

/-- The host of a machine with its files in a directory, settings, and lines on the standard input.
-/
def host (directory : String) (setting : String → Option String) (input : List String) :
    Host (StateM Machine) where
  directory := pure directory
  setting name := pure (setting name)
  contains path := do
    match (← get).placeOf directory path with
    | .absent _ => pure false
    | _ => pure true
  readText path := do
    match (← get).placeOf directory path with
    | .file text => pure (.ok text)
    | .directory => pure (.error .isDirectory)
    | .absent fault => pure (.error fault)
  writeText path text := do
    match (← get).write directory path text with
    | .ok m =>
      set m
      pure (.ok ())
    | .error fault => pure (.error fault)
  readTree path := do pure ((← get).treeOf directory path)
  print text := modify fun m => { m with stdout := m.stdout ++ text }
  printError text := modify fun m => { m with stderr := m.stderr ++ text }
  foldLines step s := input.foldlM (fun s line => step line s) s
  clock := pure 0
  network := .offline

end Machine

end LiveBundle.Cli
