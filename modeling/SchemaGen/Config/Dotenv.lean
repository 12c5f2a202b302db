import SchemaGen.Files.Nearest
import SchemaGen.Text.Alphanumeric
import SchemaGen.Text.Blank

/-! Files of environment variables: a name, `=` and a value on each line. A value may be quoted,
also over several lines, may escape characters, and may refer to variables. Variables that are set
already stay as they are. -/

namespace SchemaGen.Config.Dotenv

set_option autoImplicit false

open SchemaGen.Text

/-- Variables with their values. -/
abbrev Environment := List (String × String)

/-! ## Errors -/

/-- Why a file of variables is not read. -/
inductive DotenvError where
  /-- A text that is ill-formed at a position. -/
  | line (text : String) (position : Nat)
  | file (cause : Files.OsError)
  /-- A variable cannot hold its value, which has a NUL character. -/
  | unfit (name : String)
  deriving DecidableEq, Repr

def DotenvError.message : DotenvError → String
  | .line text position =>
    "Error parsing line: '" ++ text ++ "', error at line index: " ++ toString position
  | .file cause => cause.message
  | .unfit name => "no environment can hold the value of " ++ name

/-! ## Where lines end -/

/-- Where a line stands between quotes and escapes. -/
inductive Place where
  | complete
  | escape
  /-- Between single quotes, and after a backslash there. -/
  | strong | strongEscape
  /-- Between double quotes, and after a backslash there. -/
  | weak | weakEscape
  /-- After a blank, where a comment may start. -/
  | blank
  | comment
  deriving DecidableEq, Repr

/-- The place after one more character. -/
def Place.next (place : Place) (c : Char) : Place :=
  match place with
  | .complete =>
    if isBlank c && c != '\n' && c != '\r' then .blank
    else if c = '\\' then .escape
    else if c = '"' then .weak
    else if c = '\'' then .strong
    else .complete
  | .blank =>
    if c = '#' then .comment
    else if c = '\\' then .escape
    else if c = '"' then .weak
    else if c = '\'' then .strong
    else .complete
  | .escape => .complete
  | .weak => if c = '\\' then .weakEscape else if c = '"' then .complete else .weak
  | .weakEscape => .weak
  | .strong => if c = '\\' then .strongEscape else if c = '\'' then .complete else .strong
  | .strongEscape => .strong
  | .comment => .comment

/-- The place at the end of a line's characters, and those before a comment. -/
def scan (place : Place) : List Char → Place × List Char
  | [] => (place, [])
  | c :: cs =>
    match place.next c with
    | .comment => (.comment, [])
    | next =>
      let (last, kept) := scan next cs
      (last, c :: kept)

/-- The text without a line end. -/
def chomp (cs : List Char) : List Char :=
  match cs.reverse with
  | '\n' :: '\r' :: rest => rest.reverse
  | '\n' :: rest => rest.reverse
  | _ => cs

/-- Has a comment and nothing before it. -/
def isComment (cs : List Char) : Bool := (cs.dropWhile isBlank).head? == some '#'

/-- Joins lines that quotes or a blank at the end hold together. `before` is what has been joined,
and `place` where it ends. -/
def joinLines (place : Place) (before : List Char) :
    List (Option String) → List (Except DotenvError String)
  | [] =>
    if place = .complete then []
    else
      let text := String.ofList before
      [.error (.line text text.utf8ByteSize)]
  | none :: _ => [.error (.file .notText)]
  | some line :: rest =>
    let joined := before ++ line.toList
    if isComment joined then .ok "" :: joinLines .complete [] rest
    else
      match scan place line.toList with
      | (.complete, _) => .ok (String.ofList (chomp joined)) :: joinLines .complete [] rest
      | (.comment, kept) => .ok (String.ofList (before ++ kept)) :: joinLines .complete [] rest
      | (next, _) => joinLines next joined rest

/-! ## Values -/

/-- The value of a variable: one that is set, else one of an earlier line, else nothing. -/
def lookUp (environment earlier : Environment) (name : String) : String :=
  ((environment.lookup name).orElse fun _ => earlier.lookup name).getD ""

/-- Between which signs the name of a variable stands. -/
inductive Reference where
  /-- After a dollar sign. -/
  | bare
  /-- After a dollar sign and a brace. -/
  | braced
  deriving DecidableEq, Repr

/-- How far a value has come. Texts are latest first. -/
structure Progress where
  output : List Char := []
  strong : Bool := false
  weak : Bool := false
  escaped : Bool := false
  /-- The value has ended, and only blanks or a comment may follow. -/
  ended : Bool := false
  reference : Option Reference := none
  name : List Char := []

/-- Puts the value of the variable in place of its name. -/
def Progress.substitute (p : Progress) (find : String → String) : Progress :=
  { p with
    output := (find (String.ofList p.name.reverse)).toList.reverse ++ p.output
    name := []
    reference := none }

/-- A character of a name, or the one that ends it. -/
def Progress.stepName (p : Progress) (find : String → String) (reference : Reference) (c : Char) :
    Progress :=
  if isAlphanumeric c then { p with name := c :: p.name }
  else
    match reference with
    | .bare =>
      if c = '\x7b' && p.name.isEmpty then { p with reference := some .braced }
      else
        let done := p.substitute find
        if c = '$' then { done with reference := some .bare }
        else { done with output := c :: done.output }
    | .braced => if c = '\x7d' then p.substitute find else { p with name := c :: p.name }

/-- What a character after a backslash stands for. -/
def escaped? (c : Char) : Option Char :=
  if ['\\', '\'', '"', '$', ' '].contains c then some c else if c = 'n' then some '\n' else none

/-- One character; none where it cannot stand. -/
def Progress.step (p : Progress) (find : String → String) (c : Char) : Option Progress :=
  if p.ended then if c = ' ' || c = '\t' then some p else none
  else if p.escaped then
    (escaped? c).map fun e => { p with output := e :: p.output, escaped := false }
  else if p.strong then
    some (if c = '\'' then { p with strong := false } else { p with output := c :: p.output })
  else
    match p.reference with
    | some reference => some (p.stepName find reference c)
    | none =>
      if c = '$' then some { p with reference := some .bare }
      else if c = '\\' then some { p with escaped := true }
      else if p.weak then
        some (if c = '"' then { p with weak := false } else { p with output := c :: p.output })
      else if c = '\'' then some { p with strong := true }
      else if c = '"' then some { p with weak := true }
      else if c = ' ' || c = '\t' then some { p with ended := true }
      else some { p with output := c :: p.output }

/-- The value where its text ends. -/
def endValue (find : String → String) (text : String) (p : Progress) :
    Except DotenvError String :=
  if p.reference == some .braced || p.strong || p.weak then
    .error (.line text (text.utf8ByteSize - 1))
  else .ok (String.ofList (p.substitute find).output.reverse)

/-- The value of the characters from one place on. -/
def finishValue (find : String → String) (text : String) (place : Nat) (p : Progress) :
    List Char → Except DotenvError String
  | [] => endValue find text p
  | c :: cs =>
    if p.ended && c == '#' then endValue find text p
    else
      match p.step find c with
      | some next => finishValue find text (place + 1) next cs
      | none => .error (.line text place)

/-- The value that a text stands for. -/
def readValue (find : String → String) (text : List Char) : Except DotenvError String :=
  finishValue find (String.ofList text) 0 {} text

/-! ## Lines -/

def isKeyStart (c : Char) : Bool := c.isAlpha || c == '_'

def isKeyChar (c : Char) : Bool := c.isAlphanum || c == '_' || c == '.'

/-- The text that is left of a line, and how many bytes have been read. -/
structure Cursor where
  rest : List Char
  position : Nat

namespace Cursor

def byteCount (cs : List Char) : Nat := cs.foldl (fun n c => n + c.utf8Size) 0

def skipBlank (c : Cursor) : Cursor :=
  ⟨c.rest.dropWhile isBlank, c.position + byteCount (c.rest.takeWhile isBlank)⟩

/-- A name, and what follows it. -/
def key? (c : Cursor) : Option (String × Cursor) :=
  if c.rest.head?.any isKeyStart then
    let name := c.rest.takeWhile isKeyChar
    some (String.ofList name, ⟨c.rest.dropWhile isKeyChar, c.position + byteCount name⟩)
  else none

def equals? (c : Cursor) : Option Cursor :=
  match c.rest with
  | '=' :: rest => some ⟨rest, c.position + 1⟩
  | _ => none

end Cursor

/-- The name on a line and the cursor at its value; the position of the error where there is none.
The word `export` may stand before the name, and is a name itself before `=`. -/
def readKey (start : Cursor) : Except Nat (String × Cursor) := do
  let named (c : Cursor) : Except Nat (String × Cursor) :=
    match c.key? with
    | some (name, c) => .ok (name, c.skipBlank)
    | none => .error c.position
  let (name, c) ← named start
  match c.equals? with
  | some c => return (name, c.skipBlank)
  | none =>
    if name = "export" then
      let (name, c) ← named c
      match c.equals? with
      | some c => return (name, c.skipBlank)
      | none => throw c.position
    else throw c.position

/-- The variable on a line, if there is one. -/
def readLine (environment earlier : Environment) (line : String) :
    Except DotenvError (Option (String × String)) := do
  let body := (line.toList.reverse.dropWhile isBlank).reverse
  let start := (Cursor.mk body 0).skipBlank
  if start.rest.isEmpty || start.rest.head? == some '#' then return none
  let (name, c) ← (readKey start).mapError (.line line)
  if c.rest.isEmpty || c.rest.head? == some '#' then return some (name, "")
  return some (name, ← readValue (lookUp environment earlier) c.rest)

/-! ## Files -/

/-- The environment with a variable, unless it is set already. -/
def define (environment : Environment) (name value : String) : Except DotenvError Environment :=
  if (environment.lookup name).isSome then .ok environment
  else if value.toList.contains '\x00' then .error (.unfit name)
  else .ok (environment ++ [(name, value)])

/-- The environment with the variables of some lines. -/
def loadLines (environment earlier : Environment) :
    List (Except DotenvError String) → Except DotenvError Environment
  | [] => .ok environment
  | .error e :: _ => .error e
  | .ok line :: rest => do
    match ← readLine environment earlier line with
    | none => loadLines environment earlier rest
    | some (name, value) =>
      loadLines (← define environment name value) ((name, value) :: earlier) rest

/-- The lines of a file without a byte order mark at its start. -/
def dropMark : List (Option String) → List (Option String)
  | some line :: rest =>
    match line.toList with
    | '\ufeff' :: cs => if cs.isEmpty then rest else some (String.ofList cs) :: rest
    | _ => some line :: rest
  | lines => lines

/-- The environment with the variables of a file. -/
def loadContent (environment : Environment) (content : Files.Content) :
    Except DotenvError Environment :=
  loadLines environment [] (joinLines .complete [] (dropMark content.lines))

/-- The file that a path means: itself, or `.env` in the directory that it names. -/
def fileOf (tree : Files.Tree) (cwd : Files.Place) (path : String) : String :=
  if tree.isFile cwd path then path else Files.Path.child path ".env"

/-- The environment with the variables of the file that a path means, and its path; the environment
as it is, where there is no such file. -/
def load (tree : Files.Tree) (cwd : Files.Place) (path : String) (environment : Environment) :
    Except DotenvError (Environment × Option String) :=
  let file := fileOf tree cwd path
  match tree.file? cwd file with
  | some content => (loadContent environment content).map (·, some file)
  | none => .ok (environment, none)

/-- The environment with the variables of the file `.env` in a directory, or else in the nearest one
above it that has one, and the place of the file. -/
def loadNearest (tree : Files.Tree) (cwd : Files.Place) (environment : Environment) :
    Except DotenvError (Environment × Option Files.Place) :=
  match tree.nearestFile? cwd ".env" with
  | some (place, content) =>
    (loadContent environment content).map (·, some (place ++ [".env"]))
  | none => .ok (environment, none)

end SchemaGen.Config.Dotenv
