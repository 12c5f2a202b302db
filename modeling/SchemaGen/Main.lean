import Std.Time.DateTime.Timestamp
import SchemaGen.Run

/-! The command line of the program: it looks at the files, the variables and the clock that a run
needs, and carries out what the run leaves behind. It has no network, so every connection is
refused. -/

namespace SchemaGen.CommandLine

set_option autoImplicit false

open SchemaGen.Files

/-! ## Looking -/

/-- Adds what stands at a place. -/
def observe (tree : Tree) (place : Place) : IO Tree := do
  let path := (← IO.currentDir) / ("/" ++ "/".intercalate place)
  if ← path.isDir then return tree.put place .directory
  else if ← path.pathExists then
    return tree.put place (.file (.ofBytes (← IO.FS.readBinFile path)))
  else return tree

/-- Adds what stands on the way along a path. -/
def explore (cwd : Place) (tree : Tree) (path : String) : IO Tree := do
  let step (state : Tree × Place) (name : String) : IO (Tree × Place) := do
    let place :=
      if name = "." then state.2
      else if name = ".." then state.2.dropLast
      else state.2 ++ [name]
    return (← observe state.1 place, place)
  return (← (Path.names path).foldlM step (tree, Tree.origin cwd path)).1

/-- The variables of the process, as the system shows them to it. -/
def processEnvironment : IO Config.Dotenv.Environment := do
  let data ← IO.FS.readBinFile "/proc/self/environ"
  let entries := Text.pieces (· == '\x00') ((String.fromUTF8? data).getD "").toList
  return entries.filterMap fun entry =>
    match Text.cutAt (· == '=') entry with
    | (name, some value) => some (String.ofList name, String.ofList value)
    | (_, none) => none

/-- The present. -/
def present : IO Time.Instant := do
  let now ← Std.Time.Timestamp.now
  let nanoseconds := now.toNanosecondsSinceUnixEpoch.toInt
  return ⟨nanoseconds.fdiv 1000000000, (nanoseconds.fmod 1000000000).toNat⟩

/-- The paths that tell the settings of a run. -/
def settingPaths (o : Options) (environment : Config.Dotenv.Environment) : List String :=
  Config.projectFile :: (Config.userFile? environment).toList ++
    ((o.value? .env).toList.flatMap fun path => [path, Path.child path ".env"])

/-- The paths of a task. -/
def taskPaths (t : Task) : List String :=
  match t.source with
  | .database path | .exported path => [path, t.output]
  | .token .. | .password .. => [t.output]

/-- The world around a run. -/
def lookAround (args : List String) : IO World := do
  let cwd := Path.names (← IO.currentDir).toString
  let environment ← processEnvironment
  let start ← explore cwd .empty ("/" ++ "/".intercalate cwd)
  let now ← present
  let world : World := { tree := start, cwd, environment, network := fun _ _ => none, now }
  match CommandLine.read args with
  | .error _ => return world
  | .ok o =>
    let world := { world with tree := ← (settingPaths o environment).foldlM (explore cwd) start }
    let task := do prepare world o (← wholeEnvironment world o).1
    match task with
    | .error _ => return world
    | .ok t => return { world with tree := ← (taskPaths t).foldlM (explore cwd) world.tree }

/-! ## Acting -/

/-- Makes the directories and writes the files that one tree has more than another. -/
def realize (before after : Tree) : IO Unit :=
  after.nodes.forM fun (place, node) => do
    let path := (← IO.currentDir) / ("/" ++ "/".intercalate place)
    match before.node? place, node with
    | none, .directory => IO.FS.createDir path
    | some (.file old), .file new =>
      if old.text? != new.text? then IO.FS.writeFile path (new.text?.getD "")
    | none, .file new => IO.FS.writeFile path (new.text?.getD "")
    | some _, _ => pure ()

end SchemaGen.CommandLine

open SchemaGen in
/-- Runs the program and ends with its exit code. -/
def main (args : List String) : IO UInt32 := do
  let world ← CommandLine.lookAround args
  let outcome := run world args
  CommandLine.realize world.tree outcome.tree
  (outcome.lines (filterOf world args)).forM fun line => IO.eprintln line
  IO.print outcome.printed
  (outcome.failure.bind Failure.report?).forM fun report => IO.eprintln report
  return outcome.exitCode.toUInt32
