import CloudCluster.CommandLine.Run

/-!
The program `stratus`.

A run takes place on a tree that holds the files it may look at: the settings,
the template and the directory of configs. What it has changed there is written
back. The tree has no programs in it, so the launcher is not found; clusters
that are provisioned for real need a machine that has one.
-/

namespace CloudCluster.Program

open Files

/-- The path of a place. -/
def pathOf (place : Place) : Path :=
  "/" ++ "/".intercalate place

/-- The place that a path names; two dots go up. -/
def placeOf (tree : Tree) (path : Path) : Place :=
  path.pieces.foldl (fun place name =>
    if name = "" || name = "." then place
    else if name = ".." then place.dropLast
    else place ++ [name]) (tree.start path)

/-- The tree with the directories above a place. -/
def withParents (tree : Tree) (place : Place) : Tree :=
  (List.range place.length).foldl (fun tree n =>
    if n = 0 || (tree.find? (place.take n)).isSome then tree
    else tree.insert (place.take n) (.directory Tree.newDirectoryMode)) tree

/-- Fetches what stands at a place, a directory with the files in it. -/
def fetch (tree : Tree) (place : Place) : IO Tree := do
  let path ← IO.FS.realPath (pathOf place)
  if !(← path.pathExists) then return tree
  let tree := withParents tree place
  if ← path.isDir then
    let mut tree := tree.insert place (.directory Tree.newDirectoryMode)
    for entry in ← path.readDir do
      if !(← entry.path.isDir) then
        let bytes ← IO.FS.readBinFile entry.path
        tree := tree.insert (place ++ [entry.fileName]) (.file bytes Tree.newFileMode)
    return tree
  else
    return tree.insert place (.file (← IO.FS.readBinFile path) Tree.newFileMode)

/-- Fetches what a run may look at. -/
def fetchAll (tree : Tree) (home : String) (bindings : List (String × String)) : IO Tree := do
  let mut tree := withParents tree (tree.workingDirectory ++ [""])
  for place in Settings.upwards tree.workingDirectory.length tree.workingDirectory do
    tree ← fetch tree (place ++ [Settings.fileName])
  match Settings.load tree bindings with
  | .error _ => return tree
  | .ok settings =>
    for path in settings.resolvedConfigDir home :: settings.template.toList do
      tree ← fetch tree (placeOf tree (Path.expandHome home path))
    return tree

/-- Writes back what has changed. -/
def store (before after : Tree) : IO Unit := do
  for (place, entry) in after.entries do
    if before.find? place ≠ some entry then
      match entry with
      | .directory _ => IO.FS.createDirAll (pathOf place)
      | .file bytes _ => IO.FS.writeBinFile (pathOf place) bytes

/-- The variables of the process, in their order. -/
def environment : IO (List (String × String)) := do
  let text := Text.decodeLossyText (← IO.FS.readBinFile "/proc/self/environ")
  return (text.splitOn "\x00").filterMap fun line =>
    match line.splitOn "=" with
    | name :: value :: rest => some (name, "=".intercalate (value :: rest))
    | _ => none

end CloudCluster.Program

open CloudCluster in
def main (arguments : List String) : IO UInt32 := do
  let bindings ← Program.environment
  let workingDirectory := (Files.Path.pieces (← IO.currentDir).toString).filter (· ≠ "")
  let home := Settings.homeOf "/" bindings
  let before ← Program.fetchAll { workingDirectory } home bindings
  let (output, machine) := CommandLine.run { tree := before } "/" bindings arguments
  Program.store before machine.tree
  IO.print output.out
  IO.eprint output.err
  return output.exit.toUInt32
