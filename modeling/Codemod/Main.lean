import Codemod.Engine.Counting
import Codemod.Execution

/-!
The command line. What a command may look at is loaded into a tree, the command is carried out on
the tree, and the files that are different afterwards are written.
-/
namespace Codemod.Main

open Engine

mutual

partial def loadAll (entries : List IO.FS.DirEntry) : IO Directory := do
  let mut loaded : Directory := []
  for entry in entries do
    let node ← try loadOne entry catch _ => pure none
    loaded := (node.toList.map fun n => (entry.fileName, n)) ++ loaded
  return loaded.reverse

/-- Loads an entry; a link is kept with the place where it leads in the end, and a directory that
cannot be listed is closed. -/
partial def loadOne (entry : IO.FS.DirEntry) : IO (Option Node) := do
  match (← entry.path.symlinkMetadata).type with
  | .dir =>
    let listed ← try pure (some (← entry.path.readDir)) catch _ => pure none
    match listed with
    | some inside => return some (.dir (← loadAll inside.toList))
    | none => return some (.closed [])
  | .symlink => return some (.link ⟨(← IO.FS.realPath entry.path).toString⟩)
  | .file => return some (.file (← IO.FS.readBinFile entry.path).toList Tree.defaultMode)
  | .other => return none

end

def loadPlace (t : Tree) (place : String) : IO Tree := do
  let here ← IO.FS.realPath place
  match (← here.metadata).type with
  | .dir => return t.makeDirs ⟨place⟩
  | .file =>
    let t := t.makeParents ⟨place⟩
    return (t.write ⟨place⟩ (← IO.FS.readBinFile place).toList).toOption.getD t
  | _ => return t

def loadAlong (t : Tree) (before : String) : List String → IO Tree
  | [] => return t
  | name :: rest => do
    let dir := (← IO.currentDir) / before
    let t? : Option Tree ← try
      let real := (← IO.FS.realPath (dir / name)).toString
      let t ← loadPlace t real
      match (← (dir / name).symlinkMetadata).type with
      | .symlink =>
        let top := (← IO.FS.realPath dir).toString
        pure (some (((t.makeDirs ⟨top⟩).link ⟨top ++ "/" ++ name⟩ ⟨real⟩).toOption.getD t))
      | _ => pure (some t)
    catch _ => pure none
    match t? with
    | some t => loadAlong t (dir / name).toString rest
    | none => return t

def loadPath (t : Tree) (path : Path) : IO Tree :=
  loadAlong t (if path.isAbsolute then "/" else ".") (Tree.steps path.text.toList)

def loadDir (t : Tree) (path : Path) : IO Tree := do
  let t ← loadPath t path
  match t.find path with
  | .error _ => return t
  | .ok l =>
    let place ← IO.FS.realPath path.text
    if ← place.isDir then return t.put l (.dir (← loadAll (← place.readDir).toList)) else return t

def loadFor (i : Invocation) : IO Tree := do
  let here := (← IO.currentDir).toString
  let t ← loadPlace ⟨.dir [], Tree.steps here.toList⟩ here
  let withRoot (o : RunOptions) : IO Tree := do
    let t ← loadPath t o.config
    match Execution.prepare t o.config with
    | .ok (c, _) =>
      let t ← loadDir t (Execution.rootOf o c)
      loadPath (← (Walk.filesAbove t (Execution.rootOf o c)).foldlM loadPath t) o.config
    | .error _ => return t
  match i.command with
  | .apply o => withRoot o
  | .check o => withRoot o
  | .init config _ => loadPath t config
  | .list config _ => loadPath t config

def carryOut (i : Invocation) : IO Reply := do
  let t ← loadFor i
  let terminal ← (← IO.getStdout).isTty
  let (reply, after) := Execution.perform t terminal i
  for (path, content) in after.changesFrom t do
    IO.FS.writeBinFile path ⟨content.toArray⟩
  return reply

end Codemod.Main

def main (args : List String) : IO UInt32 := do
  let reply ← match Codemod.CommandLine.parse args with
    | .error e => pure (Codemod.Execution.usage e)
    | .ok i => Codemod.Main.carryOut i
  IO.print reply.out
  IO.eprint reply.err
  return reply.exit.toUInt32
