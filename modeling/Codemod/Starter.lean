import Codemod.Tree.Change

/-! The configuration to start with, and where it is put. -/
namespace Codemod.Starter

def lines : List String := [
  "[rewire]",
  "version = \"1\"",
  "",
  "# Directory to migrate, relative to this file",
  "root = \".\"",
  "",
  "# Only files with these extensions are rewritten (empty means every file)",
  "extensions = [\"dart\"]",
  "",
  "# Directory names skipped wherever they appear",
  "exclude_dirs = [\"build\", \".dart_tool\", \"generated\"]",
  "",
  "# Honor .gitignore files",
  "gitignore = false",
  "",
  "# Global rules run in order on every file. Each rule sees the output of",
  "# the previous one.",
  "[[rules]]",
  "pattern = 'ApiService\\.login\\('",
  "replacement = \"AuthRoutes.login(\"",
  "",
  "# literal = true matches the pattern text exactly and inserts the",
  "# replacement verbatim",
  "[[rules]]",
  "pattern = \"import '../services/api_service.dart';\"",
  "replacement = \"import '../providers/api_routes/auth_routes.dart';\"",
  "literal = true",
  "",
  "# Scoped rules run before the global rules on files whose path, relative",
  "# to root, matches the location glob. The first matching scope wins.",
  "# [[scopes]]",
  "# location = \"screens/staff/tabs/**\"",
  "#",
  "# [[scopes.rules]]",
  "# pattern = \"import '../../../services/api_service.dart';\"",
  "# replacement = \"import '../../../providers/api_routes/property_routes.dart';\"",
  "# literal = true",
  "",
  "[output]",
  "format = \"human\""]

def text : String := String.join (lines.map (· ++ "\n"))

inductive Error where
  | noDirectory (dir : Path)
  | isDirectory (path : Path)
  | io (e : IoError)
  deriving DecidableEq, Repr

def Error.message : Error → String
  | .noDirectory dir => s!"Path error: Directory '{dir.text}' does not exist"
  | .isDirectory path => s!"Path error: Path '{path.text}' is a directory"
  | .io e => "I/O error: " ++ e.message

structure Result where
  created : List String := []
  skipped : List String := []
  overwritten : List String := []
  deriving DecidableEq, Repr

def missingDir? (t : Tree) (path : Path) : Option Path :=
  path.parent?.filter fun dir => !dir.text.isEmpty && !t.hasDir dir

def fill (t : Tree) (device : Device) (path : Path) (r : Result) : Except Error Result × Tree :=
  match t.store device path (bytesOf text.toList) with
  | (.ok (), t) => (.ok r, t)
  | (.error e, t) => (.error (.io e), t)

def handle (t : Tree) (device : Device) (path : Path) (force : Bool) (r : Result) :
    Except Error Result × Tree :=
  if t.hasDir path then (.error (.isDirectory path), t)
  else if t.has path then
    if force then fill t device path { r with overwritten := r.overwritten ++ [path.text] }
    else (.ok { r with skipped := r.skipped ++ [path.text] }, t)
  else fill t device path { r with created := r.created ++ [path.text] }

def place (t : Tree) (device : Device) (path : Path) (force : Bool) : Except Error Result × Tree :=
  match missingDir? t path with
  | some dir => (.error (.noDirectory dir), t)
  | none => handle t device path force {}

end Codemod.Starter
