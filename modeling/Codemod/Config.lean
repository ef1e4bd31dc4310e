import Codemod.Failure
import Codemod.Filter
import Codemod.Output.Style
import Codemod.Toml.Document

/-!
The configuration of a run: which files to visit, what to replace in them, and how to report it.
A configuration that was parsed has version 1 and at least one rule, every scope has rules and a
location that can be read, and no extension holds a separator.
-/
namespace Codemod

structure Config where
  version : String
  root : Path := ⟨"."⟩
  extensions : List String := []
  excludedDirs : List String := []
  gitignore : Bool := false
  rules : List RuleDef := []
  scopes : List ScopeDef := []
  format : Format := .human
  colour : ColourMode := .auto
  deriving DecidableEq, Repr

namespace Config

open Toml

structure Settings where
  version : String
  root : Path
  extensions : List String
  excludedDirs : List String
  gitignore : Bool

def pathShape : Shape Path := fun item => (Shape.text "path string" item).map (⟨·⟩)

def settingsShape : Shape Settings := fun item => do
  let fs ← Fields.read "RewireMeta" [.of "version" .string, .of "root" pathShape,
    .of "extensions" (.list .string), .of "exclude_dirs" (.list .string),
    .of "gitignore" .boolean] item
  return { version := ← fs.get "version" .string, root := ← fs.getD "root" pathShape ⟨"."⟩,
           extensions := ← fs.getD "extensions" (.list .string) [],
           excludedDirs := ← fs.getD "exclude_dirs" (.list .string) [],
           gitignore := ← fs.getD "gitignore" .boolean false }

def ruleShape : Shape RuleDef := fun item => do
  let fs ← Fields.read "RuleDefinition" [.of "pattern" .string, .of "replacement" .string,
    .of "literal" .boolean] item
  return { pattern := ← fs.get "pattern" .string, replacement := ← fs.get "replacement" .string,
           literal := ← fs.getD "literal" .boolean false }

def scopeShape : Shape ScopeDef := fun item => do
  let fs ← Fields.read "ScopeDefinition" [.of "location" .string, .of "rules" (.list ruleShape)] item
  return { location := ← fs.get "location" .string, rules := ← fs.getD "rules" (.list ruleShape) [] }

def formatShape : Shape Format := .variant Format.name Format.all

def colourShape : Shape ColourMode := .variant ColourMode.name ColourMode.all

def outputShape : Shape (Format × ColourMode) := fun item => do
  let fs ← Fields.read "OutputConfig" [.of "format" formatShape, .of "color" colourShape] item
  return (← fs.getD "format" formatShape .human, ← fs.getD "color" colourShape .auto)

def ofDocument (document : Entries) : Except ShapeError Config := do
  let fs ← Fields.read "Config" [.of "rewire" settingsShape, .of "rules" (.list ruleShape),
    .of "scopes" (.list scopeShape), .of "output" outputShape] (.table .header document)
  let s ← fs.get "rewire" settingsShape
  let (format, colour) ← fs.getD "output" outputShape (.human, .auto)
  return { version := s.version, root := s.root, extensions := s.extensions,
           excludedDirs := s.excludedDirs, gitignore := s.gitignore,
           rules := ← fs.getD "rules" (.list ruleShape) [],
           scopes := ← fs.getD "scopes" (.list scopeShape) [], format, colour }

/- Whether a location can be read is judged by what any glob may be, not by what locations are
taken for. -/
def scopeFault? (d : ScopeDef) : Option ConfigFault :=
  match Glob.build {} d.location with
  | .error e => some (.scopeGlob d.location (e.message d.location))
  | .ok _ => if d.rules.isEmpty then some (.emptyScope d.location) else none

def extensionFault? (extension : String) : Option ConfigFault :=
  if extension.toList.any Filter.isSlash then some (.extension extension) else none

def fault? (c : Config) : Option ConfigFault :=
  if c.version ≠ "1" then some (.version c.version)
  else if c.rules.isEmpty && c.scopes.all (·.rules.isEmpty) then some .noRules
  else (c.scopes.findSome? scopeFault?).or (c.extensions.findSome? extensionFault?)

def parse (text : String) : Except ConfigError Config :=
  match Toml.read text with
  | none => .error .malformed
  | some document =>
    match ofDocument document with
    | .error e => .error (.shape e)
    | .ok c =>
      match c.fault? with
      | some fault => .error (.invalid fault)
      | none => .ok c

def filter (c : Config) : Filter :=
  { Filter.ofLists c.extensions c.excludedDirs with gitignore := c.gitignore }

def ruleSet [Engine] (c : Config) : Except RuleError RuleSet := RuleSet.compile c.rules c.scopes

def rootFrom (c : Config) (dir : Path) : Path :=
  if c.root.isAbsolute then c.root else dir.join c.root

end Config

end Codemod
