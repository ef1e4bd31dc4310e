import Codemod.Character.Lookup
import Codemod.Glob
import Codemod.Path

/-!
Ignore files. A line is a glob; the last line that fits a path decides, and a line behind an
exclamation mark keeps what it fits. A glob with a slash in it is meant from the directory of the
file, any other fits at every depth, and one that ends in a slash fits directories only.
-/
namespace Codemod.Ignore

structure Rule where
  keeps : Bool
  dirsOnly : Bool
  glob : List Glob.Token

def trimEnd (cs : List Char) : List Char := (cs.reverse.dropWhile Character.space.contains).reverse

def endsWith (cs tail : List Char) : Bool := tail.isSuffixOf cs

def marks : List Char → Bool × Bool × List Char
  | '\\' :: '!' :: cs => (false, false, '!' :: cs)
  | '\\' :: '#' :: cs => (false, false, '#' :: cs)
  | '!' :: '/' :: cs => (true, true, cs)
  | '!' :: cs => (true, false, cs)
  | '/' :: cs => (false, true, cs)
  | cs => (false, false, cs)

def dirMark (cs : List Char) : Bool × List Char :=
  match cs.reverse with
  | '/' :: '\\' :: rest => (true, rest.reverse)
  | '/' :: rest => (true, rest.reverse)
  | _ => (false, cs)

/-- The glob of a line: one without a slash fits at any depth, and one that ends in `/**` fits only
what is inside. -/
def globText (bound : Bool) (cs : List Char) : List Char :=
  let anywhere := !bound && !cs.contains '/' && cs != ['*', '*']
  let cs := if anywhere then '*' :: '*' :: '/' :: cs else cs
  if endsWith cs ['/', '*', '*'] then cs ++ ['/', '*'] else cs

/-- A line as far as it counts, and the rule that it stands for. Comments and blank lines do not
count. -/
def parseLine (line : List Char) : Option (List Char × Except Glob.Error Rule) :=
  if line.head? = some '#' then none
  else
    let line := if endsWith line ['\\', ' '] then line else trimEnd line
    if line.isEmpty then none
    else
      let (keeps, bound, cs) := marks line
      let (dirsOnly, cs) := dirMark cs
      let glob := Glob.readTokens { separated := true, setsClosed := false } (globText bound cs)
      some (line, glob.map fun glob => ⟨keeps, dirsOnly, glob⟩)

def readLine (line : List Char) : Option Rule := (parseLine line).bind fun (_, rule) => rule.toOption

def lineFault? (line : List Char) : Option String :=
  match parseLine line with
  | some (line, .error e) => some (e.message (String.ofList line))
  | _ => none

def linesFrom (done : Bytes) : Bytes → List Bytes
  | [] => if done.isEmpty then [] else [done.reverse]
  | 10 :: rest =>
    let line := match done with
      | 13 :: done => done
      | done => done
    line.reverse :: linesFrom [] rest
  | b :: rest => linesFrom (b :: done) rest

def textLines : List Bytes → List (List Char)
  | [] => []
  | line :: rest =>
    match Utf8.decode line with
    | .ok cs => cs :: textLines rest
    | .error _ => []

def dropMarks : List (List Char) → List (List Char)
  | line :: rest => line.dropWhile (· = '\ufeff') :: rest
  | [] => []

/-- What is wrong with the lines of a file. That some line is no text does not count by itself. -/
def faults (file : Path) (content : Bytes) : List String :=
  let lines := linesFrom [] content
  let texts := textLines lines
  let told (n : Nat) (fault : String) : String := s!"{file.text}: line {n}: {fault}"
  let globs := (dropMarks texts).zipIdx.filterMap fun (line, i) => (lineFault? line).map (told (i + 1))
  if globs.isEmpty || texts.length = lines.length then globs
  else globs ++ [told (texts.length + 1) "stream did not contain valid UTF-8"]

structure RuleFile where
  dir : List Char
  rules : List Rule

def undotted : List Char → List Char
  | '.' :: '/' :: cs => cs
  | cs => cs

def RuleFile.read (dir : Path) (content : Bytes) : RuleFile :=
  ⟨undotted dir.text.toList, (dropMarks (textLines (linesFrom [] content))).filterMap readLine⟩

def RuleFile.relative (f : RuleFile) (path : List Char) : List Char :=
  let path := undotted path
  if Path.componentsOf f.dir = [.here] || !path.contains '/' then path
  else if f.dir.isPrefixOf path then
    match path.drop f.dir.length with
    | '/' :: rest => rest
    | rest => rest
  else path

def RuleFile.verdict? (f : RuleFile) (path : List Char) (isDir : Bool) : Option Bool :=
  let bytes := bytesOf (f.relative path)
  let fits (r : Rule) : Bool := (!r.dirsOnly || isDir) && Glob.matchesBytes true r.glob bytes
  (f.rules.reverse.find? fits).map fun r => !r.keeps

structure Level where
  own : RuleFile
  apart : RuleFile

/-- Whether a path is ignored. Of all directories above it the nearest that says anything decides;
what is kept apart counts only if no other file says anything. -/
def ignores (levels : List Level) (path : Path) (isDir : Bool) : Bool :=
  let cs := undotted path.text.toList
  ((levels.findSome? fun l => l.own.verdict? cs isDir).or
    (levels.findSome? fun l => l.apart.verdict? cs isDir)).getD false

end Codemod.Ignore
