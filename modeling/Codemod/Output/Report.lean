import Codemod.Output.Record
import Codemod.Report

/-! Reports in print: for people, in colour or without, and as records. -/
namespace Codemod.Output

inductive Colour where
  | red
  | green
  | yellow
  deriving DecidableEq, Repr

def Colour.code : Colour → String
  | .red => "1"
  | .green => "2"
  | .yellow => "3"

def label (coloured : Bool) (colour : Colour) (text : String) : String :=
  if coloured then "\x1b[0m\x1b[1m\x1b[3" ++ colour.code ++ "m" ++ text ++ ":\x1b[0m"
  else text ++ ":"

def plural (n : Nat) (one many : String) : String := if n = 1 then one else many

def humanLine (coloured verbose dryRun : Bool) (o : FileOutcome) : String :=
  match o.outcome with
  | .changed n _ =>
    (if dryRun then label coloured .yellow "Would update" else label coloured .green "Updated")
      ++ s!" {o.relative.text} ({n} " ++ plural n "replacement" "replacements" ++ ")\n"
  | .failed e => label coloured .red "Error" ++ s!" {o.relative.text}: {e.message}\n"
  | .unchanged => if verbose then s!"Unchanged {o.relative.text}\n" else ""

def summaryLine (r : Report) : String :=
  let verb := if r.dryRun then "would change" else "changed"
  s!"Scanned {r.scanned} " ++ plural r.scanned "file" "files" ++
    s!": {r.changed} {verb}, {r.unchanged} unchanged, {r.errors} " ++
    plural r.errors "error" "errors" ++ "\n"

def human (coloured verbose : Bool) (r : Report) : String :=
  String.join (r.outcomes.map (humanLine coloured verbose r.dryRun))
    ++ (if r.scanned = 0 then "" else "\n") ++ summaryLine r

def fileRecord (o : FileOutcome) : Record :=
  let head (status : String) (n : Nat) (written : Bool) : Record :=
    [("type", .text "file"), ("path", .text o.relative.text), ("status", .text status),
      ("replacements", .number n), ("written", .flag written)]
  match o.outcome with
  | .unchanged => head "unchanged" 0 false
  | .changed n written => head "changed" n written
  | .failed e =>
    head "error" 0 false ++ [("error_kind", .text e.kind), ("message", .text e.message)]

def summaryRecord (r : Report) : Record :=
  [("type", .text "summary"), ("scanned", .number r.scanned), ("changed", .number r.changed),
    ("unchanged", .number r.unchanged), ("errors", .number r.errors), ("dry_run", .flag r.dryRun)]

def jsonl (r : Report) : String := writeLines (r.outcomes.map fileRecord ++ [summaryRecord r])

end Codemod.Output
