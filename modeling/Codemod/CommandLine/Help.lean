import Codemod.CommandLine.Option

/-! What the program says about itself. -/
namespace Codemod.CommandLine

def about : String := "Rewrite import paths and call sites across a source tree"

def versionText : String := "rewire 0.1.0\n"

def Verb.about : Verb → String
  | .apply => "Rewrite matching files in place"
  | .check => "Report files that would change without writing them"
  | .init => "Create a starter configuration file"
  | .list => "List compiled rules in application order"

def Opt.about : Opt → String
  | .config => "Configuration file"
  | .root => "Directory to migrate (overrides `root` in the configuration file)"
  | .format => "Output format (overrides the configuration file)"
  | .jobs => "Worker threads; 1 processes files sequentially, 0 uses every core"
  | .color => "Output coloring (overrides the configuration file)"
  | .verbose => "Log every file and list unchanged files"
  | .force => "Overwrite an existing file"
  | .help => "Print help"
  | .version => "Print version"

def padded (width : Nat) (text : String) : String :=
  text ++ String.ofList (List.replicate (width - text.length) ' ')

def Opt.helpLine (o : Opt) : String :=
  let short := match o.short? with
    | some c => String.ofList ['-', c, ',', ' ']
    | none => "    "
  "  " ++ padded 26 (short ++ o.label) ++ o.about ++ "\n"

def Verb.helpText (v : Verb) : String :=
  v.name ++ ": " ++ v.about ++ "\n" ++ String.join (v.options.map Opt.helpLine)

def helpText : String :=
  about ++ "\n\nUsage: rewire [OPTIONS] <COMMAND>\n\n" ++
    "\n".intercalate (Verb.all.map Verb.helpText) ++
    "\nOptions:\n" ++ String.join (leadingOptions.map Opt.helpLine)

end Codemod.CommandLine
