import Codemod.Path
import Codemod.RuleSet
import Codemod.Toml.Shape

/-!
What can go wrong. Failures of the configuration, the rules or the discovery end a run before any
file is written; failures of single files are recorded and the run goes on.
-/
namespace Codemod

inductive IoError where
  | notFound
  | notDirectory
  | isDirectory
  | denied
  | noSpace
  | busy
  | tooManyLinks
  | nameTooLong
  | nulInPath
  | notText
  | other (message : String)
  deriving DecidableEq, Repr

def IoError.message : IoError → String
  | .notFound => "No such file or directory (os error 2)"
  | .notDirectory => "Not a directory (os error 20)"
  | .isDirectory => "Is a directory (os error 21)"
  | .denied => "Permission denied (os error 13)"
  | .noSpace => "No space left on device (os error 28)"
  | .busy => "Device or resource busy (os error 16)"
  | .tooManyLinks => "Too many levels of symbolic links (os error 40)"
  | .nameTooLong => "File name too long (os error 36)"
  | .nulInPath => "file name contained an unexpected NUL byte"
  | .notText => "stream did not contain valid UTF-8"
  | .other message => message

inductive ConfigFault where
  | version (found : String)
  | noRules
  | scopeGlob (location : String) (reason : String)
  | emptyScope (location : String)
  | extension (text : String)
  | other (message : String)
  deriving DecidableEq, Repr

def ConfigFault.message : ConfigFault → String
  | .version found => s!"Unsupported configuration version '{found}'. Expected '1'"
  | .noRules => "No rules configured. Add [[rules]] or [[scopes]] entries to rewire.toml."
  | .scopeGlob location reason => s!"Invalid scope location glob '{location}': {reason}"
  | .emptyScope location => s!"Scope '{location}' has no rules"
  | .extension text => s!"Invalid extension '{text}': extensions cannot contain path separators"
  | .other message => message

inductive ConfigError where
  | io (e : IoError)
  | missing (path : Path)
  | malformed
  | shape (e : Toml.ShapeError)
  | invalid (fault : ConfigFault)
  deriving DecidableEq, Repr

def ConfigError.message : ConfigError → String
  | .io e => "I/O error: " ++ e.message
  | .missing path => s!"I/O error: {path.text} not found. Run 'rewire init' to create it."
  | .malformed => "Invalid configuration syntax: TOML parse error"
  | .shape e => "Invalid configuration syntax: TOML parse error\n" ++ e.message
  | .invalid fault => "Invalid configuration: " ++ fault.message

inductive DiscoveryError where
  | rootNotFound (root : Path)
  | rootNotDirectory (root : Path)
  | rootUnreadable (root : Path) (e : IoError)
  | walk (path : Option Path) (message : String)
  deriving DecidableEq, Repr

def DiscoveryError.message : DiscoveryError → String
  | .rootNotFound root => "Root directory not found: " ++ root.text
  | .rootNotDirectory root => "Root is not a directory: " ++ root.text
  | .rootUnreadable root e => s!"Root directory is not readable: {root.text}: {e.message}"
  | .walk _ message => "Walk error: " ++ message

inductive FileError where
  | read (e : IoError)
  | decode (offset : Nat)
  | write (e : IoError)
  | discovery (message : String)
  deriving DecidableEq, Repr

def FileError.kind : FileError → String
  | .read _ => "read"
  | .decode _ => "decode"
  | .write _ => "write"
  | .discovery _ => "discovery"

def FileError.message : FileError → String
  | .read e => "read failed: " ++ e.message
  | .decode offset => s!"not valid UTF-8 (invalid byte sequence at offset {offset})"
  | .write e => "write failed: " ++ e.message
  | .discovery message => "discovery failed: " ++ message

inductive Failure where
  | config (e : ConfigError)
  | rule (e : RuleError)
  | discovery (e : DiscoveryError)
  | io (e : IoError)
  deriving DecidableEq, Repr

def Failure.message : Failure → String
  | .config e => "Configuration error: " ++ e.message
  | .rule e => "Rule error: " ++ e.message
  | .discovery e => "Discovery error: " ++ e.message
  | .io e => "I/O error: " ++ e.message

end Codemod
