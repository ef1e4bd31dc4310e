/-! The choices a user has about output. -/
namespace Codemod

inductive Format where
  | human
  | jsonl
  deriving DecidableEq, Repr

def Format.name : Format → String
  | .human => "human"
  | .jsonl => "jsonl"

def Format.all : List Format := [.human, .jsonl]

inductive ColourMode where
  | auto
  | always
  | never
  deriving DecidableEq, Repr

def ColourMode.name : ColourMode → String
  | .auto => "auto"
  | .always => "always"
  | .never => "never"

def ColourMode.all : List ColourMode := [.auto, .always, .never]

end Codemod
