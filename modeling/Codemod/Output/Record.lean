/-!
Records: flat JSON objects, one to a line, written without blanks and with the fields in their order.
-/
namespace Codemod.Output

inductive Scalar where
  | text (s : String)
  | number (n : Nat)
  | flag (b : Bool)
  deriving DecidableEq, Repr

abbrev Record := List (String × Scalar)

def hexChar (n : Nat) : Char := if n < 10 then Char.ofNat (48 + n) else Char.ofNat (87 + n)

def escapeChar (c : Char) : List Char :=
  if c = '"' then ['\\', '"']
  else if c = '\\' then ['\\', '\\']
  else if c = '\x08' then ['\\', 'b']
  else if c = '\x0c' then ['\\', 'f']
  else if c = '\n' then ['\\', 'n']
  else if c = '\r' then ['\\', 'r']
  else if c = '\t' then ['\\', 't']
  else if c.toNat < 32 then ['\\', 'u', '0', '0', hexChar (c.toNat / 16), hexChar (c.toNat % 16)]
  else [c]

def quote (cs : List Char) : List Char := '"' :: cs.flatMap escapeChar ++ ['"']

def Scalar.write : Scalar → List Char
  | .text s => quote s.toList
  | .number n => (toString n).toList
  | .flag true => "true".toList
  | .flag false => "false".toList

def writeField (field : String × Scalar) : List Char :=
  quote field.1.toList ++ ':' :: field.2.write

def writeFields : Record → List Char
  | [] => []
  | [field] => writeField field
  | field :: rest => writeField field ++ ',' :: writeFields rest

def Record.write (r : Record) : List Char := '\x7b' :: writeFields r ++ ['\x7d']

def writeLines (records : List Record) : String :=
  String.ofList (records.flatMap fun r => Record.write r ++ ['\n'])

end Codemod.Output
