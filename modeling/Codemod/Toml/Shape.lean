import Codemod.Character.Lookup
import Codemod.Toml.Item

/-!
Taking a document apart. Every reader here expects one kind of item; the first item of another kind
ends the reading. The entries of a table are read in the order of the document, and only then are
missing ones looked for.
-/
namespace Codemod.Toml

inductive ShapeError where
  | missingField (name : String)
  | unknownField (name : String) (known : List String)
  | wrongType (found wanted : String)
  | tooShort (length : Nat) (wanted : String)
  | unknownVariant (name : String) (known : List String)
  | notVariant
  | noVariant
  | manyVariants
  | variantNotTable (found : String)
  | variantNotEmpty
  deriving DecidableEq, Repr

def oneOf : List String → String
  | [] => "there are no choices"
  | [a] => s!"expected `{a}`"
  | [a, b] => s!"expected `{a}` or `{b}`"
  | names => "expected one of " ++ ", ".intercalate (names.map fun a => s!"`{a}`")

def ShapeError.message : ShapeError → String
  | .missingField name => s!"missing field `{name}`"
  | .unknownField name known => s!"unknown field `{name}`, " ++ oneOf known
  | .wrongType found wanted => s!"invalid type: {found}, expected {wanted}"
  | .tooShort length wanted => s!"invalid length {length}, expected {wanted}"
  | .unknownVariant name known => s!"unknown variant `{name}`, " ++ oneOf known
  | .notVariant => "wanted string or table"
  | .noVariant => "wanted exactly 1 element, found 0 elements"
  | .manyVariants => "wanted exactly 1 element, more than 1 element"
  | .variantNotTable found => s!"expected table, found {found}"
  | .variantNotEmpty => "expected empty table"

def hidden : CharSet :=
  CharSet.unions [(CharSet.single ' ').compl.inter
      (Character.category ["cc", "cf", "co", "zl", "zp", "zs"]),
    Character.assigned.compl, Character.graphemeExtend]

def shownChar (c : Char) : String :=
  if c = '"' then "\\\""
  else if c = '\\' then "\\\\"
  else if c = '\n' then "\\n"
  else if c = '\r' then "\\r"
  else if c = '\t' then "\\t"
  else if c = '\x00' then "\\0"
  else if ' ' ≤ c && c ≤ '~' then c.toString
  else if hidden.contains c then "\\u\x7b" ++ String.ofList (Nat.toDigits 16 c.toNat) ++ "\x7d"
  else c.toString

def shownText (s : String) : String := "\"" ++ String.join (s.toList.map shownChar) ++ "\""

def Real.shown : Real → String
  | .finite d => d.text
  | .infinite false => "inf"
  | .infinite true => "-inf"
  | .nan => "NaN"

def Item.shown : Item → String
  | .scalar (.string s) => "string " ++ shownText s
  | .scalar (.integer n) => s!"integer `{n}`"
  | .scalar (.real x) => "floating point `" ++ x.shown ++ "`"
  | .scalar (.boolean b) => s!"boolean `{b}`"
  | .scalar .moment => "map"
  | .array _ => "sequence"
  | .table _ _ => "map"
  | .tables _ => "sequence"

abbrev Shape (α : Type) := Item → Except ShapeError α

def Shape.text (wanted : String) : Shape String
  | .scalar (.string s) => .ok s
  | item => .error (.wrongType item.shown wanted)

def Shape.string : Shape String := .text "a string"

def Shape.boolean : Shape Bool
  | .scalar (.boolean b) => .ok b
  | item => .error (.wrongType item.shown "a boolean")

def Item.elements? : Item → Option (List Item)
  | .array items => some items
  | .tables elements => some (elements.map (.table .header ·))
  | _ => none

def Shape.list {α : Type} (shape : Shape α) : Shape (List α) := fun item =>
  match item.elements? with
  | some items => items.mapM shape
  | none => .error (.wrongType item.shown "a sequence")

/-- The entry as which a date or a time appears where a table is wanted. -/
def momentKey : String := "$__toml_private_datetime"

def Item.entries? : Item → Option Entries
  | .table _ entries => some entries
  | .scalar .moment => some [(momentKey, .scalar (.string ""))]
  | _ => none

/-- A record as it stands in a document: with named entries, or as an array in the order of its
fields. -/
structure Fields where
  record : String
  names : List String
  entries : Entries
  positional : Bool

structure Field where
  name : String
  check : Item → Except ShapeError Unit

def Field.of {α : Type} (name : String) (shape : Shape α) : Field :=
  ⟨name, fun item => (shape item).map fun _ => ()⟩

def checkEntries (fields : List Field) : Entries → Except ShapeError Unit
  | [] => .ok ()
  | (key, item) :: rest =>
    match fields.find? (·.name == key) with
    | none => .error (.unknownField key (fields.map (·.name)))
    | some field => do
      field.check item
      checkEntries fields rest

def Fields.read (record : String) (fields : List Field) : Shape Fields := fun item =>
  let names := fields.map (·.name)
  match item.elements?, item.entries? with
  | some items, _ => do
    let entries := names.zip items
    checkEntries fields entries
    .ok ⟨record, names, entries, true⟩
  | none, some entries => do
    checkEntries fields entries
    .ok ⟨record, names, entries, false⟩
  | none, none => .error (.wrongType item.shown ("struct " ++ record))

def Fields.getD {α : Type} (fs : Fields) (name : String) (shape : Shape α) (default : α) :
    Except ShapeError α :=
  match fs.entries.get? name with
  | some item => shape item
  | none => .ok default

def Fields.get {α : Type} (fs : Fields) (name : String) (shape : Shape α) : Except ShapeError α :=
  match fs.entries.get? name with
  | some item => shape item
  | none =>
    if fs.positional then
      .error (.tooShort (fs.names.findIdx (· == name))
        s!"struct {fs.record} with {fs.names.length} elements")
    else .error (.missingField name)

def variantNamed {α : Type} (name : α → String) (all : List α) (text : String) :
    Except ShapeError α :=
  match all.find? (fun a => name a == text) with
  | some a => .ok a
  | none => .error (.unknownVariant text (all.map name))

def Shape.variant {α : Type} (name : α → String) (all : List α) : Shape α
  | .scalar (.string s) => variantNamed name all s
  | .table _ [] => .error .noVariant
  | .table _ [(key, inner)] => do
    let a ← variantNamed name all key
    match inner with
    | .table _ [] => .ok a
    | .table _ _ => .error .variantNotEmpty
    | item => .error (.variantNotTable item.kind)
  | .table _ _ => .error .manyVariants
  | _ => .error .notVariant

end Codemod.Toml
