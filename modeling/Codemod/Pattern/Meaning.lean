import Codemod.Character.Family
import Codemod.Pattern.Expr
import Codemod.Pattern.Reader

/-!
From the tree of a pattern to its meaning. Flags in force are handed from part to part; a group
keeps its own. Outside Unicode mode classes hold bytes, and those above 127 are refused, since no
text of characters could match them.
-/
namespace Codemod.Pattern

structure Flags where
  caseInsensitive : Bool := false
  multiLine : Bool := false
  dotAll : Bool := false
  swapGreed : Bool := false
  unicode : Bool := true
  crlf : Bool := false
  deriving DecidableEq, Repr

def Flags.apply (fs : Flags) (items : List FlagItem) : Flags where
  caseInsensitive := (flagState .caseInsensitive true items).getD fs.caseInsensitive
  multiLine := (flagState .multiLine true items).getD fs.multiLine
  dotAll := (flagState .dotAll true items).getD fs.dotAll
  swapGreed := (flagState .swapGreed true items).getD fs.swapGreed
  unicode := (flagState .unicode true items).getD fs.unicode
  crlf := (flagState .crlf true items).getD fs.crlf

def byteSet : CharSet := ⟨[⟨0, 255⟩]⟩

def Ascii.members : Ascii → CharSet
  | .alnum => ⟨[⟨48, 57⟩, ⟨65, 90⟩, ⟨97, 122⟩]⟩
  | .alpha => ⟨[⟨65, 90⟩, ⟨97, 122⟩]⟩
  | .ascii => ⟨[⟨0, 127⟩]⟩
  | .blank => ⟨[⟨9, 9⟩, ⟨32, 32⟩]⟩
  | .cntrl => ⟨[⟨0, 31⟩, ⟨127, 127⟩]⟩
  | .digit => ⟨[⟨48, 57⟩]⟩
  | .graph => ⟨[⟨33, 126⟩]⟩
  | .lower => ⟨[⟨97, 122⟩]⟩
  | .print => ⟨[⟨32, 126⟩]⟩
  | .punct => ⟨[⟨33, 47⟩, ⟨58, 64⟩, ⟨91, 96⟩, ⟨123, 126⟩]⟩
  | .space => ⟨[⟨9, 13⟩, ⟨32, 32⟩]⟩
  | .upper => ⟨[⟨65, 90⟩]⟩
  | .word => ⟨[⟨48, 57⟩, ⟨65, 90⟩, ⟨95, 95⟩, ⟨97, 122⟩]⟩
  | .xdigit => ⟨[⟨48, 57⟩, ⟨65, 70⟩, ⟨97, 102⟩]⟩

def Shorthand.members (unicode : Bool) : Shorthand → CharSet
  | .digit => if unicode then Character.digit else Ascii.members .digit
  | .space => if unicode then Character.space else Ascii.members .space
  | .word => if unicode then Character.word else Ascii.members .word

namespace Flags

def compl (fs : Flags) (s : CharSet) : CharSet :=
  if fs.unicode then s.compl else byteSet.diff s

def closeCase (fs : Flags) (s : CharSet) : CharSet :=
  if fs.caseInsensitive then
    if fs.unicode then Character.closeCase s else Character.closeAsciiCase s
  else s

def check (fs : Flags) (s : CharSet) : Except Error CharSet :=
  if fs.unicode || s.isAscii then .ok s else .error .invalidText

def classSet (fs : Flags) (negated : Bool) (s : CharSet) : Except Error CharSet :=
  let s := fs.closeCase s
  fs.check (if negated then fs.compl s else s)

def shorthand (fs : Flags) (s : Shorthand) (negated : Bool) : Except Error CharSet :=
  let members := s.members fs.unicode
  fs.check (if negated then fs.compl members else members)

def property (fs : Flags) (p : Property) (negated : Bool) : Except Error CharSet :=
  if fs.unicode then
    let found := match p with
      | .named name => Character.named name
      | .valued property value => Character.valued property value
    match found with
    | .ok s => fs.classSet negated s
    | .error .property => .error .propertyUnknown
    | .error .value => .error .propertyValueUnknown
  else .error .unicodeForbidden

def checkLiteral (fs : Flags) (l : Literal) : Except Error Char :=
  if !fs.unicode && l.isByte && 128 ≤ l.char.toNat then .error .invalidText else .ok l.char

def bracketLiteral (fs : Flags) (l : Literal) : Except Error Char := do
  let c ← fs.checkLiteral l
  if fs.unicode || c.toNat < 128 then .ok c else .error .unicodeForbidden

def operate (fs : Flags) (kind : SetOp) (a b : CharSet) : CharSet :=
  let a := fs.closeCase a
  let b := fs.closeCase b
  match kind with
  | .inter => a.inter b
  | .diff => a.diff b
  | .symmDiff => a.symmDiff b

mutual

def bracket (fs : Flags) : Bracket → Except Error CharSet
  | .literal l => do .ok (CharSet.single (← fs.bracketLiteral l))
  | .range lo hi => do .ok (CharSet.range (← fs.bracketLiteral lo) (← fs.bracketLiteral hi))
  | .ascii name negated => fs.classSet negated name.members
  | .property p negated => fs.property p negated
  | .shorthand s negated => fs.shorthand s negated
  | .nested negated body => do fs.classSet negated (← fs.bracket body)
  | .union items => do .ok (CharSet.unions (← fs.brackets items))
  | .op kind left right => do .ok (fs.operate kind (← fs.bracket left) (← fs.bracket right))

def brackets (fs : Flags) : List Bracket → Except Error (List CharSet)
  | [] => .ok []
  | b :: rest => do .ok ((← fs.bracket b) :: (← fs.brackets rest))

end

def literal (fs : Flags) (l : Literal) : Except Error Expr := do
  let c ← fs.checkLiteral l
  if fs.caseInsensitive then .ok (Expr.ofSet (fs.closeCase (CharSet.single c)))
  else .ok (.text [c])

def dot (fs : Flags) : Except Error Expr :=
  if !fs.unicode then .error .invalidText
  else if fs.dotAll then .ok (.set CharSet.all)
  else if fs.crlf then .ok (.set ((CharSet.single '\n').union (CharSet.single '\r')).compl)
  else .ok (.set (CharSet.single '\n').compl)

def assertion (fs : Flags) : Assertion → Look
  | .lineStart =>
    if fs.multiLine then if fs.crlf then .lineStartCrlf else .lineStart else .textStart
  | .lineEnd => if fs.multiLine then if fs.crlf then .lineEndCrlf else .lineEnd else .textEnd
  | .textStart => .textStart
  | .textEnd => .textEnd
  | .boundary => .boundary fs.unicode
  | .notBoundary => .notBoundary fs.unicode
  | .wordStart => .wordStart fs.unicode
  | .wordEnd => .wordEnd fs.unicode
  | .wordStartHalf => .wordStartHalf fs.unicode
  | .wordEndHalf => .wordEndHalf fs.unicode

end Flags

mutual

def Tree.meaning (fs : Flags) : Tree → Except Error (Expr × Flags)
  | .empty => .ok (.empty, fs)
  | .flags items => .ok (.empty, fs.apply items)
  | .literal l => do .ok (← fs.literal l, fs)
  | .dot => do .ok (← fs.dot, fs)
  | .assertion a => .ok (.look (fs.assertion a), fs)
  | .property p negated => do .ok (Expr.ofSet (← fs.property p negated), fs)
  | .shorthand s negated => do .ok (Expr.ofSet (← fs.shorthand s negated), fs)
  | .bracket negated body => do .ok (Expr.ofSet (← fs.classSet negated (← fs.bracket body)), fs)
  | .repeated t lo hi greedy => do
    let (e, fs) ← t.meaning fs
    .ok (e.times lo hi (greedy != fs.swapGreed), fs)
  | .group (.capture index name) t => do
    let (e, _) ← t.meaning fs
    .ok (.group index name e, fs)
  | .group (.flags items) t => do
    let (e, _) ← t.meaning (fs.apply items)
    .ok (e, fs)
  | .choice ts => do
    let (es, fs) ← Tree.meanings fs ts
    .ok (Expr.choose es, fs)
  | .sequence ts => do
    let (es, fs) ← Tree.meanings fs ts
    .ok (Expr.concat es, fs)

def Tree.meanings (fs : Flags) : List Tree → Except Error (List Expr × Flags)
  | [] => .ok ([], fs)
  | t :: rest => do
    let (e, fs) ← t.meaning fs
    let (es, fs) ← Tree.meanings fs rest
    .ok (e :: es, fs)

end

def Expr.read (pattern : List Char) : Except Error Expr := do
  let t ← Tree.read pattern
  let (e, _) ← t.meaning {}
  .ok e

end Codemod.Pattern
