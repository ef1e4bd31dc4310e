import Codemod.Character.Lookup
import Codemod.Pattern.Tree

/-!
Reading a pattern. Groups and brackets are kept on a stack, so that the first thing wrong in the
text, from left to right, is the error that is reported; what is left open is reported at the end.
-/
namespace Codemod.Pattern

def isBlank (c : Char) : Bool := Character.space.contains c

def skipFrom (inComment : Bool) : List Char → List Char
  | [] => []
  | c :: rest =>
    if inComment then skipFrom (c != '\n') rest
    else if isBlank c then skipFrom false rest
    else if c = '#' then skipFrom true rest
    else c :: rest

def skip (verbose : Bool) (cs : List Char) : List Char :=
  if verbose then skipFrom false cs else cs

def runFrom (p : Char → Bool) (verbose inComment : Bool) : List Char → List Char × List Char
  | [] => ([], [])
  | c :: rest =>
    if inComment then runFrom p verbose (c != '\n') rest
    else if verbose && isBlank c then runFrom p verbose false rest
    else if verbose && c = '#' then runFrom p verbose true rest
    else if p c then
      let (run, after) := runFrom p verbose false rest
      (c :: run, after)
    else ([], c :: rest)

def run (p : Char → Bool) (verbose : Bool) (cs : List Char) : List Char × List Char :=
  runFrom p verbose false cs

def isMeta (c : Char) : Bool :=
  ['\\', '.', '+', '*', '?', '(', ')', '|', '[', ']', '\x7b', '\x7d', '^', '$', '#', '&', '-',
    '~'].contains c

def isEscapable (c : Char) : Bool :=
  isMeta c || (c.toNat < 128 && !c.isAlphanum && c != '<' && c != '>')

def escape : List Char → List Char
  | [] => []
  | c :: rest => if isMeta c then '\\' :: c :: escape rest else c :: escape rest

def isHex (c : Char) : Bool := c.isDigit || ('a' ≤ c && c ≤ 'f') || ('A' ≤ c && c ≤ 'F')

def charOf? (n : Nat) : Option Char := if n.isValidChar then some (Char.ofNat n) else none

def hexChar (digits : List Char) : Except Error Char :=
  match charOf? (Character.hexNumber digits) with
  | some c => .ok c
  | none => .error .hexInvalid

def hexDigits (verbose : Bool) : Nat → List Char → Except Error (List Char × List Char)
  | 0, cs => .ok ([], cs)
  | _ + 1, [] => .error .escapeEnd
  | n + 1, c :: rest =>
    if isHex c then do
      let (digits, after) ← hexDigits verbose n (skip verbose rest)
      .ok (c :: digits, after)
    else .error .hexDigit

def readHex (verbose : Bool) (width : Nat) (cs : List Char) :
    Except Error (Literal × List Char) :=
  match skip verbose cs with
  | [] => .error .escapeEnd
  | c :: rest =>
    if c = '\x7b' then
      let (digits, after) := run (· != '\x7d') verbose rest
      if digits.any (!isHex ·) then .error .hexDigit
      else match after with
        | [] => .error .escapeEnd
        | _ :: after =>
          if digits.isEmpty then .error .hexEmpty
          else do .ok (⟨← hexChar digits, false⟩, after)
    else do
      let (digits, after) ← hexDigits verbose width (c :: rest)
      .ok (⟨← hexChar digits, width == 2⟩, after)

def splitAt? (sign : List Char) : List Char → Option (List Char × List Char)
  | [] => none
  | c :: rest =>
    if sign.isPrefixOf (c :: rest) then some ([], (c :: rest).drop sign.length)
    else (splitAt? sign rest).map fun (a, b) => (c :: a, b)

def propertyOf (name : List Char) : Property :=
  match splitAt? ['!', '='] name <|> splitAt? [':'] name <|> splitAt? ['='] name with
  | some (property, value) => .valued (String.ofList property) (String.ofList value)
  | none => .named (String.ofList name)

def readProperty (verbose negated : Bool) (cs : List Char) : Except Error (Tree × List Char) :=
  match skip verbose cs with
  | [] => .error .escapeEnd
  | c :: rest =>
    if c = '\x7b' then
      match run (· != '\x7d') verbose rest with
      | (_, []) => .error .escapeEnd
      | (name, _ :: after) => .ok (.property (propertyOf name) negated, after)
    else if c = '\\' then .error .propertyLetter
    else .ok (.property (.named (String.singleton c)) negated, rest)

def isBoundaryChar (c : Char) : Bool := c.isAlpha || c = '-'

/- A word boundary may be followed by its kind in braces; braces around anything else are left for
a repetition. -/
def readBoundary (verbose : Bool) (cs : List Char) : Except Error (Tree × List Char) :=
  match cs with
  | '\x7b' :: rest =>
    match skip verbose rest with
    | [] => .error .boundaryEnd
    | c :: inner =>
      if isBoundaryChar c then
        let (name, after) := run isBoundaryChar verbose (c :: inner)
        match after with
        | '\x7d' :: after =>
          match String.ofList name with
          | "start" => .ok (.assertion .wordStart, after)
          | "end" => .ok (.assertion .wordEnd, after)
          | "start-half" => .ok (.assertion .wordStartHalf, after)
          | "end-half" => .ok (.assertion .wordEndHalf, after)
          | _ => .error .boundaryUnknown
        | _ => .error .boundaryUnclosed
      else .ok (.assertion .boundary, cs)
  | _ => .ok (.assertion .boundary, cs)

def readEscape (verbose : Bool) : List Char → Except Error (Tree × List Char)
  | [] => .error .escapeEnd
  | c :: rest =>
    if c.isDigit then .error .backreference
    else if c = 'x' then do let (l, after) ← readHex verbose 2 rest; .ok (.literal l, after)
    else if c = 'u' then do let (l, after) ← readHex verbose 4 rest; .ok (.literal l, after)
    else if c = 'U' then do let (l, after) ← readHex verbose 8 rest; .ok (.literal l, after)
    else if c = 'p' then readProperty verbose false rest
    else if c = 'P' then readProperty verbose true rest
    else if isEscapable c then .ok (.literal ⟨c, false⟩, rest)
    else match c with
      | 'd' => .ok (.shorthand .digit false, rest)
      | 's' => .ok (.shorthand .space false, rest)
      | 'w' => .ok (.shorthand .word false, rest)
      | 'D' => .ok (.shorthand .digit true, rest)
      | 'S' => .ok (.shorthand .space true, rest)
      | 'W' => .ok (.shorthand .word true, rest)
      | 'a' => .ok (.literal ⟨'\x07', false⟩, rest)
      | 'f' => .ok (.literal ⟨'\x0c', false⟩, rest)
      | 't' => .ok (.literal ⟨'\t', false⟩, rest)
      | 'n' => .ok (.literal ⟨'\n', false⟩, rest)
      | 'r' => .ok (.literal ⟨'\r', false⟩, rest)
      | 'v' => .ok (.literal ⟨'\x0b', false⟩, rest)
      | 'A' => .ok (.assertion .textStart, rest)
      | 'z' => .ok (.assertion .textEnd, rest)
      | 'b' => readBoundary verbose rest
      | 'B' => .ok (.assertion .notBoundary, rest)
      | '<' => .ok (.assertion .wordStart, rest)
      | '>' => .ok (.assertion .wordEnd, rest)
      | _ => .error .escapeUnknown

/-! Brackets. -/

def asciiClass? : String → Option Ascii
  | "alnum" => some .alnum
  | "alpha" => some .alpha
  | "ascii" => some .ascii
  | "blank" => some .blank
  | "cntrl" => some .cntrl
  | "digit" => some .digit
  | "graph" => some .graph
  | "lower" => some .lower
  | "print" => some .print
  | "punct" => some .punct
  | "space" => some .space
  | "upper" => some .upper
  | "word" => some .word
  | "xdigit" => some .xdigit
  | _ => none

def readAscii? (cs : List Char) : Option (Bracket × List Char) :=
  match cs with
  | ':' :: rest =>
    let (negated, rest) := match rest with
      | '^' :: more => (true, more)
      | _ => (false, rest)
    let name := rest.takeWhile (· != ':')
    match rest.dropWhile (· != ':') with
    | ':' :: ']' :: after => (asciiClass? (String.ofList name)).map fun a => (.ascii a negated, after)
    | _ => none
  | _ => none

/-- Brackets that are open: the items before an inner bracket with the sign of that bracket, or a
set operation with its left side. -/
inductive BracketFrame where
  | opened (before : List Bracket) (negated : Bool)
  | op (kind : SetOp) (left : Bracket)

def leadingHyphens (verbose : Bool) : Nat → List Char → List Bracket × List Char
  | 0, cs => ([], cs)
  | n + 1, '-' :: rest =>
    let (items, after) := leadingHyphens verbose n (skip verbose rest)
    (.literal ⟨'-', false⟩ :: items, after)
  | _ + 1, cs => ([], cs)

def openBracket (verbose : Bool) (cs : List Char) :
    Except Error (Bool × List Bracket × List Char) :=
  let cs := skip verbose cs
  let (negated, cs) := match cs with
    | '^' :: rest => (true, skip verbose rest)
    | _ => (false, cs)
  let (hyphens, cs) := leadingHyphens verbose cs.length cs
  let (items, cs) := match hyphens, cs with
    | [], ']' :: rest => ([Bracket.literal ⟨']', false⟩], skip verbose rest)
    | _, _ => (hyphens.reverse, cs)
  if cs.isEmpty then .error .classUnclosed else .ok (negated, items, cs)

def itemOf : Tree → Except Error Bracket
  | .literal l => .ok (.literal l)
  | .property p negated => .ok (.property p negated)
  | .shorthand s negated => .ok (.shorthand s negated)
  | _ => .error .classEscape

def literalOf : Tree → Except Error Literal
  | .literal l => .ok l
  | _ => .error .classRangeLiteral

def readItem (verbose : Bool) : List Char → Except Error (Tree × List Char)
  | [] => .error .classUnclosed
  | '\\' :: rest => readEscape verbose rest
  | c :: rest => .ok (.literal ⟨c, false⟩, rest)

/- The next character behind a hyphen: in a verbose pattern, the first that is no blank, where only
the sign of a comment is passed over and not its text. -/
def behindHyphen (verbose : Bool) (cs : List Char) : Option Char :=
  if verbose then
    match cs.dropWhile isBlank with
    | [] => cs.head?
    | '#' :: rest => match rest.dropWhile isBlank with
      | [] => cs.head?
      | c :: _ => some c
    | c :: _ => some c
  else cs.head?

def readRange (verbose : Bool) (cs : List Char) : Except Error (Bracket × List Char) := do
  let (first, after) ← readItem verbose cs
  match skip verbose after with
  | [] => .error .classUnclosed
  | '-' :: rest =>
    let ahead := behindHyphen verbose rest
    if ahead = some ']' || ahead = some '-' then .ok (← itemOf first, '-' :: rest)
    else match skip verbose rest with
      | [] => .error .classUnclosed
      | more =>
        let (second, after) ← readItem verbose more
        let lo ← literalOf first
        let hi ← literalOf second
        if lo.char ≤ hi.char then .ok (.range lo hi, after) else .error .classRange
  | after => .ok (← itemOf first, after)

def closeOp (frames : List BracketFrame) (right : Bracket) : Bracket × List BracketFrame :=
  match frames with
  | .op kind left :: rest => (.op kind left right, rest)
  | _ => (right, frames)

def readBrackets (verbose : Bool) : Nat → List BracketFrame → List Bracket → List Char →
    Except Error (Tree × List Char)
  | 0, _, _, _ => .error .classUnclosed
  | n + 1, frames, items, cs =>
    let operate (kind : SetOp) (rest : List Char) :=
      let (left, frames) := closeOp frames (Bracket.ofItems items.reverse)
      readBrackets verbose n (.op kind left :: frames) [] rest
    match skip verbose cs with
    | [] => .error .classUnclosed
    | '[' :: rest =>
      match readAscii? rest with
      | some (item, after) => readBrackets verbose n frames (item :: items) after
      | none => do
        let (negated, inner, after) ← openBracket verbose rest
        readBrackets verbose n (.opened items negated :: frames) inner after
    | ']' :: rest =>
      let (body, frames) := closeOp frames (Bracket.ofItems items.reverse)
      match frames with
      | .opened before negated :: outer =>
        if outer.isEmpty then .ok (.bracket negated body, rest)
        else readBrackets verbose n outer (.nested negated body :: before) rest
      | _ => .error .classUnclosed
    | '&' :: '&' :: rest => operate .inter rest
    | '-' :: '-' :: rest => operate .diff rest
    | '~' :: '~' :: rest => operate .symmDiff rest
    | more => do
      let (item, after) ← readRange verbose more
      readBrackets verbose n frames (item :: items) after

def readBracket (verbose : Bool) (cs : List Char) : Except Error (Tree × List Char) := do
  let (negated, items, after) ← openBracket verbose cs
  readBrackets verbose (after.length + 1) [.opened [] negated] items after

/-! Repetition counts. -/

def readDecimal (verbose : Bool) (cs : List Char) : Except Error Nat × List Char :=
  let (digits, after) := run Char.isDigit verbose (cs.dropWhile isBlank)
  let after := after.dropWhile isBlank
  let n := digits.foldl (fun n c => 10 * n + (c.toNat - '0'.toNat)) 0
  (if digits.isEmpty then .error .countEmpty
    else if n < UInt32.size then .ok n else .error .decimalInvalid, after)

def readCount (verbose : Bool) (cs : List Char) :
    Except Error (Nat × Option Nat × List Char) :=
  match skip verbose cs with
  | [] => .error .countUnclosed
  | cs =>
    let (first, after) := readDecimal verbose cs
    match after with
    | [] => .error .countUnclosed
    | ',' :: rest =>
      match skip verbose rest with
      | [] => .error .countUnclosed
      | '\x7d' :: after => do .ok (← first, none, after)
      | more => do
        let lo ← first
        let (second, after) := readDecimal verbose more
        let hi ← second
        match after with
        | '\x7d' :: after => .ok (lo, some hi, after)
        | _ => .error .countUnclosed
    | after => do
      let n ← first
      match after with
      | '\x7d' :: after => .ok (n, some n, after)
      | _ => .error .countUnclosed

/-! Groups. -/

def flagOf? : Char → Option Flag
  | 'i' => some .caseInsensitive
  | 'm' => some .multiLine
  | 's' => some .dotAll
  | 'U' => some .swapGreed
  | 'u' => some .unicode
  | 'R' => some .crlf
  | 'x' => some .verbose
  | _ => none

def readFlags (seen : List FlagItem) : List Char → Except Error (List FlagItem × Char × List Char)
  | [] => .error .flagEnd
  | c :: rest =>
    if c = ':' || c = ')' then
      if seen.head? = some .negation then .error .flagDangling else .ok (seen.reverse, c, rest)
    else if c = '-' then
      if seen.contains .negation then .error .flagNegatedTwice
      else readFlags (.negation :: seen) rest
    else match flagOf? c with
      | none => .error .flagUnknown
      | some f =>
        if seen.contains (.flag f) then .error .flagDuplicate else readFlags (.flag f :: seen) rest

def isNameStart (c : Char) : Bool := c = '_' || Character.alphabetic.contains c

def isNameChar (c : Char) : Bool :=
  c = '_' || c = '.' || c = '[' || c = ']' || Character.alphanumeric.contains c

def readNameRest : List Char → Except Error (List Char × List Char)
  | [] => .error .nameEnd
  | c :: rest =>
    if c = '>' then .ok ([], rest)
    else if isNameChar c then do
      let (name, after) ← readNameRest rest
      .ok (c :: name, after)
    else .error .nameInvalid

def readName : List Char → Except Error (String × List Char)
  | [] => .error .nameEnd
  | c :: rest =>
    if c = '>' then .error .nameEmpty
    else if isNameStart c then do
      let (name, after) ← readNameRest rest
      .ok (String.ofList (c :: name), after)
    else .error .nameInvalid

/-- What is open around the place that is being read: a group with the parts before it and the
mode to go back to, or the finished parts of a choice, last first. -/
inductive Frame where
  | group (before : List Tree) (kind : GroupKind) (verbose : Bool)
  | choice (done : List Tree)

structure State where
  rest : List Char
  parts : List Tree := []
  frames : List Frame := []
  verbose : Bool := false
  groups : Nat := 0
  names : List String := []

def State.sequence (s : State) : Tree := Tree.ofParts s.parts.reverse

def State.openGroup (s : State) (kind : GroupKind) (after : List Char) : State :=
  let verbose := match kind with
    | .flags items => (flagState .verbose true items).getD s.verbose
    | .capture _ _ => s.verbose
  { s with
    rest := after, parts := [], verbose := verbose,
    frames := .group s.parts kind s.verbose :: s.frames }

def State.openNamed (s : State) (cs : List Char) : Except Error State := do
  let (name, after) ← readName cs
  if s.names.contains name then .error .nameDuplicate
  else
    let index := s.groups + 1
    .ok ({ s with groups := index, names := name :: s.names }.openGroup
      (.capture index (some name)) after)

def State.readGroup (s : State) (cs : List Char) : Except Error State :=
  match skip s.verbose cs with
  | '?' :: '=' :: _ | '?' :: '!' :: _ => .error .lookAround
  | '?' :: '<' :: '=' :: _ | '?' :: '<' :: '!' :: _ => .error .lookAround
  | '?' :: 'P' :: '<' :: rest => s.openNamed rest
  | '?' :: '<' :: rest => s.openNamed rest
  | '?' :: [] => .error .groupUnclosed
  | '?' :: rest => do
    let (items, close, after) ← readFlags [] rest
    if close = ')' then
      if items.isEmpty then .error .repetitionMissing
      else .ok { s with
        rest := after, parts := .flags items :: s.parts,
        verbose := (flagState .verbose true items).getD s.verbose }
    else .ok (s.openGroup (.flags items) after)
  | rest => .ok ({ s with groups := s.groups + 1 }.openGroup (.capture (s.groups + 1) none) rest)

def State.closeGroup (s : State) (after : List Char) : Except Error State :=
  let close (body : Tree) (before : List Tree) (kind : GroupKind) (verbose : Bool)
      (outer : List Frame) : State :=
    { s with
      rest := after, parts := .group kind body :: before, frames := outer, verbose := verbose }
  match s.frames with
  | .group before kind verbose :: outer => .ok (close s.sequence before kind verbose outer)
  | .choice done :: .group before kind verbose :: outer =>
    .ok (close (Tree.ofChoices (s.sequence :: done).reverse) before kind verbose outer)
  | _ => .error .groupUnopened

def State.nextChoice (s : State) (after : List Char) : State :=
  match s.frames with
  | .choice done :: outer =>
    { s with rest := after, parts := [], frames := .choice (s.sequence :: done) :: outer }
  | frames => { s with rest := after, parts := [], frames := .choice [s.sequence] :: frames }

def State.repeatable (s : State) : Except Error (Tree × List Tree) :=
  match s.parts with
  | [] => .error .repetitionMissing
  | .empty :: _ | .flags _ :: _ => .error .repetitionMissing
  | t :: before => .ok (t, before)

def lazyMark : List Char → Bool × List Char
  | '?' :: rest => (false, rest)
  | cs => (true, cs)

def State.repeatSign (s : State) (lo : Nat) (hi : Option Nat) (after : List Char) :
    Except Error State := do
  let (t, before) ← s.repeatable
  let (greedy, after) := lazyMark after
  .ok { s with rest := after, parts := .repeated t lo hi greedy :: before }

def State.repeatCount (s : State) (cs : List Char) : Except Error State := do
  let (t, before) ← s.repeatable
  let (lo, hi, after) ← readCount s.verbose cs
  let (greedy, after) := lazyMark (skip s.verbose after)
  if hi.any (· < lo) then .error .countOrder
  else .ok { s with rest := after, parts := .repeated t lo hi greedy :: before }

def State.push (s : State) (t : Tree) (after : List Char) : State :=
  { s with rest := after, parts := t :: s.parts }

def State.step (s : State) (c : Char) (rest : List Char) : Except Error State :=
  match c with
  | '(' => s.readGroup rest
  | ')' => s.closeGroup rest
  | '|' => .ok (s.nextChoice rest)
  | '[' => do let (t, after) ← readBracket s.verbose rest; .ok (s.push t after)
  | '?' => s.repeatSign 0 (some 1) rest
  | '*' => s.repeatSign 0 none rest
  | '+' => s.repeatSign 1 none rest
  | '\x7b' => s.repeatCount rest
  | '\\' => do let (t, after) ← readEscape s.verbose rest; .ok (s.push t after)
  | '.' => .ok (s.push .dot rest)
  | '^' => .ok (s.push (.assertion .lineStart) rest)
  | '$' => .ok (s.push (.assertion .lineEnd) rest)
  | c => .ok (s.push (.literal ⟨c, false⟩) rest)

/- Every step takes a character at least, so that the length of the text bounds their number. -/
def State.steps : Nat → State → Except Error State
  | 0, s => .ok s
  | n + 1, s =>
    match skip s.verbose s.rest with
    | [] => .ok s
    | c :: rest => do (← s.step c rest).steps n

def State.finish (s : State) : Except Error Tree :=
  match s.frames with
  | [] => .ok s.sequence
  | [.choice done] => .ok (.choice (s.sequence :: done).reverse)
  | _ => .error .groupUnclosed

def Tree.read (cs : List Char) : Except Error Tree := do
  let s ← State.steps (cs.length + 1) { rest := cs }
  let t ← s.finish
  if nestLimit < t.depth then .error .nesting else .ok t

end Codemod.Pattern
