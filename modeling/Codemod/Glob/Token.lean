/-!
Globs as they are written: `?` and `*` take what is not a slash, or anything, as the options say, `**`
between slashes crosses segments, brackets hold sets and braces choices, and a backslash takes the
next character as it is.
-/
namespace Codemod.Glob

inductive Token where
  | literal (c : Char)
  | any
  | star
  | leadingDirs
  | trailingDirs
  | innerDirs
  | set (negated : Bool) (ranges : List (Char × Char))
  | choice (branches : List (List Token))

/-- What a glob is taken for: whether `?` and `*` stay within a segment, and whether sets must be
closed. -/
structure Options where
  separated : Bool := false
  setsClosed : Bool := true
  deriving DecidableEq, Repr

inductive Error where
  | unclosedSet
  | invalidRange (lo hi : Char)
  | unclosedChoice
  | unopenedChoice
  | danglingEscape
  deriving DecidableEq, Repr

def Error.text : Error → String
  | .unclosedSet => "unclosed character class; missing ']'"
  | .invalidRange lo hi =>
    "invalid range; '" ++ String.singleton lo ++ "' > '" ++ String.singleton hi ++ "'"
  | .unclosedChoice =>
    "unclosed alternate group; missing '\x7d' (maybe escape '\x7b' with '[\x7b]'?)"
  | .unopenedChoice =>
    "unopened alternate group; missing '\x7b' (maybe escape '\x7d' with '[\x7d]'?)"
  | .danglingEscape => "dangling '\\'"

def Error.message (glob : String) (e : Error) : String :=
  "error parsing glob '" ++ glob ++ "': " ++ e.text

structure SetState where
  ranges : List (Char × Char) := []
  inRange : Bool := false

def SetState.close (s : SetState) : List (Char × Char) :=
  ((if s.inRange then [('-', '-')] else []) ++ s.ranges).reverse

def SetState.push (s : SetState) (c : Char) : Except Error SetState :=
  match s.ranges with
  | [] => .ok ⟨[(c, c)], false⟩
  | (lo, hi) :: rest =>
    if s.inRange then
      if c < lo then .error (.invalidRange lo c) else .ok ⟨(lo, c) :: rest, false⟩
    else if c = '-' then .ok ⟨(lo, hi) :: rest, true⟩
    else .ok ⟨(c, c) :: (lo, hi) :: rest, false⟩

/- A closing bracket in the first place stands for itself. -/
def readSet (s : SetState) : List Char → Except Error (List (Char × Char) × List Char)
  | [] => .error .unclosedSet
  | c :: rest =>
    if c = ']' && !s.ranges.isEmpty then .ok (s.close, rest)
    else do readSet (← s.push c) rest

def readSign : List Char → Bool × List Char
  | '!' :: rest => (true, rest)
  | '^' :: rest => (true, rest)
  | cs => (false, cs)

/-- What is being read: the tokens of the innermost branch, last first, and around it for each open
brace the finished branches and the tokens before the brace. -/
structure State where
  rest : List Char
  prev : Option Char := none
  tokens : List Token := []
  outer : List (List (List Token) × List Token) := []
  options : Options := {}

def State.push (s : State) (t : Token) (prev : Char) (rest : List Char) : State :=
  { s with tokens := t :: s.tokens, prev := some prev, rest := rest }

/- The star stands at `prev` behind `before`, and another follows it; `rest` is what comes after
both. -/
def State.twoStars (s : State) (rest : List Char) : State :=
  let plain := { s with tokens := .star :: .star :: s.tokens, prev := some '*', rest := rest }
  let atEnd : Bool := rest.isEmpty
  let atSlash : Bool := rest.head? = some '/'
  if s.tokens.isEmpty then
    if atEnd || atSlash then
      { s with
        tokens := [.leadingDirs], prev := some (if atSlash then '/' else '*'), rest := rest.drop 1 }
    else plain
  else
    let nested := !s.outer.isEmpty
    let behindSlash : Bool := s.prev = some '/'
    let behindSign : Bool := s.prev = some ',' || s.prev = some '\x7b'
    let beforeSign : Bool := rest.head? = some ',' || rest.head? = some '\x7d'
    if !behindSlash && (!nested || !behindSign) then plain
    else if atEnd || (nested && beforeSign) || atSlash then
      let trailing := !atSlash
      let tokens := match s.tokens with
        | .leadingDirs :: more => .leadingDirs :: more
        | .trailingDirs :: more => .trailingDirs :: more
        | _ :: more => (if trailing then .trailingDirs else .innerDirs) :: more
        | [] => []
      if atSlash then { s with tokens := tokens, prev := some '/', rest := rest.drop 1 }
      else { s with tokens := tokens, prev := some '*', rest := rest }
    else plain

def State.closeChoice (s : State) (rest : List Char) : Except Error State :=
  match s.outer with
  | [] => .error .unopenedChoice
  | (done, before) :: outer =>
    let branches := (s.tokens.reverse :: done).reverse
    .ok { s with
      tokens := .choice branches :: before, outer := outer, prev := some '\x7d', rest := rest }

def State.step (s : State) (c : Char) (rest : List Char) : Except Error State :=
  match c with
  | '?' => .ok (s.push .any c rest)
  | '*' => match rest with
    | '*' :: rest => .ok (s.twoStars rest)
    | _ => .ok (s.push .star c rest)
  | '[' =>
    let (negated, inner) := readSign rest
    match readSet {} inner with
    | .ok (ranges, after) => .ok (s.push (.set negated ranges) ']' after)
    | .error .unclosedSet =>
      if s.options.setsClosed then .error .unclosedSet else .ok (s.push (.literal '[') c rest)
    | .error e => .error e
  | '\x7b' => .ok { s with
      tokens := [], outer := ([], s.tokens) :: s.outer, prev := some c, rest := rest }
  | '\x7d' => s.closeChoice rest
  | ',' => match s.outer with
    | [] => .ok (s.push (.literal ',') c rest)
    | (done, before) :: outer => .ok { s with
        tokens := [], outer := (s.tokens.reverse :: done, before) :: outer, prev := some c,
        rest := rest }
  | '\\' => match rest with
    | [] => .error .danglingEscape
    | d :: rest => .ok (s.push (.literal d) d rest)
  | c => .ok (s.push (.literal c) c rest)

def State.steps : Nat → State → Except Error State
  | 0, s => .ok s
  | n + 1, s =>
    match s.rest with
    | [] => .ok s
    | c :: rest => do (← s.step c rest).steps n

def readTokens (options : Options) (cs : List Char) : Except Error (List Token) := do
  let s ← State.steps cs.length { rest := cs, options := options }
  if s.outer.isEmpty then .ok s.tokens.reverse else .error .unclosedChoice

end Codemod.Glob
