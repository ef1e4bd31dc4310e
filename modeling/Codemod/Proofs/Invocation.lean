import Codemod.CommandLine
import Mathlib.Data.List.Forall2
import Mathlib.Data.List.Perm.Basic

/-!
Command lines that write out an invocation, and how they are read. What an invocation says comes down
to settings, at most one for an option. A setting is written as one word; the words stand in any order
behind the command, and those that hold for every command also before it. Reading takes one word
after the other, so what has been read is the settings of the words so far.
-/
namespace Codemod

theorem digitsGrow (cs : List Char) (n : Nat) : n ≤ Nat.ofDigitChars 10 cs n := by
  induction cs generalizing n with
  | nil => simp
  | cons c rest ih =>
    rw [Nat.ofDigitChars_cons]
    exact Nat.le_trans (by omega) (ih _)

theorem readDigitsCons (n : Nat) (c : Char) (cs : List Char) :
    readDigits n (c :: cs) =
      if c.isDigit then
        if 10 * n + (c.toNat - '0'.toNat) < UInt64.size then
          readDigits (10 * n + (c.toNat - '0'.toNat)) cs
        else .error .overflow
      else .error .invalid := rfl

theorem readDigitsValue {cs : List Char} {n : Nat} (digits : ∀ c ∈ cs, c.isDigit = true)
    (fits : Nat.ofDigitChars 10 cs n < UInt64.size) :
    readDigits n cs = .ok (Nat.ofDigitChars 10 cs n) := by
  induction cs generalizing n with
  | nil => exact congrArg Except.ok Nat.ofDigitChars_nil.symm
  | cons c rest ih =>
    obtain ⟨first, later⟩ := List.forall_mem_cons.mp digits
    rw [Nat.ofDigitChars_cons] at fits ⊢
    rw [readDigitsCons, if_pos first, if_pos (Nat.lt_of_le_of_lt (digitsGrow rest _) fits)]
    exact ih later fits

def Numeral (n : Nat) (text : String) : Prop :=
  ∃ digits, (text.toList = digits ∨ text.toList = '+' :: digits) ∧ digits ≠ [] ∧
    (∀ c ∈ digits, c.isDigit = true) ∧ Nat.ofDigitChars 10 digits 0 = n

theorem readNumeral {n : Nat} {text : String} (numeral : Numeral n text) (fits : n < UInt64.size) :
    readNumber text.toList = .ok n := by
  obtain ⟨digits, spelled, filled, decimal, rfl⟩ := numeral
  have value := readDigitsValue decimal fits
  rcases spelled with plain | signed
  · obtain ⟨c, rest, rfl⟩ := List.exists_cons_of_ne_nil filled
    have unsigned : c ≠ '+' := by
      intro plus
      simpa [plus] using decimal c List.mem_cons_self
    rw [plain]
    unfold readNumber
    split
    · next same => exact absurd (List.cons.inj same).1 unsigned
    · simpa using value
  · rw [signed]
    unfold readNumber
    simpa [filled] using value

theorem numeralExists (n : Nat) : Numeral n (String.ofList (Nat.toDigits 10 n)) := by
  refine ⟨Nat.toDigits 10 n, .inl (by simp), Nat.toDigits_ne_nil, ?_, Nat.ofDigitChars_ten_toDigits⟩
  intro c member
  exact Nat.isDigit_of_mem_toDigits (by decide) (by decide) member

namespace CommandLine

inductive Setting where
  | config (path : Path)
  | root (path : Path)
  | format (format : Format)
  | jobs (n : Nat)
  | color (mode : ColourMode)
  | verbose
  | force
  deriving DecidableEq, Repr

namespace Setting

def opt : Setting → Opt
  | .config _ => .config
  | .root _ => .root
  | .format _ => .format
  | .jobs _ => .jobs
  | .color _ => .color
  | .verbose => .verbose
  | .force => .force

def General (s : Setting) : Prop := s.opt = .color ∨ s.opt = .verbose

def Sayable : Setting → Prop
  | .config path | .root path => path.text ≠ ""
  | .jobs n => n < UInt64.size
  | .format _ | .color _ | .verbose | .force => True

end Setting

inductive Says : String → Setting → Prop where
  | config (text : String) : Says ("--config=" ++ text) (.config ⟨text⟩)
  | root (text : String) : Says ("--root=" ++ text) (.root ⟨text⟩)
  | format (format : Format) : Says ("--format=" ++ format.name) (.format format)
  | jobs {n text} (numeral : Numeral n text) : Says ("--jobs=" ++ text) (.jobs n)
  | color (mode : ColourMode) : Says ("--color=" ++ mode.name) (.color mode)
  | verbose : Says "--verbose" .verbose
  | force : Says "--force" .force

theorem saysExists (s : Setting) : ∃ word, Says word s := by
  cases s with
  | config path => exact ⟨_, .config path.text⟩
  | root path => exact ⟨_, .root path.text⟩
  | format format => exact ⟨_, .format format⟩
  | jobs n => exact ⟨_, .jobs (numeralExists n)⟩
  | color mode => exact ⟨_, .color mode⟩
  | verbose => exact ⟨_, .verbose⟩
  | force => exact ⟨_, .force⟩

theorem linesExist (ss : List Setting) : ∃ words, List.Forall₂ Says words ss := by
  induction ss with
  | nil => exact ⟨[], .nil⟩
  | cons s rest ih =>
    obtain ⟨words, said⟩ := ih
    obtain ⟨word, first⟩ := saysExists s
    exact ⟨word :: words, .cons first said⟩

namespace Given

def set (g : Given) : Setting → Given
  | .config path => { g with config := some path }
  | .root path => { g with root := some path }
  | .format format => { g with format := some format }
  | .jobs n => { g with jobs := some n }
  | .color mode => { g with color := some mode }
  | .verbose => { g with verbose := true }
  | .force => { g with force := true }

def Holds (g : Given) : Setting → Prop
  | .config path => g.config = some path
  | .root path => g.root = some path
  | .format format => g.format = some format
  | .jobs n => g.jobs = some n
  | .color mode => g.color = some mode
  | .verbose => g.verbose = true
  | .force => g.force = true

theorem hasSet (g : Given) (s : Setting) (o : Opt) : (g.set s).has o = (g.has o || s.opt = o) := by
  cases s <;> cases o <;> simp [set, has, Setting.opt]

theorem holdsSet {g : Given} {s : Setting} (fresh : g.has s.opt = false) (t : Setting) :
    (g.set s).Holds t ↔ g.Holds t ∨ s = t := by
  cases s <;> cases t <;> simp_all [set, Holds, has, Setting.opt]

theorem stillFresh {g : Given} {s : Setting} {ss : List Setting} (new : s.opt ∉ ss.map Setting.opt)
    (fresh : ∀ t ∈ ss, g.has t.opt = false) : ∀ t ∈ ss, (g.set s).has t.opt = false := by
  intro t member
  have different : s.opt ≠ t.opt := fun same => new (same ▸ List.mem_map_of_mem member)
  simp [hasSet, fresh t member, different]

end Given

theorem pathRead {o : Opt} {text : String} (filled : text ≠ "") :
    pathValue o text = .ok ⟨text⟩ := by
  simp [pathValue, filled]

theorem formatRead (format : Format) :
    choiceValue .format Format.name Format.all format.name = .ok format := by
  cases format <;> rfl

theorem colourRead (mode : ColourMode) :
    choiceValue .color ColourMode.name ColourMode.all mode.name = .ok mode := by
  cases mode <;> rfl

theorem numberRead {o : Opt} {n : Nat} {text : String} (numeral : Numeral n text)
    (fits : n < UInt64.size) : numberValue o text = .ok n := by
  rw [numberValue, readNumeral numeral fits]

def Setting.ReadOff (value : String) : Setting → Prop
  | .config path => pathValue .config value = .ok path
  | .root path => pathValue .root value = .ok path
  | .format kind => choiceValue .format Format.name Format.all value = .ok kind
  | .jobs n => numberValue .jobs value = .ok n
  | .color mode => choiceValue .color ColourMode.name ColourMode.all value = .ok mode
  | .verbose | .force => True

theorem Given.putFresh {g : Given} {s : Setting} {value : String} (fresh : g.has s.opt = false)
    (read : s.ReadOff value) : g.put s.opt value = .ok (g.set s) := by
  unfold put
  rw [if_neg (by simp [fresh])]
  cases s with
  | config | root | format | jobs | color =>
    simp only [Setting.ReadOff] at read
    simp only [Setting.opt, read]
    rfl
  | verbose | force => rfl

theorem Says.reads {word : String} {s : Setting} (said : Says word s) (sayable : s.Sayable) :
    ∃ attached : Option String,
      word.toList = '-' :: '-' :: (s.opt.long.toList ++ attached.elim [] ('=' :: ·.toList)) ∧
        attached.isSome = s.opt.takesValue ∧ s.ReadOff (attached.getD "") := by
  cases said with
  | config text => exact ⟨some text, by simp [Setting.opt, Opt.long], rfl, pathRead sayable⟩
  | root text => exact ⟨some text, by simp [Setting.opt, Opt.long], rfl, pathRead sayable⟩
  | format format => exact ⟨some format.name, by simp [Setting.opt, Opt.long], rfl, formatRead format⟩
  | @jobs n text numeral =>
    exact ⟨some text, by simp [Setting.opt, Opt.long], rfl, numberRead numeral sayable⟩
  | color mode => exact ⟨some mode.name, by simp [Setting.opt, Opt.long], rfl, colourRead mode⟩
  | verbose => exact ⟨none, by simp [Setting.opt, Opt.long], rfl, trivial⟩
  | force => exact ⟨none, by simp [Setting.opt, Opt.long], rfl, trivial⟩

theorem longPlain (o : Opt) : ∀ c ∈ o.long.toList, (c != '=') = true := by
  cases o <;> simp [Opt.long]

theorem longInjective {o p : Opt} (same : o.long = p.long) : o = p := by
  cases o <;> cases p <;> simp_all [Opt.long]

theorem findLong {allowed : List Opt} {o : Opt} (may : o ∈ allowed) :
    allowed.find? (·.long == o.long) = some o := by
  induction allowed with
  | nil => simp at may
  | cons first rest ih =>
    by_cases same : first.long = o.long
    · rw [List.find?_cons_of_pos (by simp [same]), longInjective same]
    · have later : o ∈ rest := (List.mem_cons.mp may).resolve_left fun eq => same (eq ▸ rfl)
      rw [List.find?_cons_of_neg (by simp [same]), ih later]

namespace Scan

variable {allowed : List Opt} {commands : List String} {stray : Bool → String → UsageError}
  {word : String} {s : Setting} {g : Given}

theorem optionSaid {attached : Option String} (fresh : g.has s.opt = false)
    (valued : attached.isSome = s.opt.takesValue) (read : s.ReadOff (attached.getD "")) :
    Scan.option { given := g } s.opt attached = .ok { given := g.set s } := by
  have complete : (s.opt.takesValue && attached.isNone) = false := by
    cases attached <;> simp [← valued]
  simp only [option, settle, complete, bind, Except.bind, Given.putFresh fresh read]
  rfl

theorem longSaid {attached : Option String} (may : s.opt ∈ allowed) (fresh : g.has s.opt = false)
    (valued : attached.isSome = s.opt.takesValue) (read : s.ReadOff (attached.getD "")) :
    Scan.long allowed { given := g } (s.opt.long.toList ++ attached.elim [] ('=' :: ·.toList)) =
      .ok { given := g.set s } := by
  have taken := optionSaid fresh valued read
  unfold Scan.long
  rw [List.takeWhile_append_of_pos (longPlain _), List.dropWhile_append_of_pos (longPlain _)]
  cases attached with
  | none => simp [findLong may, taken]
  | some value =>
    have takes : s.opt.takesValue = true := valued.symm
    simp [findLong may, taken, takes]

theorem wordSaid (said : Says word s) (sayable : s.Sayable) (may : s.opt ∈ allowed)
    (fresh : g.has s.opt = false) (apart : ∀ name ∈ commands, name.toList.head? ≠ some '-')
    (rest : List String) :
    Scan.words allowed commands stray { given := g } (word :: rest) =
      Scan.words allowed commands stray { given := g.set s } rest := by
  obtain ⟨attached, spelled, valued, read⟩ := said.reads sayable
  have other : commands.contains word = false := by
    rw [List.contains_eq_mem, decide_eq_false_iff_not]
    intro member
    exact apart word member (by rw [spelled]; rfl)
  have taken := longSaid may fresh valued read
  -- Two dashes alone would be the end of the options, so it matters that no name is empty.
  have named : s.opt.long.toList ≠ [] := by
    cases s.opt <;> decide
  obtain ⟨c, cs, letters⟩ := List.exists_cons_of_ne_nil
    (List.append_ne_nil_of_left_ne_nil named (attached.elim [] ('=' :: ·.toList)))
  rw [letters] at spelled taken
  rw [Scan.words.eq_def]
  simp only [other, Bool.and_false, spelled, taken, bind, Except.bind]
  rfl

theorem wordsSaid {words : List String} {ss : List Setting} (said : List.Forall₂ Says words ss)
    (sayable : ∀ s ∈ ss, s.Sayable) (may : ∀ s ∈ ss, s.opt ∈ allowed)
    (once : (ss.map Setting.opt).Nodup) (fresh : ∀ s ∈ ss, g.has s.opt = false)
    (apart : ∀ name ∈ commands, name.toList.head? ≠ some '-') (rest : List String) :
    Scan.words allowed commands stray { given := g } (words ++ rest) =
      Scan.words allowed commands stray { given := ss.foldl Given.set g } rest := by
  induction said generalizing g with
  | nil => rfl
  | @cons word s words ss first later ih =>
    simp only [List.forall_mem_cons] at sayable may fresh
    obtain ⟨new, once⟩ := List.nodup_cons.mp once
    rw [List.cons_append, wordSaid first sayable.1 may.1 fresh.1 apart]
    exact ih sayable.2 may.2 once (Given.stillFresh new fresh.2)

end Scan

theorem Given.holdsAll {g : Given} {ss : List Setting} (once : (ss.map Setting.opt).Nodup)
    (fresh : ∀ s ∈ ss, g.has s.opt = false) (t : Setting) :
    (ss.foldl Given.set g).Holds t ↔ g.Holds t ∨ t ∈ ss := by
  induction ss generalizing g with
  | nil => simp
  | cons s rest ih =>
    obtain ⟨free, later⟩ := List.forall_mem_cons.mp fresh
    obtain ⟨new, once⟩ := List.nodup_cons.mp once
    rw [List.foldl_cons, ih once (stillFresh new later), holdsSet free, List.mem_cons, or_assoc,
      eq_comm]

theorem Given.nothingHas (s : Setting) : ({} : Given).has s.opt = false := by
  cases s <;> rfl

theorem Given.holdsSaid {ss : List Setting} (once : (ss.map Setting.opt).Nodup) (t : Setting) :
    (ss.foldl Given.set {}).Holds t ↔ t ∈ ss := by
  have nothing : ¬({} : Given).Holds t := by
    cases t <;> simp [Holds]
  rw [holdsAll once (fun s _ => nothingHas s), or_iff_right nothing]

theorem commandNamed (v : Verb) : commandNames.contains v.name = true := by
  cases v <;> decide

theorem verbNamed (v : Verb) : Verb.ofName? v.name = some v := by
  cases v <;> decide

theorem parseSaid {v : Verb} {before behind : List Setting} {lead trail : List String}
    (first : List.Forall₂ Says lead before) (later : List.Forall₂ Says trail behind)
    (sayable : ∀ s ∈ before ++ behind, s.Sayable) (leading : ∀ s ∈ before, s.opt ∈ leadingOptions)
    (may : ∀ s ∈ behind, s.opt ∈ v.options) (onceBefore : (before.map Setting.opt).Nodup)
    (onceBehind : (behind.map Setting.opt).Nodup) :
    parse (lead ++ v.name :: trail) =
      .ok (invocation (before.foldl Given.set {}) (behind.foldl Given.set {}) v) := by
  have dashless : ∀ name ∈ commandNames, name.toList.head? ≠ some '-' := by decide
  obtain ⟨sayableBefore, sayableBehind⟩ := List.forall_mem_append.mp sayable
  have front : Scan.words leadingOptions commandNames strayBeforeCommand {} (lead ++ v.name :: trail) =
      .ok ({ given := before.foldl Given.set {} }, some (v.name, trail)) := by
    rw [Scan.wordsSaid first sayableBefore leading onceBefore (fun s _ => Given.nothingHas s) dashless,
      Scan.words.eq_def]
    simp only [commandNamed, Scan.waiting?]
    rfl
  have back : Scan.words v.options [] strayBehindCommand {} (trail ++ []) =
      .ok ({ given := behind.foldl Given.set {} }, none) := by
    rw [Scan.wordsSaid later sayableBehind may onceBehind (fun s _ => Given.nothingHas s) (by simp),
      Scan.words.eq_def]
  rw [List.append_nil] at back
  simp only [parse, front, back, verbNamed, Scan.settle, bind, Except.bind]
  rfl

end CommandLine

open CommandLine

def RunOptions.settings (o : RunOptions) : List Setting :=
  .config o.config :: o.root.toList.map .root ++ o.format.toList.map .format ++ [.jobs o.jobs]

def Command.verb : Command → Verb
  | .apply _ => .apply
  | .check _ => .check
  | .init _ _ => .init
  | .list _ _ => .list

def Command.settings : Command → List Setting
  | .apply o | .check o => o.settings
  | .init config force => .config config :: if force then [.force] else []
  | .list config format => [.config config, .format format]

def Invocation.settings (i : Invocation) : List Setting :=
  i.command.settings ++ i.colour.toList.map .color ++ if i.verbose then [.verbose] else []

namespace CommandLine

def Verb.defaults : Verb → List Setting
  | .apply | .check => [.config ⟨"rewire.toml"⟩, .jobs 0]
  | .init => [.config ⟨"rewire.toml"⟩]
  | .list => [.config ⟨"rewire.toml"⟩, .format .human]

/-- The command lines that write out an invocation. Every setting is written once, in front of the
command or behind it, unless it goes without saying and is left out. -/
inductive Writes (i : Invocation) : List String → Prop where
  | line {before behind omitted : List Setting} {lead trail : List String}
      (all : (before ++ behind ++ omitted).Perm i.settings)
      (leading : ∀ s ∈ before, s.General)
      (unsaid : ∀ s ∈ omitted, s ∈ i.command.verb.defaults)
      (first : List.Forall₂ Says lead before) (later : List.Forall₂ Says trail behind) :
      Writes i (lead ++ i.command.verb.name :: trail)

theorem heldWithin {α : Type} (x : Option α) (mk : α → Setting) {o : Opt}
    (same : ∀ a, (mk a).opt = o) : ((x.toList.map mk).map Setting.opt).Sublist [o] := by
  cases x <;> simp [same]

theorem flagWithin (b : Bool) (s : Setting) :
    ((if b then [s] else []).map Setting.opt).Sublist [s.opt] := by
  cases b <;> simp

theorem runWithin (o : RunOptions) :
    (o.settings.map Setting.opt).Sublist [.config, .root, .format, .jobs] := by
  have middle := (heldWithin o.root .root fun _ => rfl).append
    (heldWithin o.format .format fun _ => rfl)
  simp only [RunOptions.settings, List.cons_append, List.map_cons, List.map_append]
  exact (middle.append_right [.jobs]).cons_cons .config

theorem settingsWithin (i : Invocation) :
    (i.settings.map Setting.opt).Sublist i.command.verb.options := by
  obtain ⟨command, colour, verbose⟩ := i
  have general := ((heldWithin colour .color fun _ => rfl).append (flagWithin verbose .verbose)).append
    (List.nil_sublist [Opt.help])
  rw [Invocation.settings, List.append_assoc, List.map_append, List.map_append]
  rw [List.append_nil] at general
  cases command with
  | apply o => exact (runWithin o).append general
  | check o => exact (runWithin o).append general
  | init config force => exact ((flagWithin force .force).cons_cons .config).append general
  | list config format => exact (List.Sublist.refl [Opt.config, Opt.format]).append general

theorem settingsOnce (i : Invocation) : (i.settings.map Setting.opt).Nodup := by
  refine (settingsWithin i).nodup ?_
  cases i.command.verb <;> decide

theorem settingsAllowed {i : Invocation} {s : Setting} (member : s ∈ i.settings) :
    s.opt ∈ i.command.verb.options :=
  (settingsWithin i).subset (List.mem_map_of_mem member)

variable {i : Invocation}

theorem memColour {mode : ColourMode} : .color mode ∈ i.settings ↔ i.colour = some mode := by
  have apart : Setting.color mode ∉ i.command.settings := by
    cases i.command <;> simp [Command.settings, RunOptions.settings]
  simp [Invocation.settings, apart]

theorem memVerbose : .verbose ∈ i.settings ↔ i.verbose = true := by
  have apart : Setting.verbose ∉ i.command.settings := by
    cases i.command <;> simp [Command.settings, RunOptions.settings]
  simp [Invocation.settings, apart]

theorem memCommand {s : Setting} (own : ¬s.General) :
    s ∈ i.settings ↔ s ∈ i.command.settings := by
  have colours : s ∉ i.colour.toList.map Setting.color := by
    intro member
    obtain ⟨mode, -, rfl⟩ := List.mem_map.mp member
    exact own (.inl rfl)
  have flags : s ∉ (if i.verbose then [Setting.verbose] else []) := by
    intro member
    obtain rfl : s = .verbose := by
      split at member <;> simp_all
    exact own (.inr rfl)
  rw [Invocation.settings, List.mem_append, List.mem_append, or_iff_left flags, or_iff_left colours]

structure Told (i : Invocation) (before behind : Given) : Prop where
  given : ∀ s, before.Holds s ∨ behind.Holds s → s ∈ i.settings
  leading : ∀ s, before.Holds s → s.General
  said : ∀ s ∈ i.settings, before.Holds s ∨ behind.Holds s ∨ s ∈ i.command.verb.defaults

structure Tells (c : Command) (g : Given) : Prop where
  given : ∀ s, ¬s.General → g.Holds s → s ∈ c.settings
  said : ∀ s ∈ c.settings, ¬s.General → g.Holds s ∨ s ∈ c.verb.defaults

namespace Tells

variable {c : Command} {o : RunOptions} {g : Given}

theorem plain (tells : Tells c g) {s : Setting} (own : ¬s.General) (spoken : s ∉ c.verb.defaults) :
    g.Holds s ↔ s ∈ c.settings :=
  ⟨tells.given s own, fun member => (tells.said s member own).resolve_right spoken⟩

theorem usual (tells : Tells c g) {α : Type} (mk : α → Setting) {field : Option α} {a d : α}
    (held : ∀ b, g.Holds (mk b) ↔ field = some b) (own : ∀ b, ¬(mk b).General)
    (only : ∀ b, mk b ∈ c.settings ↔ b = a) (unsaid : ∀ b, mk b ∈ c.verb.defaults → b = d) :
    field.getD d = a := by
  cases seen : field with
  | none =>
    rcases tells.said (mk a) ((only a).mpr rfl) (own a) with given | usual
    · rw [held, seen] at given
      contradiction
    · exact (unsaid a usual).symm
  | some b => exact (only b).mp (tells.given (mk b) (own b) ((held b).mpr seen))

theorem run (tells : Tells (.apply o) g) : runOptions g = o := by
  have config : g.config.getD defaultConfig = o.config :=
    tells.usual .config (fun _ => Iff.rfl) (by simp [Setting.General, Setting.opt])
      (by simp [Command.settings, RunOptions.settings])
      (by simp [Command.verb, Verb.defaults, defaultConfig])
  have jobs : g.jobs.getD 0 = o.jobs :=
    tells.usual .jobs (fun _ => Iff.rfl) (by simp [Setting.General, Setting.opt])
      (by simp [Command.settings, RunOptions.settings]) (by simp [Command.verb, Verb.defaults])
  have root : g.root = o.root := by
    ext path
    refine (tells.plain (s := .root path) ?_ ?_).trans ?_
    · simp [Setting.General, Setting.opt]
    · simp [Command.verb, Verb.defaults]
    · simp [Command.settings, RunOptions.settings]
  have format : g.format = o.format := by
    ext format
    refine (tells.plain (s := .format format) ?_ ?_).trans ?_
    · simp [Setting.General, Setting.opt]
    · simp [Command.verb, Verb.defaults]
    · simp [Command.settings, RunOptions.settings]
  rw [runOptions, config, jobs, root, format]

theorem commanded (tells : Tells c g) : command g c.verb = c := by
  cases c with
  | apply o => exact congrArg Command.apply tells.run
  | check o => exact congrArg Command.check (run ⟨tells.given, tells.said⟩)
  | init path force =>
    have config : g.config.getD defaultConfig = path :=
      tells.usual .config (fun _ => Iff.rfl) (by simp [Setting.General, Setting.opt])
        (by simp [Command.settings]) (by simp [Command.verb, Verb.defaults, defaultConfig])
    have forced : g.force = force := by
      rw [Bool.eq_iff_iff]
      refine (tells.plain (s := .force) ?_ ?_).trans ?_
      · simp [Setting.General, Setting.opt]
      · simp [Command.verb, Verb.defaults]
      · simp [Command.settings]
    rw [Command.verb, command, config, forced]
  | list path format =>
    have config : g.config.getD defaultConfig = path :=
      tells.usual .config (fun _ => Iff.rfl) (by simp [Setting.General, Setting.opt])
        (by simp [Command.settings]) (by simp [Command.verb, Verb.defaults, defaultConfig])
    have format : g.format.getD .human = format :=
      tells.usual .format (fun _ => Iff.rfl) (by simp [Setting.General, Setting.opt])
        (by simp [Command.settings]) (by simp [Command.verb, Verb.defaults])
    rw [Command.verb, command, config, format]

end Tells

theorem generalSaid {v : Verb} {s : Setting} (general : s.General) : s ∉ v.defaults := by
  cases v <;> cases s <;> simp_all [Setting.General, Setting.opt, Verb.defaults]

theorem generalLeads {s : Setting} (general : s.General) : s.opt ∈ leadingOptions := by
  rcases general with same | same <;> rw [same] <;> decide

namespace Told

variable {before behind : Given}

theorem tells (told : Told i before behind) : Tells i.command behind where
  given s own held := (memCommand own).mp (told.given s (.inr held))
  said s member own :=
    (told.said s ((memCommand own).mpr member)).resolve_left fun early => own (told.leading s early)

theorem colour (told : Told i before behind) : behind.color.or before.color = i.colour := by
  ext mode
  rw [← memColour, Option.or_eq_some_iff]
  constructor
  · intro held
    rcases held with late | ⟨-, early⟩
    · exact told.given (.color mode) (.inr late)
    · exact told.given (.color mode) (.inl early)
  · intro member
    rcases told.said _ member with early | late | unsaid
    · cases seen : behind.color with
      | none => exact .inr ⟨rfl, early⟩
      | some other =>
        -- Given on both sides of the command it is the same one, as the invocation has one.
        have also := memColour.mp (told.given (.color other) (.inr seen))
        exact .inl (also.symm.trans (memColour.mp member))
    · exact .inl late
    · exact absurd unsaid (generalSaid (.inl rfl))

theorem verbose (told : Told i before behind) : (before.verbose || behind.verbose) = i.verbose := by
  rw [Bool.eq_iff_iff, Bool.or_eq_true, ← memVerbose]
  constructor
  · exact told.given .verbose
  · intro member
    rcases told.said _ member with early | late | unsaid
    · exact .inl early
    · exact .inr late
    · exact absurd unsaid (generalSaid (.inr rfl))

theorem invoked (told : Told i before behind) : invocation before behind i.command.verb = i := by
  rw [invocation, told.tells.commanded, told.colour, told.verbose]

end Told

theorem toldOf {before behind omitted : List Setting}
    (all : (before ++ behind ++ omitted).Perm i.settings) (leading : ∀ s ∈ before, s.General)
    (unsaid : ∀ s ∈ omitted, s ∈ i.command.verb.defaults)
    (onceBefore : (before.map Setting.opt).Nodup) (onceBehind : (behind.map Setting.opt).Nodup) :
    Told i (before.foldl Given.set {}) (behind.foldl Given.set {}) := by
  have members : ∀ s, s ∈ i.settings ↔ s ∈ before ∨ s ∈ behind ∨ s ∈ omitted := by
    intro s
    rw [← all.mem_iff, List.append_assoc, List.mem_append, List.mem_append]
  constructor
  · intro s held
    rw [Given.holdsSaid onceBefore, Given.holdsSaid onceBehind] at held
    exact (members s).mpr (held.imp_right .inl)
  · intro s held
    exact leading s ((Given.holdsSaid onceBefore s).mp held)
  · intro s member
    rw [Given.holdsSaid onceBefore, Given.holdsSaid onceBehind]
    exact ((members s).mp member).imp_right (.imp_right (unsaid s))

/-- An invocation with paths that have a spelling and a number of 64 bits is read off every command
line that writes it out, and there are such command lines. -/
theorem parsesBack (i : Invocation) (sayable : ∀ s ∈ i.settings, s.Sayable) :
    (∃ args, Writes i args) ∧ ∀ args, Writes i args → parse args = .ok i := by
  refine ⟨?_, fun args written => ?_⟩
  · obtain ⟨words, said⟩ := linesExist i.settings
    have all : ([] ++ i.settings ++ []).Perm i.settings := by simp
    exact ⟨_, .line all (by simp) (by simp) .nil said⟩
  · obtain @⟨before, behind, omitted, lead, trail, all, leading, unsaid, first, later⟩ := written
    have once : ((before ++ behind ++ omitted).map Setting.opt).Nodup :=
      (all.map Setting.opt).nodup_iff.mpr (settingsOnce i)
    rw [List.map_append, List.map_append] at once
    obtain ⟨onceBefore, onceBehind, -⟩ := List.nodup_append.mp (List.nodup_append.mp once).1
    have within : ∀ s ∈ before ++ behind, s ∈ i.settings := fun s member =>
      all.mem_iff.mp (List.mem_append_left _ member)
    have parsed := parseSaid first later (fun s member => sayable s (within s member))
      (fun s member => generalLeads (leading s member))
      (fun s member => settingsAllowed (within s (List.mem_append_right _ member)))
      onceBefore onceBehind
    rw [parsed, (toldOf all leading unsaid onceBefore onceBehind).invoked]

def disguised : Invocation :=
  { command := .apply
      { config := ⟨"rewire.toml"⟩, root := some ⟨"--config=check"⟩, format := none,
        jobs := 18446744073709551615 }
    colour := some .never
    verbose := true }

theorem parsesBackDisguised :
    (∀ s ∈ disguised.settings, s.Sayable) ∧
      parse ["--verbose", "apply", "--jobs=+018446744073709551615", "--color=never",
        "--root=--config=check"] = .ok disguised := by
  have sayable : ∀ s ∈ disguised.settings, s.Sayable := by
    simp [disguised, Invocation.settings, Command.settings, RunOptions.settings, Setting.Sayable,
      UInt64.size]
  have numeral : Numeral 18446744073709551615 "+018446744073709551615" :=
    ⟨"018446744073709551615".toList, .inr (by decide), by decide, by simp, by decide⟩
  have all : ([Setting.verbose] ++
      [Setting.jobs 18446744073709551615, Setting.color .never, Setting.root ⟨"--config=check"⟩] ++
      [Setting.config ⟨"rewire.toml"⟩]).Perm disguised.settings := by decide
  have later : List.Forall₂ Says
      ["--jobs=+018446744073709551615", "--color=never", "--root=--config=check"]
      [.jobs 18446744073709551615, .color .never, .root ⟨"--config=check"⟩] :=
    .cons (by simpa using Says.jobs numeral)
      (.cons (by simpa [ColourMode.name] using Says.color .never)
        (.cons (by simpa using Says.root "--config=check") .nil))
  have written : Writes disguised _ :=
    .line all (by simp [Setting.General, Setting.opt])
      (by simp [disguised, Command.verb, Verb.defaults]) (.cons .verbose .nil) later
  exact ⟨sayable, (parsesBack disguised sayable).2 _ written⟩

end CommandLine

end Codemod
