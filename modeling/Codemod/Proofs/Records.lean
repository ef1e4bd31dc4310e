import Codemod.Output.Report
import Codemod.Proofs.Json
import Codemod.Proofs.Report
import Mathlib.Data.List.Forall2

/-!
What is read back from records. Every character that is written inside quotes is read as itself, and
none of them is a control character, so that a record stays on its line. A reader of JSON that knows
nothing of the writer finds in each line the fields of a record, and in a report all its outcomes.
-/
namespace Codemod

namespace Json

open Output

theorem hexDigitOf (n : Nat) (small : n < 16) : hexDigit? (hexChar n) = some n := by
  revert n
  decide

theorem readCharEscape (c : Char) (rest : List Char) :
    readChar (escapeChar c ++ rest) = some (c, rest) ∧ (escapeChar c ++ rest).head? ≠ some '"' := by
  unfold escapeChar
  -- the characters with an escape of their own
  iterate 7
    split
    · next same => simp [readChar, readEscape, same]
  split
  · next small =>
    have high := hexDigitOf (c.toNat / 16) (by omega)
    have low := hexDigitOf (c.toNat % 16) (by omega)
    have unit : readUnit ('0' :: '0' :: hexChar (c.toNat / 16) :: hexChar (c.toNat % 16) :: rest) =
        some (c.toNat, rest) := by
      have whole : 256 * (16 * 0 + 0) + (16 * (c.toNat / 16) + c.toNat % 16) = c.toNat := by omega
      simp only [readUnit, show hexDigit? '0' = some 0 by decide, high, low, bind, Option.bind, whole]
    have plain : c.toNat < 0xD800 := by omega
    simp [readChar, readEscape, readUnicode, unit, plain]
  · next quote slash _ _ _ _ _ visible => simp [readChar, quote, slash, visible]

theorem readQuotedText {cs : List Char} {n : Nat} (enough : cs.length < n) (rest : List Char) :
    readQuoted n (cs.flatMap escapeChar ++ '"' :: rest) = some (cs, rest) := by
  induction cs generalizing n with
  | nil =>
    cases n with
    | zero => simp at enough
    | succ n => simp [readQuoted]
  | cons c more ih =>
    cases n with
    | zero => simp at enough
    | succ n =>
      obtain ⟨first, inside⟩ := readCharEscape c (more.flatMap escapeChar ++ '"' :: rest)
      have others := ih (by simpa using enough : more.length < n)
      rw [List.flatMap_cons, List.append_assoc, readQuoted, if_neg inside, first]
      simp [others]

theorem escapeLength (c : Char) : 0 < (escapeChar c).length := by
  unfold escapeChar
  repeat' split
  all_goals simp

theorem readTextQuoted (s : String) (rest : List Char) :
    readText (s.toList.flatMap escapeChar ++ '"' :: rest) = some (s, rest) := by
  have long : ∀ cs : List Char, cs.length ≤ (cs.flatMap escapeChar).length := by
    intro cs
    induction cs with
    | nil => simp
    | cons c more ih =>
      have one := escapeLength c
      simp only [List.flatMap_cons, List.length_append, List.length_cons]
      omega
  have enough : s.toList.length < (s.toList.flatMap escapeChar ++ '"' :: rest).length := by
    have written := long s.toList
    rw [List.length_append, List.length_cons]
    omega
  rw [readText, readQuotedText enough]
  simp

theorem toDigitsHead {n : Nat} (positive : 0 < n) : (Nat.toDigits 10 n).head? ≠ some '0' := by
  induction n using Nat.strongRecOn with
  | ind n ih =>
    rw [Nat.toDigits_eq_if (by decide)]
    split
    · next small =>
      have each : ∀ k < 10, 0 < k → k.digitChar ≠ '0' := by decide
      simpa using each n small positive
    · next large =>
      have above := ih (n / 10) (by omega) (by omega)
      cases digits : Nat.toDigits 10 (n / 10) with
      | nil => exact absurd digits Nat.toDigits_ne_nil
      | cons c more => simpa [digits] using above

theorem digitsPlain (n : Nat) :
    ((Nat.toDigits 10 n).head? = some '0' && 1 < (Nat.toDigits 10 n).length) = false := by
  by_cases small : n < 10
  · simp [Nat.toDigits_of_lt_base small]
  · simp [toDigitsHead (by omega : 0 < n)]

def Closes (c : Char) : Prop := c = ',' ∨ c = '\x7d'

theorem readMagnitudeNatural {c : Char} (closes : Closes c) (n : Nat) (rest : List Char) :
    readMagnitude false (Nat.toDigits 10 n ++ c :: rest) = some (⟨false, n, 0⟩, c :: rest) := by
  have digits : ∀ d ∈ Nat.toDigits 10 n, d.isDigit = true := fun d mem =>
    Nat.isDigit_of_mem_toDigits (by decide) (by decide) mem
  have stops : c.isDigit = false := by rcases closes with rfl | rfl <;> decide
  have front : (Nat.toDigits 10 n ++ c :: rest).takeWhile Char.isDigit = Nat.toDigits 10 n := by
    rw [List.takeWhile_append_of_pos digits]
    simp [stops]
  have behind : (Nat.toDigits 10 n ++ c :: rest).dropWhile Char.isDigit = c :: rest := by
    rw [List.dropWhile_append_of_pos digits]
    simp [stops]
  have fraction : readFraction (c :: rest) = some ([], c :: rest) := by
    rcases closes with rfl | rfl <;> rfl
  have power : readExponent (c :: rest) = some (0, c :: rest) := by
    rcases closes with rfl | rfl <;> rfl
  unfold readMagnitude
  rw [front, behind, fraction]
  simp [digitsPlain, power, Nat.toDigits_ne_nil, Nat.ofDigitChars_toDigits]

theorem readValueDigit {d : Char} (digit : d.isDigit = true) (more : List Char) (depth : Nat) :
    readValue (depth + 1) (d :: more) =
      (readMagnitude false (d :: more)).map fun p => (.number p.1, p.2) := by
  have other : ∀ c : Char, c.isDigit = false → d ≠ c := by
    rintro c no rfl
    simp [digit] at no
  have kept : skip (d :: more) = d :: more := by
    simp [skip, isBlank, other]
  unfold readValue
  rw [kept]
  split
  · next same => exact absurd (List.cons.inj same).1 (other _ (by decide))
  · next same => exact absurd (List.cons.inj same).1 (other _ (by decide))
  · next same => exact absurd (List.cons.inj same).1 (other _ (by decide))
  · next same => exact absurd (List.cons.inj same).1 (other _ (by decide))
  · next same => exact absurd (List.cons.inj same).1 (other _ (by decide))
  · next same => exact absurd (List.cons.inj same).1 (other _ (by decide))
  · unfold readNumber
    split
    · next same => exact absurd (List.cons.inj same).1 (other _ (by decide))
    · rfl

theorem readValueNatural {c : Char} (closes : Closes c) (n depth : Nat) (rest : List Char) :
    readValue (depth + 1) (Nat.toDigits 10 n ++ c :: rest) = some (natural n, c :: rest) := by
  have number := readMagnitudeNatural closes n rest
  have digits : ∀ d ∈ Nat.toDigits 10 n, d.isDigit = true := fun d mem =>
    Nat.isDigit_of_mem_toDigits (by decide) (by decide) mem
  cases written : Nat.toDigits 10 n with
  | nil => exact absurd written Nat.toDigits_ne_nil
  | cons d more =>
    rw [written, List.cons_append] at number
    rw [List.cons_append, readValueDigit (digits d (by simp [written])), number]
    rfl

end Json

namespace Output

open Json

def Scalar.json : Scalar → Json
  | .text s => .text s
  | .number n => natural n
  | .flag b => .flag b

def fieldsOf (r : Record) : List (String × Json) := r.map fun f => (f.1, f.2.json)

theorem quoteAppend (s : String) (rest : List Char) :
    quote s.toList ++ rest = '"' :: (s.toList.flatMap escapeChar ++ '"' :: rest) := by
  simp [quote]

theorem readValueScalar {c : Char} (closes : Closes c) (s : Scalar) (depth : Nat) (rest : List Char) :
    readValue (depth + 1) (s.write ++ c :: rest) = some (s.json, c :: rest) := by
  cases s with
  | text s =>
    have text := readTextQuoted s (c :: rest)
    simp [Scalar.write, quoteAppend, readValue, skip, isBlank, text, Scalar.json]
  | flag b => cases b <;> rfl
  | number n =>
    rw [Scalar.write, Nat.toString_eq_ofList_toDigits, String.toList_ofList]
    exact readValueNatural closes n depth rest

theorem readFieldWritten {c : Char} (closes : Closes c) (field : String × Scalar) (depth : Nat)
    (rest : List Char) :
    readField (readValue (depth + 1)) (writeField field ++ c :: rest) =
      some ((field.1, field.2.json), c :: rest) := by
  have key := readTextQuoted field.1 (':' :: (field.2.write ++ c :: rest))
  have value := readValueScalar closes field.2 depth rest
  simp [writeField, readField, quoteAppend, skip, isBlank, key, value]

theorem readSeparatedWritten (r : Record) (some' : r ≠ []) {n : Nat} (enough : r.length ≤ n)
    (depth : Nat) (rest : List Char) :
    readSeparated (readField (readValue (depth + 1))) '\x7d' n (writeFields r ++ '\x7d' :: rest) =
      some (fieldsOf r, rest) := by
  induction r generalizing n with
  | nil => exact absurd rfl some'
  | cons field more ih =>
    cases n with
    | zero => simp at enough
    | succ n =>
      cases more with
      | nil =>
        have one := readFieldWritten (.inr rfl) field depth rest
        simp [writeFields, readSeparated, one, skip, isBlank, fieldsOf]
      | cons next others =>
        have one := readFieldWritten (.inl rfl) field depth
          (writeFields (next :: others) ++ '\x7d' :: rest)
        have further := ih (by simp) (by simpa using enough)
        simp [writeFields, readSeparated, one, skip, isBlank, further, fieldsOf]

theorem fieldsLength (r : Record) : r.length ≤ (writeFields r).length := by
  induction r with
  | nil => simp
  | cons field more ih =>
    cases more with
    | nil => simp [writeFields, writeField, quote]
    | cons next others =>
      simp only [writeFields, List.length_append, List.length_cons] at ih ⊢
      omega

theorem fieldsQuote (field : String × Scalar) (more : Record) (rest : List Char) :
    ∃ after, writeFields (field :: more) ++ rest = '"' :: after := by
  cases more with
  | nil => exact ⟨_, rfl⟩
  | cons next others => exact ⟨_, rfl⟩

theorem readAllWritten (r : Record) (depth : Nat) (rest : List Char) :
    readAll (readField (readValue (depth + 1))) '\x7d' (writeFields r ++ '\x7d' :: rest) =
      some (fieldsOf r, rest) := by
  cases r with
  | nil => simp [writeFields, readAll, skip, isBlank, fieldsOf]
  | cons field more =>
    have enough : (field :: more).length ≤ (writeFields (field :: more) ++ '\x7d' :: rest).length := by
      rw [List.length_append]
      exact Nat.le_trans (fieldsLength _) (Nat.le_add_right _ _)
    have separated := readSeparatedWritten (field :: more) (by simp) enough depth rest
    obtain ⟨after, text⟩ := fieldsQuote field more ('\x7d' :: rest)
    rw [text] at separated ⊢
    simpa [readAll, skip, isBlank] using separated

theorem readValueObject (depth : Nat) (rest : List Char) :
    readValue (depth + 1) ('\x7b' :: rest) =
      (readAll (readField (readValue depth)) '\x7d' rest).map fun p => (.object p.1, p.2) := rfl

theorem readWritten (r : Record) : Json.read? (Record.write r) = some (.object (fieldsOf r)) := by
  have size : (Record.write r).length = (writeFields r).length + 1 + 1 := by simp [Record.write]
  unfold Json.read?
  rw [size, Record.write, List.cons_append, readValueObject, readAllWritten r (writeFields r).length []]
  rfl

theorem hexCharVisible (n : Nat) (small : n < 16) : 32 ≤ (hexChar n).toNat := by
  revert n
  decide

theorem escapeVisible (c : Char) : ∀ d ∈ escapeChar c, 32 ≤ d.toNat := by
  unfold escapeChar
  -- the characters with an escape of their own
  iterate 7
    split
    · simp
  split
  · next small =>
    have high := hexCharVisible (c.toNat / 16) (by omega)
    have low := hexCharVisible (c.toNat % 16) (by omega)
    simp [high, low]
  · next visible => simpa using visible

theorem quoteVisible (cs : List Char) : ∀ d ∈ quote cs, 32 ≤ d.toNat := by
  intro d mem
  simp only [quote, List.cons_append, List.mem_cons, List.mem_append, List.mem_flatMap,
    List.not_mem_nil, or_false] at mem
  rcases mem with rfl | ⟨c, -, inside⟩ | rfl
  · decide
  · exact escapeVisible c d inside
  · decide

theorem scalarVisible (s : Scalar) : ∀ d ∈ s.write, 32 ≤ d.toNat := by
  cases s with
  | text s => exact quoteVisible s.toList
  | flag b => cases b <;> simp [Scalar.write]
  | number n =>
    intro d mem
    rw [Scalar.write, Nat.toString_eq_ofList_toDigits, String.toList_ofList] at mem
    have digit := Nat.isDigit_of_mem_toDigits (by decide) (by decide) mem
    simp only [Char.isDigit, Bool.and_eq_true, decide_eq_true_eq] at digit
    have least : (48 : UInt32).toNat ≤ d.val.toNat := UInt32.le_iff_toNat_le.mp digit.1
    exact Nat.le_trans (by decide) least

theorem fieldVisible (field : String × Scalar) : ∀ d ∈ writeField field, 32 ≤ d.toNat := by
  intro d mem
  rcases List.mem_append.mp mem with key | behind
  · exact quoteVisible _ d key
  · rcases List.mem_cons.mp behind with rfl | value
    · decide
    · exact scalarVisible _ d value

theorem fieldsVisible (r : Record) : ∀ d ∈ writeFields r, 32 ≤ d.toNat := by
  induction r with
  | nil => simp [writeFields]
  | cons field more ih =>
    cases more with
    | nil => exact fieldVisible field
    | cons next others =>
      intro d mem
      rcases List.mem_append.mp mem with first | behind
      · exact fieldVisible field d first
      · rcases List.mem_cons.mp behind with rfl | later
        · decide
        · exact ih d later

theorem writtenVisible (r : Record) : ∀ d ∈ Record.write r, 32 ≤ d.toNat := by
  intro d mem
  simp only [Record.write, List.cons_append, List.mem_cons, List.mem_append, List.not_mem_nil,
    or_false] at mem
  rcases mem with rfl | inside | rfl
  · decide
  · exact fieldsVisible r d inside
  · decide

theorem linesAppend {line : List Char} (visible : ∀ d ∈ line, 32 ≤ d.toNat) (rest : List Char) :
    linesOf (line ++ '\n' :: rest) = (line :: (linesOf rest).1, (linesOf rest).2) := by
  induction line with
  | nil => simp [linesOf]
  | cons c more ih =>
    have plain : c ≠ '\n' := by
      rintro rfl
      exact absurd (visible '\n' (by simp)) (by decide)
    simp [linesOf, plain, ih fun d mem => visible d (List.mem_cons_of_mem _ mem)]

theorem linesWritten (records : List Record) :
    linesOf (writeLines records).toList = (records.map Record.write, []) := by
  unfold writeLines
  rw [String.toList_ofList]
  induction records with
  | nil => rfl
  | cons r more ih =>
    rw [List.flatMap_cons, List.append_assoc, List.singleton_append, linesAppend (writtenVisible r), ih]
    rfl

end Output

namespace Outcome

def status : Outcome → String
  | .unchanged => "unchanged"
  | .changed _ _ => "changed"
  | .failed _ => "error"

def replacements : Outcome → Nat
  | .changed n _ => n
  | _ => 0

def isWritten : Outcome → Bool
  | .changed _ written => written
  | _ => false

end Outcome

namespace Output

structure Shows (o : FileOutcome) (j : Json) : Prop where
  type : j.get? "type" = some (.text "file")
  path : j.get? "path" = some (.text o.relative.text)
  status : j.get? "status" = some (.text o.outcome.status)
  replacements : j.get? "replacements" = some (.natural o.outcome.replacements)
  written : j.get? "written" = some (.flag o.outcome.isWritten)
  kind : j.get? "error_kind" = o.error?.map fun e => .text e.kind
  message : j.get? "message" = o.error?.map fun e => .text e.message

def hasStatus (status : String) (j : Json) : Bool :=
  match j.get? "status" with
  | some (.text s) => s = status
  | _ => false

structure Sums (files : List Json) (dry : Bool) (j : Json) : Prop where
  type : j.get? "type" = some (.text "summary")
  scanned : j.get? "scanned" = some (.natural files.length)
  changed : j.get? "changed" = some (.natural (files.countP (hasStatus "changed")))
  unchanged : j.get? "unchanged" = some (.natural (files.countP (hasStatus "unchanged")))
  errors : j.get? "errors" = some (.natural (files.countP (hasStatus "error")))
  dryRun : j.get? "dry_run" = some (.flag dry)

def fileJson (o : FileOutcome) : Json := .object (fieldsOf (fileRecord o))

theorem fileShows (o : FileOutcome) : Shows o (fileJson o) := by
  obtain ⟨path, relative, outcome⟩ := o
  cases outcome <;> exact ⟨rfl, rfl, rfl, rfl, rfl, rfl, rfl⟩

theorem fileStatus (o : FileOutcome) :
    hasStatus "changed" (fileJson o) = o.isChanged ∧
      hasStatus "unchanged" (fileJson o) = o.isUnchanged ∧
      hasStatus "error" (fileJson o) = o.isFailed := by
  have shown := (fileShows o).status
  obtain ⟨path, relative, outcome⟩ := o
  simp only [hasStatus, shown]
  cases outcome <;> simp [Outcome.status, FileOutcome.isChanged, FileOutcome.isUnchanged,
    FileOutcome.isFailed, FileOutcome.error?]

theorem summarySums (dry : Bool) (os : List FileOutcome) :
    Sums ((Report.ofOutcomes dry os).outcomes.map fileJson) dry
      (.object (fieldsOf (summaryRecord (Report.ofOutcomes dry os)))) := by
  obtain ⟨changed, unchanged, errors⟩ := Report.ofOutcomesCounts dry os
  have dryRun : (Report.ofOutcomes dry os).dryRun = dry := by rw [Report.ofOutcomesEq]
  have counts : ∀ (p : FileOutcome → Bool) (status : String),
      (∀ o, hasStatus status (fileJson o) = p o) →
        ((Report.ofOutcomes dry os).outcomes.map fileJson).countP (hasStatus status) =
          (Report.ofOutcomes dry os).outcomes.countP p := by
    intro p status each
    rw [List.countP_map]
    exact List.countP_congr fun o _ => by simp [each]
  refine ⟨rfl, ?_, ?_, ?_, ?_, ?_⟩
  · rw [List.length_map]
    rfl
  · rw [counts _ _ fun o => (fileStatus o).1, ← changed]
    rfl
  · rw [counts _ _ fun o => (fileStatus o).2.1, ← unchanged]
    rfl
  · rw [counts _ _ fun o => (fileStatus o).2.2, ← errors]
    rfl
  · exact congrArg (fun b => some (Json.flag b)) dryRun

/-- The records of a report are read back line by line: what each outcome says, in their order, and
then how many there are of each kind. -/
theorem jsonlReadsBack (dry : Bool) (os : List FileOutcome) :
    ∃ (lines : List (List Char)) (files : List Json) (summary : Json),
      linesOf (jsonl (Report.ofOutcomes dry os)).toList = (lines, []) ∧
        lines.length = (Report.ofOutcomes dry os).scanned + 1 ∧
        (∀ line ∈ lines, (∀ c ∈ line, 32 ≤ c.toNat) ∧
          ∃ fields, Json.read? line = some (.object fields)) ∧
        lines.map Json.read? = (files ++ [summary]).map some ∧
        List.Forall₂ Shows (Report.ofOutcomes dry os).outcomes files ∧ Sums files dry summary := by
  have summed := summarySums dry os
  generalize Report.ofOutcomes dry os = r at summed ⊢
  refine ⟨(r.outcomes.map fileRecord ++ [summaryRecord r]).map Record.write, r.outcomes.map fileJson,
    _, linesWritten _, ?_, ?_, ?_, ?_, summed⟩
  · simp [Report.scanned]
  · intro line mem
    obtain ⟨record, -, rfl⟩ := List.mem_map.mp mem
    exact ⟨writtenVisible record, _, readWritten record⟩
  · simp [Function.comp_def, readWritten, fileJson]
  · rw [List.forall₂_map_right_iff, List.forall₂_same]
    exact fun o _ => fileShows o

end Output

end Codemod
