import Codemod.Proofs.Records
import Codemod.RelPath
import Mathlib.Data.List.DropRight

/-!
The normal form of relative paths. What normalising does in one step it does not undo in a later one,
so that its results are in normal form, and a text that is in normal form stays as it is. A path that
is written down and read again is therefore the same path.
-/
namespace Codemod.RelPath

structure Normal (cs : List Char) : Prop where
  filled : cs ≠ []
  straight : '\\' ∉ cs
  closed : cs.getLast? ≠ some '/'
  bare : ¬['.', '/'] <+: cs

def straighten (c : Char) : Char := if c = '\\' then '/' else c

theorem straightenStraight (cs : List Char) : '\\' ∉ cs.map straighten := by
  intro member
  obtain ⟨c, -, same⟩ := List.mem_map.mp member
  unfold straighten at same
  split at same
  · exact absurd same (by decide)
  · contradiction

theorem straightenSame {cs : List Char} (straight : '\\' ∉ cs) : cs.map straighten = cs := by
  refine (List.map_congr_left fun c member => ?_).trans (List.map_id cs)
  exact if_neg fun (same : c = '\\') => straight (same ▸ member)

theorem dropHereSuffix (cs : List Char) : dropHere cs <:+ cs := by
  fun_induction dropHere cs with
  | case1 rest ih => exact ih.trans (List.suffix_append ['.', '/'] rest)
  | case2 cs => exact List.suffix_rfl

theorem dropHereBare (cs : List Char) : ¬['.', '/'] <+: dropHere cs := by
  fun_induction dropHere cs with
  | case1 rest ih => exact ih
  | case2 cs other =>
    rintro ⟨rest, rfl⟩
    exact other rest rfl

theorem dropHereSame {cs : List Char} (bare : ¬['.', '/'] <+: cs) : dropHere cs = cs := by
  unfold dropHere
  split
  · next rest => exact absurd (List.prefix_append ['.', '/'] rest) bare
  · rfl

theorem dropHereLast {cs : List Char} (closed : cs.getLast? ≠ some '/') :
    (dropHere cs).getLast? = cs.getLast? := by
  fun_induction dropHere cs with
  | case1 rest ih =>
    cases rest with
    | nil => exact absurd rfl closed
    | cons c rest =>
      have same : ('.' :: '/' :: c :: rest).getLast? = (c :: rest).getLast? := by simp
      rw [same] at closed ⊢
      exact ih closed
  | case2 cs => rfl

def trimmed (cs : List Char) : List Char := (cs.map straighten).rdropWhile (· = '/')

theorem trimmedClosed (cs : List Char) : (trimmed cs).getLast? ≠ some '/' := by
  intro last
  have filled : trimmed cs ≠ [] := by
    intro nothing
    simp [nothing] at last
  have other := List.rdropWhile_last_not (· = '/') (cs.map straighten) filled
  rw [List.getLast?_eq_some_getLast filled, Option.some_inj] at last
  exact other (decide_eq_true last)

theorem trimmedStraight (cs : List Char) : '\\' ∉ trimmed cs := fun member =>
  straightenStraight cs ((List.rdropWhile_prefix (· = '/') _).subset member)

/- The second test for emptiness never comes true: what is left then still has its end. -/
theorem normalizeTrimmed (cs : List Char) :
    normalize cs = if trimmed cs = [] then ['.'] else dropHere (trimmed cs) := by
  unfold normalize
  dsimp only
  split
  · next nothing => exact (if_pos nothing).symm
  · next filled =>
    refine Eq.trans ?_ (if_neg filled).symm
    split
    · next nothing =>
      have bare : dropHere (trimmed cs) = [] := nothing
      have last := dropHereLast (trimmedClosed cs)
      rw [bare] at last
      exact absurd (List.getLast?_eq_none_iff.mp last.symm) filled
    · rfl

theorem normalizeNormal (cs : List Char) : Normal (normalize cs) := by
  rw [normalizeTrimmed]
  split
  · exact ⟨by decide, by decide, by decide, by decide⟩
  · next filled =>
    have last := dropHereLast (trimmedClosed cs)
    refine ⟨?_, ?_, last ▸ trimmedClosed cs, dropHereBare _⟩
    · intro nothing
      rw [nothing] at last
      exact filled (List.getLast?_eq_none_iff.mp last.symm)
    · exact fun member => trimmedStraight cs ((dropHereSuffix _).subset member)

theorem normalizeSame {cs : List Char} (normal : Normal cs) : normalize cs = cs := by
  have same : trimmed cs = cs := by
    unfold trimmed
    rw [straightenSame normal.straight, List.rdropWhile_eq_self_iff]
    intro filled slash
    refine normal.closed ?_
    rw [List.getLast?_eq_some_getLast filled]
    simpa using slash
  rw [normalizeTrimmed, same, if_neg normal.filled, dropHereSame normal.bare]

theorem ofTextNormal (s : String) : Normal (ofText s).text.toList := by
  rw [ofText, String.toList_ofList]
  exact normalizeNormal s.toList

theorem ofTextSame {s : String} (normal : Normal s.toList) : ofText s = ⟨s⟩ := by
  rw [ofText, normalizeSame normal, String.ofList_toList]

def ofJson? : Json → Option RelPath
  | .text s => some (ofText s)
  | _ => none

theorem readValueText (depth : Nat) (rest : List Char) :
    Json.readValue (depth + 1) ('"' :: rest) =
      (Json.readText rest).map fun p => (.text p.1, p.2) := rfl

theorem readWrittenText (s : String) : Json.read? (Output.Scalar.text s).write = some (.text s) := by
  have text := Json.readTextQuoted s []
  have written := Output.quoteAppend s []
  rw [List.append_nil] at written
  rw [Output.Scalar.write, written, Json.read?, List.length_cons, readValueText, text]
  rfl

/-- Normalising gives texts in normal form and leaves those alone, so it does nothing the second time,
its results are just the texts in normal form, and a path that was written is read back. -/
theorem normalFormExact (s : String) :
    Normal (ofText s).text.toList ∧
      ((ofText s).text = s ↔ Normal s.toList) ∧
      ofText (ofText s).text = ofText s ∧
      ((∃ other, (ofText other).text = s) ↔ Normal s.toList) ∧
      (Json.read? (Output.Scalar.text (ofText s).text).write).bind ofJson? = some (ofText s) := by
  have normal := ofTextNormal s
  have again : ofText (ofText s).text = ofText s := ofTextSame normal
  have fixed : Normal s.toList → (ofText s).text = s := fun normal =>
    congrArg RelPath.text (ofTextSame normal)
  refine ⟨normal, ⟨fun same => same ▸ normal, fixed⟩, again, ⟨?_, fun normal => ⟨s, fixed normal⟩⟩, ?_⟩
  · rintro ⟨other, rfl⟩
    exact ofTextNormal other
  · rw [readWrittenText, Option.bind_some, ofJson?, again]

end Codemod.RelPath
