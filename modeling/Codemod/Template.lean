import Codemod.Number

/-!
Replacement templates. A dollar sign refers to a group by number or name, in braces or not; two
dollar signs stand for one, and a dollar sign that begins no reference stands for itself.
-/
namespace Codemod

inductive GroupRef where
  | index (n : Nat)
  | name (s : String)
  deriving DecidableEq, Repr

def GroupRef.text : GroupRef → String
  | .index n => "$" ++ toString n
  | .name s => "$\x7b" ++ s ++ "\x7d"

def GroupRef.ofName (cs : List Char) : GroupRef :=
  match readNumber cs with
  | .ok n => .index n
  | .error _ => .name (String.ofList cs)

def isReferenceChar (c : Char) : Bool := c.isAlphanum || c = '_'

namespace Template

def reference? : List Char → Option (GroupRef × List Char)
  | '\x7b' :: rest =>
    match rest.dropWhile (· != '\x7d') with
    | [] => none
    | _ :: after => some (GroupRef.ofName (rest.takeWhile (· != '\x7d')), after)
  | cs =>
    match cs.takeWhile isReferenceChar with
    | [] => none
    | name => some (GroupRef.ofName name, cs.dropWhile isReferenceChar)

theorem referenceLength {cs : List Char} {r : GroupRef} {after : List Char}
    (h : reference? cs = some (r, after)) : after.length ≤ cs.length := by
  unfold reference? at h
  split at h
  · rename_i rest
    split at h
    · contradiction
    · rename_i c tail eq
      have bound := (List.dropWhile_suffix (· != '\x7d') (l := rest)).length_le
      simp only [Option.some.injEq, Prod.mk.injEq] at h
      rw [eq] at bound
      rw [← h.2]
      simp only [List.length_cons] at bound ⊢
      omega
  · split at h
    · contradiction
    · simp only [Option.some.injEq, Prod.mk.injEq] at h
      rw [← h.2]
      exact (List.dropWhile_suffix _).length_le

def references (cs : List Char) : List GroupRef :=
  match cs with
  | [] => []
  | c :: rest =>
    if c = '$' then
      match rest with
      | [] => []
      | '$' :: more => references more
      | '\x7b' :: inner =>
        match h : inner.dropWhile (· != '\x7d') with
        | [] => references ('\x7b' :: inner)
        | _ :: after =>
          have := h ▸ (List.dropWhile_suffix (· != '\x7d') (l := inner)).length_le
          GroupRef.ofName (inner.takeWhile (· != '\x7d')) :: references after
      | d :: more =>
        have := (List.dropWhile_suffix isReferenceChar (l := d :: more)).length_le
        if (d :: more).takeWhile isReferenceChar = [] then
          references ((d :: more).dropWhile isReferenceChar)
        else
          GroupRef.ofName ((d :: more).takeWhile isReferenceChar) ::
            references ((d :: more).dropWhile isReferenceChar)
    else references rest
termination_by cs.length
decreasing_by all_goals simp_all only [List.length_cons]; omega

section Interpolation

variable {β : Type} (copy : Char → List β) (refer : GroupRef → List β)

/-- Goes through a template: `copy` is asked what comes of a character, and `refer` what comes of a
reference. The text up to the next dollar sign is taken as a whole. -/
def interpolate (cs : List Char) : List β :=
  match h : cs.dropWhile (· != '$') with
  | [] => cs.flatMap copy
  | _ :: rest =>
    have := h ▸ (List.dropWhile_suffix (· != '$') (l := cs)).length_le
    (cs.takeWhile (· != '$')).flatMap copy ++
      if rest.head? = some '$' then copy '$' ++ interpolate rest.tail
      else match found : reference? rest with
        | some (r, after) =>
          have := referenceLength found
          refer r ++ interpolate after
        | none => copy '$' ++ interpolate rest
termination_by cs.length
decreasing_by all_goals simp_all only [List.length_cons, List.length_tail]; omega

end Interpolation

def expand (group : GroupRef → List Char) (cs : List Char) : List Char :=
  interpolate (fun c => [c]) group cs

def quote : List Char → List Char
  | [] => []
  | c :: rest => if c = '$' then '$' :: '$' :: quote rest else c :: quote rest

end Template

end Codemod
