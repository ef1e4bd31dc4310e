import Codemod.Config
import Codemod.Proofs.Order

/-!
What a filter is made of. An extension that is listed counts without the dots in front of it, and an
entry of nothing but dots does not count at all. So a list of extensions admits the files that have
one of them, unless no entry of the list counts: then it admits every file.
-/
namespace Codemod

theorem Ordered.memInsert {α : Type} {order : α → α → Ordering} [Std.LawfulEqCmp order] {x y : α}
    {xs : List α} : x ∈ insert order y xs ↔ x = y ∨ x ∈ xs := by
  induction xs with
  | nil => simp [insert]
  | cons z rest ih =>
    unfold insert
    split
    · simp
    · next same =>
      obtain rfl : y = z := Std.LawfulEqCmp.eq_of_compare same
      simp
    · simp only [List.mem_cons, ih, or_left_comm]

namespace Filter

instance : Std.LawfulEqCmp textOrder where
  compare_self {a} := by
    have self : Path.compareText a.toList a.toList = .eq := Std.ReflCmp.compare_self
    exact self
  eq_of_compare same := String.toList_injective (Std.LawfulEqCmp.eq_of_compare same)

def bare (extension : String) : String := String.ofList (extension.toList.dropWhile (· = '.'))

theorem includeExtensionOf (f : Filter) (x : String) :
    f.includeExtension x =
      if bare x = "" then f
      else { f with extensions := Ordered.insert textOrder (bare x) f.extensions } := by
  unfold includeExtension bare
  split
  · next nothing => simp [nothing]
  · next cs filled => rw [if_neg]; simpa using filled

theorem foldlKeeps {α : Type} {part : Filter → α} {step : Filter → String → Filter}
    (keeps : ∀ f x, part (step f x) = part f) (xs : List String) (f : Filter) :
    part (xs.foldl step f) = part f := by
  induction xs generalizing f with
  | nil => rfl
  | cons x rest ih => rw [List.foldl_cons, ih, keeps]

theorem memIncludeExtension {f : Filter} {x y : String} :
    y ∈ (f.includeExtension x).extensions ↔ y ∈ f.extensions ∨ y ≠ "" ∧ bare x = y := by
  rw [includeExtensionOf]
  by_cases nothing : bare x = ""
  · rw [if_pos nothing, nothing]
    exact ⟨.inl, fun member => member.resolve_right fun new => new.1 new.2.symm⟩
  · rw [if_neg nothing, Ordered.memInsert]
    constructor
    · rintro (rfl | old)
      · exact .inr ⟨nothing, rfl⟩
      · exact .inl old
    · rintro (old | ⟨-, rfl⟩)
      · exact .inr old
      · exact .inl rfl

theorem memIncluded {y : String} (xs : List String) (f : Filter) :
    y ∈ (xs.foldl includeExtension f).extensions ↔
      y ∈ f.extensions ∨ y ≠ "" ∧ ∃ x ∈ xs, bare x = y := by
  induction xs generalizing f with
  | nil => simp
  | cons x rest ih =>
    rw [List.foldl_cons, ih, memIncludeExtension, or_assoc, ← and_or_left]
    simp only [List.mem_cons, exists_eq_or_imp]

theorem memOfLists {y : String} (extensions dirs : List String) :
    y ∈ (ofLists extensions dirs).extensions ↔ y ≠ "" ∧ ∃ x ∈ extensions, bare x = y := by
  have kept : ∀ f x, (excludeDir f x).extensions = f.extensions := by
    intro f x
    unfold excludeDir
    split <;> rfl
  rw [ofLists, foldlKeeps kept, memIncluded]
  simp

theorem ofListsSkipped (extensions dirs : List String) : (ofLists extensions dirs).skipped = [] := by
  have included : ∀ f x, (includeExtension f x).skipped = f.skipped := by
    intro f x
    rw [includeExtensionOf]
    split <;> rfl
  have excluded : ∀ f x, (excludeDir f x).skipped = f.skipped := by
    intro f x
    unfold excludeDir
    split <;> rfl
  rw [ofLists, foldlKeeps excluded, foldlKeeps included]

theorem includesListed {f : Filter} (listed : f.extensions ≠ []) (path : Path) :
    f.includesFile path = true ↔ ∃ x ∈ f.extensions, path.extension? = some x := by
  have filled : f.extensions.isEmpty = false := by simpa using listed
  rw [includesFile, filled, Bool.false_or]
  cases path.extension? with
  | none => simp
  | some x => simp

end Filter

namespace Config

theorem memFilter (c : Config) (y : String) :
    y ∈ c.filter.extensions ↔ y ≠ "" ∧ ∃ x ∈ c.extensions, Filter.bare x = y :=
  Filter.memOfLists c.extensions c.excludedDirs

theorem filterListed {c : Config} (counts : ∃ x ∈ c.extensions, Filter.bare x ≠ "") :
    c.filter.extensions ≠ [] := by
  obtain ⟨x, hx, filled⟩ := counts
  exact List.ne_nil_of_mem ((c.memFilter (Filter.bare x)).mpr ⟨filled, x, hx, rfl⟩)

theorem includesCounted {c : Config} (counts : ∃ x ∈ c.extensions, Filter.bare x ≠ "") (path : Path) :
    c.filter.includesFile path = true ↔
      ∃ x ∈ c.extensions, Filter.bare x ≠ "" ∧ path.extension? = some (Filter.bare x) := by
  rw [Filter.includesListed (filterListed counts)]
  constructor
  · rintro ⟨y, listed, has⟩
    obtain ⟨filled, x, hx, rfl⟩ := (c.memFilter y).mp listed
    exact ⟨x, hx, filled, has⟩
  · rintro ⟨x, hx, filled, has⟩
    exact ⟨Filter.bare x, (c.memFilter _).mpr ⟨filled, x, hx, rfl⟩, has⟩

end Config

end Codemod
