import Mathlib.Data.List.Infix
import SearchQuery.Field

/-! # The nested paths that hold a field

A clause is put into the scopes of its field one after the other, those of longer paths first. All
paths that hold a field are beginnings of its name, so from the outside in each scope begins with
the one around it.
-/

namespace SearchQuery

namespace Field

theorem insertByLength_perm (path : Text) (paths : List Text) :
    (insertByLength path paths).Perm (path :: paths) := by
  induction paths with
  | nil => rfl
  | cons other others ih =>
      rw [insertByLength]
      split
      · rfl
      · exact (ih.cons other).trans (List.Perm.swap path other others)

theorem sortByLength_perm (paths : List Text) : (sortByLength paths).Perm paths := by
  induction paths with
  | nil => rfl
  | cons path paths ih => exact (insertByLength_perm path _).trans (ih.cons path)

theorem pairwise_insertByLength {path : Text} {paths : List Text}
    (falling : paths.Pairwise fun longer shorter => shorter.length ≤ longer.length) :
    (insertByLength path paths).Pairwise fun longer shorter =>
      shorter.length ≤ longer.length := by
  induction paths with
  | nil => exact List.pairwise_singleton _ _
  | cons other others ih =>
      obtain ⟨first, rest⟩ := List.pairwise_cons.1 falling
      rw [insertByLength]
      split
      · rename_i isLonger
        refine List.pairwise_cons.2 ⟨?_, falling⟩
        intro shorter member
        rcases List.mem_cons.1 member with rfl | member
        · exact isLonger
        · exact Nat.le_trans (first shorter member) isLonger
      · rename_i isShorter
        refine List.pairwise_cons.2 ⟨?_, ih rest⟩
        intro shorter member
        have isOneOf := (insertByLength_perm path others).mem_iff.1 member
        rcases List.mem_cons.1 isOneOf with rfl | member
        · exact Nat.le_of_not_le isShorter
        · exact first shorter member

theorem pairwise_sortByLength (paths : List Text) :
    (sortByLength paths).Pairwise fun longer shorter => shorter.length ≤ longer.length := by
  induction paths with
  | nil => exact List.Pairwise.nil
  | cons path paths ih => exact pairwise_insertByLength ih

theorem prefix_of_isWithin {path field : Text} (within : isWithin path field) : path <+: field := by
  simp only [isWithin, below?, Bool.or_eq_true, beq_iff_eq] at within
  rcases within with rfl | below
  · exact List.prefix_rfl
  · split at below
    · rename_i rest isRest
      exact ⟨_, List.isPrefixOf?_eq_some_iff_append_eq.1 isRest⟩
    · cases below

end Field

theorem Text.byteSize_le_of_prefix {shorter longer : Text} (begins : shorter <+: longer) :
    byteSize shorter ≤ byteSize longer := by
  obtain ⟨rest, rfl⟩ := begins
  rw [byteSize_append]
  exact Nat.le_add_right _ _

namespace Settings

/-- The scopes of a field, the outermost first. -/
def scopesOf (settings : Settings) (field : Text) : List Text :=
  (Field.sortByLength (settings.nestedPaths.filter (Field.isWithin · field))).reverse

variable (settings : Settings) (field : Text)

theorem nest_eq (clause : Clause) :
    settings.nest field clause = (settings.scopesOf field).foldr Clause.nested clause := by
  rw [nest, scopesOf, List.foldr_reverse]

theorem scopesOf_perm :
    (settings.scopesOf field).Perm (settings.nestedPaths.filter (Field.isWithin · field)) :=
  (List.reverse_perm _).trans (Field.sortByLength_perm _)

theorem pairwise_scopesOf : (settings.scopesOf field).Pairwise (· <+: ·) := by
  have begins : ∀ path ∈ settings.scopesOf field, path <+: field := by
    intro path member
    have kept := (settings.scopesOf_perm field).mem_iff.1 member
    exact Field.prefix_of_isWithin (List.mem_filter.1 kept).2
  have rising : (settings.scopesOf field).Pairwise fun outer inner =>
      outer.length ≤ inner.length :=
    List.pairwise_reverse.2 (Field.pairwise_sortByLength _)
  refine rising.imp_of_mem ?_
  intro outer inner outerMember innerMember le
  exact List.prefix_of_prefix_length_le (begins outer outerMember) (begins inner innerMember) le

end Settings

end SearchQuery
