import Mathlib.Data.List.Infix
import SearchQuery.Proofs.Surface

/-! # Nested parentheses

A text that closes only parentheses which it opens can stand in parentheses. The one that closes
those is looked for behind it, where as many are open as were before it if its own are all closed.
A backslash keeps the parenthesis behind it from being counted.
-/

namespace SearchQuery

namespace Text

/-- A text without its backslashes and the characters behind them. -/
def outsideEscapes : Text → Text
  | [] => []
  | ['\\'] => []
  | '\\' :: _ :: rest => outsideEscapes rest
  | c :: rest => c :: outsideEscapes rest

/-- Whether a text ends with a backslash behind which a character is missing. -/
def endsInEscape : Text → Bool
  | [] => false
  | ['\\'] => true
  | '\\' :: _ :: rest => endsInEscape rest
  | _ :: rest => endsInEscape rest

/-- In no part from its beginning does a text close more parentheses than it opens, but for `depth`
that are open before it. Parentheses behind a backslash do not count. -/
def Nested (depth : Nat) (text : Text) : Prop :=
  ∀ front, front <+: text.outsideEscapes → front.count ')' ≤ front.count '(' + depth

instance (depth : Nat) (text : Text) : Decidable (Nested depth text) :=
  decidable_of_iff (∀ front ∈ text.outsideEscapes.inits, front.count ')' ≤ front.count '(' + depth)
    (by simp only [Nested, List.mem_inits])

variable {depth level : Nat} {text rest : Text} {c : Char}

theorem outsideEscapes_cons (notEscape : c ≠ '\\') (rest : Text) :
    outsideEscapes (c :: rest) = c :: outsideEscapes rest := by
  rw [outsideEscapes] <;> simp [notEscape]

theorem endsInEscape_cons (notEscape : c ≠ '\\') (rest : Text) :
    endsInEscape (c :: rest) = endsInEscape rest := by
  rw [endsInEscape] <;> simp [notEscape]

/-- A text is read in pairs that begin with a backslash and in single other characters. -/
@[elab_as_elim]
theorem escapes_induction {motive : Text → Prop} (nil : motive []) (lone : motive ['\\'])
    (pair : ∀ c rest, motive rest → motive ('\\' :: c :: rest))
    (plain : ∀ c rest, c ≠ '\\' → motive rest → motive (c :: rest)) (text : Text) :
    motive text := by
  induction text using outsideEscapes.induct with
  | case1 => exact nil
  | case2 => exact lone
  | case3 c rest ih => exact pair c rest ih
  | case4 c rest notLone notPair ih =>
      refine plain c rest ?_ ih
      rintro rfl
      cases rest with
      | nil => exact notLone rfl rfl
      | cons d rest => exact notPair d rest rfl rfl

theorem Nested.exists_level (notEscape : c ≠ '\\') (nested : Nested depth (c :: rest)) :
    ∃ level, level + [c].count ')' = [c].count '(' + depth ∧ Nested level rest := by
  rw [Nested, outsideEscapes_cons notEscape] at nested
  obtain ⟨level, isLevel⟩ := Nat.exists_eq_add_of_le' (nested [c] (by simp))
  refine ⟨level, isLevel.symm, ?_⟩
  intro front isFront
  have bound := nested (c :: front) (by simpa using isFront)
  rw [← List.singleton_append, List.count_append, List.count_append] at bound
  omega

theorem outsideEscapes_isPrefix (front more : Text) :
    front.outsideEscapes <+: (front ++ more).outsideEscapes := by
  induction front using escapes_induction with
  | nil | lone => exact List.nil_prefix
  | pair c rest ih => exact ih
  | plain c rest notEscape ih =>
      rw [List.cons_append, outsideEscapes_cons notEscape, outsideEscapes_cons notEscape]
      exact List.cons_prefix_cons.2 ⟨rfl, ih⟩

theorem outsideEscapes_append {front : Text} (complete : front.endsInEscape = false) (more : Text) :
    (front ++ more).outsideEscapes = front.outsideEscapes ++ more.outsideEscapes := by
  induction front using escapes_induction with
  | nil => rfl
  | lone => cases complete
  | pair c rest ih => exact ih complete
  | plain c rest notEscape ih =>
      rw [endsInEscape_cons notEscape] at complete
      rw [List.cons_append, outsideEscapes_cons notEscape, outsideEscapes_cons notEscape,
        List.cons_append, ih complete]

theorem endsInEscape_append {front : Text} (complete : front.endsInEscape = false) (more : Text) :
    (front ++ more).endsInEscape = more.endsInEscape := by
  induction front using escapes_induction with
  | nil => rfl
  | lone => cases complete
  | pair c rest ih => exact ih complete
  | plain c rest notEscape ih =>
      rw [endsInEscape_cons notEscape] at complete
      rw [List.cons_append, endsInEscape_cons notEscape, ih complete]

theorem Nested.of_prefix {front : Text} (nested : Nested depth text) (isFront : front <+: text) :
    Nested depth front := by
  obtain ⟨more, rfl⟩ := isFront
  intro part isPart
  exact nested part (isPart.trans (outsideEscapes_isPrefix front more))

theorem Nested.cons (notEscape : c ≠ '\\') (counted : level + [c].count ')' = [c].count '(' + depth)
    (nested : Nested level rest) : Nested depth (c :: rest) := by
  rw [Nested, outsideEscapes_cons notEscape]
  intro front isFront
  cases front with
  | nil => simp
  | cons first front =>
      obtain ⟨rfl, isRest⟩ := List.cons_prefix_cons.1 isFront
      have bound := nested front isRest
      rw [← List.singleton_append, List.count_append, List.count_append]
      omega

theorem Nested.append (nested : Nested depth text) (complete : text.endsInEscape = false)
    (counted : level + text.outsideEscapes.count ')' = text.outsideEscapes.count '(' + depth)
    (behind : Nested level rest) : Nested depth (text ++ rest) := by
  induction text using escapes_induction generalizing depth with
  | nil =>
      obtain rfl : level = depth := by simpa [outsideEscapes] using counted
      exact behind
  | lone => cases complete
  | pair c text ih => exact ih nested complete counted
  | plain c text notEscape ih =>
      obtain ⟨next, step, nested⟩ := nested.exists_level notEscape
      rw [endsInEscape_cons notEscape] at complete
      rw [outsideEscapes_cons notEscape, ← List.singleton_append, List.count_append,
        List.count_append] at counted
      exact .cons notEscape step (ih nested complete (by omega))

/-! ## Balanced texts -/

theorem outsideEscapes_eq (unescaped : '\\' ∉ text) : text.outsideEscapes = text := by
  induction text with
  | nil => rfl
  | cons c rest ih =>
      obtain ⟨notEscape, unescaped⟩ := not_or.1 (List.mem_cons.not.1 unescaped)
      rw [outsideEscapes_cons (Ne.symm notEscape), ih unescaped]

theorem endsInEscape_eq (unescaped : '\\' ∉ text) : text.endsInEscape = false := by
  induction text with
  | nil => rfl
  | cons c rest ih =>
      obtain ⟨notEscape, unescaped⟩ := not_or.1 (List.mem_cons.not.1 unescaped)
      rw [endsInEscape_cons (Ne.symm notEscape), ih unescaped]

end Text

namespace Balanced

variable {text : Text}

theorem unescaped (balanced : Balanced text) : '\\' ∉ text := by
  induction balanced with
  | empty => exact List.not_mem_nil
  | char plain _ ih => simp_all [eq_comm]
  | parens _ _ ihInner ihRest => simp [ihInner, ihRest]

theorem count_eq (balanced : Balanced text) : text.count ')' = text.count '(' := by
  induction balanced with
  | empty => rfl
  | char plain _ ih => simp_all
  | parens _ _ ihInner ihRest =>
      simp [List.count_append, ihInner, ihRest]
      omega

theorem complete (balanced : Balanced text) : text.endsInEscape = false :=
  Text.endsInEscape_eq balanced.unescaped

theorem counted (balanced : Balanced text) :
    text.outsideEscapes.count ')' = text.outsideEscapes.count '(' := by
  rw [Text.outsideEscapes_eq balanced.unescaped, balanced.count_eq]

/-- Parentheses that each have their other are nested, however many are open before them. -/
theorem nested (balanced : Balanced text) (depth : Nat) : Text.Nested depth text := by
  induction balanced generalizing depth with
  | empty => simp [Text.Nested, Text.outsideEscapes]
  | @char c rest plain _ ih =>
      simp only [List.mem_cons, List.not_mem_nil, or_false, not_or] at plain
      exact .cons plain.2.2.2.2 (by simp [plain]) (ih depth)
  | @parens inner rest isInner _ ihInner ihRest =>
      have closing : Text.Nested (depth + 1) (')' :: rest) :=
        .cons (by decide) (by simp) (ihRest depth)
      have counted : depth + 1 + inner.outsideEscapes.count ')' =
          inner.outsideEscapes.count '(' + (depth + 1) := by
        rw [isInner.counted, Nat.add_comm]
      have body := (ihInner (depth + 1)).append isInner.complete counted closing
      exact .cons (by decide) (by simp [Nat.add_comm]) body

end Balanced

namespace FreeText

variable {depth level : Nat} {text rest : Text} {c : Char}

theorem splitAtClosing?_cons (notEscape : c ≠ '\\')
    (counted : level + [c].count ')' = [c].count '(' + depth) (rest : Text) :
    splitAtClosing? depth (c :: rest) =
      (splitAtClosing? level rest).map fun cut => (c :: cut.1, cut.2) := by
  by_cases isOpening : c = '('
  · subst isOpening
    obtain rfl : level = depth + 1 := by simpa [Nat.add_comm] using counted
    rw [splitAtClosing?]
  · by_cases isClosing : c = ')'
    · subst isClosing
      obtain rfl : depth = level + 1 := by simpa using counted.symm
      rw [splitAtClosing?]
    · obtain rfl : level = depth := by simpa [isOpening, isClosing] using counted
      rw [splitAtClosing?] <;> simp [notEscape, isOpening, isClosing]

theorem splitAtClosing?_eq_none (nested : Text.Nested depth text) :
    splitAtClosing? depth text = none := by
  induction text using Text.escapes_induction generalizing depth with
  | nil | lone => rfl
  | pair c rest ih => rw [splitAtClosing?, ih nested, Option.map_none]
  | plain c rest notEscape ih =>
      obtain ⟨level, counted, nested⟩ := nested.exists_level notEscape
      rw [splitAtClosing?_cons notEscape counted, ih nested, Option.map_none]

theorem splitAtClosing?_append (nested : Text.Nested depth text)
    (complete : text.endsInEscape = false)
    (counted : level + text.outsideEscapes.count ')' = text.outsideEscapes.count '(' + depth)
    (rest : Text) :
    splitAtClosing? depth (text ++ rest) =
      (splitAtClosing? level rest).map fun cut => (text ++ cut.1, cut.2) := by
  induction text using Text.escapes_induction generalizing depth with
  | nil =>
      obtain rfl : level = depth := by simpa [Text.outsideEscapes] using counted
      simp
  | lone => cases complete
  | pair c text ih =>
      rw [List.cons_append, List.cons_append, splitAtClosing?, ih nested complete counted,
        Option.map_map]
      rfl
  | plain c text notEscape ih =>
      obtain ⟨next, step, nested⟩ := nested.exists_level notEscape
      rw [Text.endsInEscape_cons notEscape] at complete
      rw [Text.outsideEscapes_cons notEscape, ← List.singleton_append, List.count_append,
        List.count_append] at counted
      rw [List.cons_append, splitAtClosing?_cons notEscape step,
        ih nested complete (by omega), Option.map_map]
      rfl

end FreeText

end SearchQuery
