import SearchQuery.Proofs.FirstGroup
import SearchQuery.Proofs.Framing

/-! # Groups are queries

The text of a group is parsed as a query of its own would be, with the levels that are left for it.
Nothing that was read before it counts, and where it stands is told only by the places and levels that
are named. So a query whose groups are all closed can be put in parentheses, and is then a group of
the same clauses.
-/

namespace SearchQuery

namespace Reader

variable {settings : Settings} {query : Text}

/-- In parentheses a query is one level deeper and one byte further on. -/
theorem parseAt_parenthesised (settings : Settings) (query : Text) :
    parseAt (settings.limitedTo (settings.maxDepth + 1)) 1 (0 + (Text.byteSize [] + 1)) query =
      (parse settings query).shifted { levels := 1, bytes := 1 } :=
  parseAt_shifted settings { levels := 1, bytes := 1 } 0 0 query

theorem ends_parenthesised (closed : GroupText.close? (query ++ [')']) = some (query, []))
    (unbroken : (parse settings query).Unbroken) :
    (ofText ('(' :: (query ++ [')']))).Ends
      ((settings.limitedTo (settings.maxDepth + 1)).scope 0 0)
      { should := [(parse settings query).clauses.toClause] } (parse settings query).failure := by
  obtain ⟨closing, reached, atClosing⟩ :=
    (begun_ofText (settings.limitedTo (settings.maxDepth + 1)) 0 0 _).exists_atClosing closed
  obtain ⟨after, leaves, ready⟩ := atClosing.exists_ready (Nat.succ_pos _)
    (parseAt_parenthesised settings query) unbroken.shifted
  rw [unbroken.failure_shifted] at ready
  exact ready.ends_of_nil.after (reached.trans leaves)

theorem ends_parenthesised_of_tooDeep {limit : Nat}
    (closed : GroupText.close? (query ++ [')']) = some (query, []))
    (failed : (parse settings query).failure = some (.nestedTooDeep limit)) :
    (ofText ('(' :: (query ++ [')']))).Ends
      ((settings.limitedTo (settings.maxDepth + 1)).scope 0 0) {}
      (some (.nestedTooDeep (limit + 1))) := by
  obtain ⟨closing, reached, atClosing⟩ :=
    (begun_ofText (settings.limitedTo (settings.maxDepth + 1)) 0 0 _).exists_atClosing closed
  have inner := congrArg Parsed.failure (parseAt_parenthesised settings query)
  have stillFailed := congrArg (Option.map (Failure.shifted { levels := 1, bytes := 1 })) failed
  have ends := atClosing.ends_failed (Nat.succ_pos _) (inner.trans stillFailed) rfl
  exact ends.after reached

end Reader

/-- Putting a query in parentheses makes it a group, for which one more level has to be allowed. Its
own groups are all closed, in parentheses as without. If they are too deep in the query they are so in
the group, and nothing comes of it. -/
theorem parse_parenthesised (settings : Settings) (query : Text) (contained : query.SelfContained) :
    let parsed := parse settings query
    let wrapped := parse { settings with maxDepth := settings.maxDepth + 1 } ('(' :: (query ++ [')']))
    (∀ offset, parsed.failure ≠ some (.unclosedGroup offset)) ∧
    ((∀ limit, parsed.failure ≠ some (.nestedTooDeep limit)) →
      wrapped.clauses = { should := [parsed.clauses.toClause] } ∧
      wrapped.failure = parsed.failure) ∧
    ∀ limit, parsed.failure = some (.nestedTooDeep limit) →
      limit = settings.maxDepth ∧ wrapped.clauses = {} ∧
      wrapped.failure = some (.nestedTooDeep (settings.maxDepth + 1)) := by
  intro parsed wrapped
  have closed : ∀ offset, parsed.failure ≠ some (.unclosedGroup offset) := by
    intro offset failed
    exact (history_parseAt settings 0 0 query).ne_unclosedGroup contained offset
      (fatal?_eq_some_iff.2 ⟨failed, rfl⟩)
  refine ⟨closed, ?_, ?_⟩
  · intro notTooDeep
    have unbroken : parsed.Unbroken := by
      intro fatal failed
      cases fatal with
      | unclosedGroup offset => exact absurd failed (closed offset)
      | nestedTooDeep limit => exact absurd failed (notTooDeep limit)
      | rejected => rfl
    exact Reader.parseAt_of_ends (Reader.ends_parenthesised contained.close_self unbroken)
  · intro limit failed
    have isLimit : limit = settings.maxDepth := limit_of_nestedTooDeep failed
    subst isLimit
    exact ⟨rfl, Reader.parseAt_of_ends
      (Reader.ends_parenthesised_of_tooDeep contained.close_self failed)⟩

/-- In `a'b (c')` there is a quote character without another one in each of two groups of it. -/
theorem parse_parenthesised_apostrophes :
    let settings : Settings := { defaultFields := [['f']], maxDepth := 1 }
    let query : Text := ['a', '\'', 'b', ' ', '(', 'c', '\'', ')']
    let wrapped := parse { settings with maxDepth := 2 } ('(' :: (query ++ [')']))
    query.SelfContained ∧ wrapped.failure = none ∧
      wrapped.clauses = { should := [.bool [] [] [.bool [] [] [.text ['f'] ['a', '\'', 'b'] false],
        .bool [] [] [.bool [] [] [.text ['f'] ['c', '\''] false]]]] } := by
  intro settings query wrapped
  have letters : Text.isAlphanumeric 'a' ∧ Text.isAlphanumeric 'c' := by decide +kernel
  have contained : query.SelfContained :=
    { unescaped := by decide
      unquoted := by
        rintro mark ⟨⟩
        rfl
      apostrophes := by simp [query, Text.isQuote, letters]
      nested := by
        intro front isFront
        have all : ∀ size ≤ query.length,
            (query.take size).count ')' ≤ (query.take size).count '(' := by decide +kernel
        rw [List.prefix_iff_eq_take.1 isFront]
        exact all _ isFront.length_le
      balanced := by decide }
  obtain ⟨-, whole, -⟩ := parse_parenthesised settings query contained
  have unbroken : (parse settings query).failure = none := by decide +kernel
  obtain ⟨clauses, failure⟩ := whole (by rw [unbroken]; exact nofun)
  have isTree : (parse settings query).clauses.toClause = .bool [] [] [.bool [] [] [.text ['f']
      ['a', '\'', 'b'] false], .bool [] [] [.bool [] [] [.text ['f'] ['c', '\''] false]]] := by
    decide +kernel
  rw [isTree] at clauses
  exact ⟨contained, failure.trans unbroken, clauses⟩

end SearchQuery
