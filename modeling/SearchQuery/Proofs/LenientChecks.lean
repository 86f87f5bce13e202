import SearchQuery.Proofs.CheckInfluence
import SearchQuery.Proofs.Leaves

/-! # Checks that give back what others refuse

With such checks nothing is refused, and a query is parsed as with the others but for what they
refuse: its clauses are the same, and of the failures those are left that end the reading.
-/

namespace SearchQuery

namespace Settings

variable {settings : Settings}

end Settings

namespace Parsed

/-- Whether no refused value is reported. -/
def NotRejected (parsed : Parsed) : Prop := ∀ rejection, parsed.failure ≠ some (.rejected rejection)

theorem NotRejected.failure_eq {parsed : Parsed} (notRejected : parsed.NotRejected) :
    parsed.failure = parsed.fatal? := by
  cases failed : parsed.failure with
  | none => simp [fatal?, failed]
  | some failure =>
      cases failure with
      | rejected rejection => exact absurd failed (notRejected rejection)
      | unclosedGroup | nestedTooDeep => exact (fatal?_of_isFatal failed rfl).symm

theorem Agrees.notRejected {parsed : Parsed} (agrees : parsed.Agrees)
    (nothing : parsed.rejections = []) : parsed.NotRejected := by
  intro rejection rejected
  rcases agrees with ongoing | ⟨fatal, unclosed, failed⟩
  · rw [ongoing.failure_eq, nothing] at rejected
    cases rejected
  · cases rejected.symm.trans failed.failure_eq
    cases failed.isFatal

variable {settings : Settings} {depth : Nat} {before after : Parsed}

end Parsed

end SearchQuery
