import SearchQuery.Main
import SearchQuery.Settings.Summary
import SearchQuery.Proofs.CheckedLeaves
import SearchQuery.Proofs.FailureTrace
import SearchQuery.Proofs.RoundTrip
import SearchQuery.Proofs.DepthLimit
import SearchQuery.Proofs.LargerLimit
import SearchQuery.Proofs.Joining
import SearchQuery.Proofs.Scoping
import SearchQuery.Proofs.CheckInfluence
import SearchQuery.Proofs.Opening
import SearchQuery.Proofs.Cutting
import SearchQuery.Proofs.OwnEvents
import SearchQuery.Proofs.Tiling
import SearchQuery.Proofs.Replay
import SearchQuery.Proofs.Closing
import SearchQuery.Proofs.GroupsAsQueries
import SearchQuery.Proofs.SearchedFields
import SearchQuery.Proofs.RestrictedField
import SearchQuery.Proofs.CommandOutcome
import SearchQuery.Proofs.QuotedLiteral
import SearchQuery.Proofs.AllowingSwitch
import SearchQuery.Proofs.DocumentReader
import SearchQuery.Proofs.Rendering
import SearchQuery.Proofs.FieldMapping
import SearchQuery.Proofs.EscapedWords
import SearchQuery.Proofs.FreeTextLiteral
import SearchQuery.Proofs.Shorthand
import SearchQuery.Proofs.ScopeOrder
import SearchQuery.Proofs.FanOut
import SearchQuery.Proofs.CursorSteps
import SearchQuery.Proofs.JsonScalars
import SearchQuery.Proofs.JsonValues
import SearchQuery.Proofs.WrittenSettings
import SearchQuery.Proofs.TermState
