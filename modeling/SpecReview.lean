import SpecReview.Main
import SpecReview.Proofs.Delta.Layout
import SpecReview.Proofs.Delta.Rendering
import SpecReview.Proofs.Merge.Application
import SpecReview.Proofs.Merge.Existing
import SpecReview.Proofs.Requirement.Scenarios
import SpecReview.Proofs.Review.Position
import SpecReview.Proofs.Review.Verdict
import SpecReview.Proofs.Tree.BaseSpecs
import SpecReview.Proofs.Review.Strictness
import SpecReview.Proofs.Delta.Respelling
import SpecReview.Proofs.Review.Agreement
import SpecReview.Proofs.Review.Outcome
import SpecReview.Proofs.Delta.Headings
import SpecReview.Proofs.Review.Isolation
import SpecReview.Proofs.CommandLine.Everything
import SpecReview.Proofs.Rename.Order
import SpecReview.Proofs.Rename.Backticks
import SpecReview.Proofs.Review.Conflict
import SpecReview.Proofs.Review.Repetition
import SpecReview.Proofs.Scenario.Headings
import SpecReview.Proofs.Requirement.WrittenBack
import SpecReview.Proofs.Text.Keyword
import SpecReview.Proofs.Name.Words
import SpecReview.Proofs.Tree.Discovery
import SpecReview.Proofs.CommandLine.Resolution
import SpecReview.Proofs.Text.LineEnding
import SpecReview.Proofs.Review.OneLine
