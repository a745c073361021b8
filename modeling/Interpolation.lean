import Interpolation.Properties
import Interpolation.Variables
import Interpolation.Log.Template
import Interpolation.Main
import Interpolation.Source.Candidate
import Interpolation.Proofs.Placeholder
import Interpolation.Proofs.SinglePass
import Interpolation.Proofs.Lockstep
import Interpolation.Proofs.Transcript
import Interpolation.Proofs.Outcome
import Interpolation.Proofs.Splicing
import Interpolation.Proofs.Agreement
import Interpolation.Proofs.DepthLimit
import Interpolation.Proofs.CycleCheck
import Interpolation.Proofs.Nesting
import Interpolation.Proofs.Tokens
import Interpolation.Proofs.ProperBodies
import Interpolation.Proofs.Appending
import Interpolation.Proofs.Spans
import Interpolation.Proofs.Concatenation
import Interpolation.Proofs.UnresolvedPosition
import Interpolation.Proofs.Template
import Interpolation.Proofs.Failing
import Interpolation.Proofs.Leniency
import Interpolation.Proofs.Interchange
import Interpolation.Proofs.SourceAnswers
import Interpolation.Proofs.AnswersAsked
import Interpolation.Proofs.ChainLeaves
import Interpolation.Proofs.GrowingChains
import Interpolation.Proofs.Visits
import Interpolation.Proofs.OwnCopies
import Interpolation.Proofs.FiniteTable
import Interpolation.Proofs.KeptExpanders
import Interpolation.Proofs.PropertyReference
import Interpolation.Proofs.RefusedReplies
import Interpolation.Proofs.FileVariables
import Interpolation.Proofs.Origins
import Interpolation.Proofs.Actions
import Interpolation.Proofs.MergedSources
import Interpolation.Proofs.DefaultValues
import Interpolation.Proofs.Unanswered
import Interpolation.Proofs.Idempotence
import Interpolation.Proofs.FloatTexts
import Interpolation.Proofs.SpelledMembers
import Interpolation.Proofs.LiteralVariables
