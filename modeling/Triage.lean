import Triage.Drill
import Triage.Failure.Kind
import Triage.Main
import Triage.Rule.Review
import Triage.Time.Span
import Triage.Proofs.Act
import Triage.Proofs.Actions
import Triage.Proofs.Beginning
import Triage.Proofs.Explaining
import Triage.Proofs.Overruled
import Triage.Proofs.TrailExplains
import Triage.Proofs.KeepsActions
import Triage.Proofs.NotifiesAgain
import Triage.Proofs.AppliesAsFetched
import Triage.Proofs.Delays
import Triage.Proofs.EveryJobOnce
import Triage.Proofs.OutcomesStand
import Triage.Proofs.StayApart
import Triage.Proofs.OldestFirst
import Triage.Proofs.EitherStore
import Triage.Proofs.FiniteMap
import Triage.Proofs.GivesUp
import Triage.Proofs.VersionPins
import Triage.Proofs.EditedTogether
import Triage.Proofs.ExportImport
import Triage.Proofs.BadFiles
import Triage.Proofs.OneConnection
import Triage.Proofs.Unfinished
import Triage.Proofs.Protected
import Triage.Proofs.DryRun
import Triage.Proofs.AppendOnly
import Triage.Proofs.LastExecuted
import Triage.Proofs.CountedAlike
import Triage.Proofs.FailFast
import Triage.Proofs.Winners
import Triage.Proofs.OverTheCap
import Triage.Proofs.WritesOnce
import Triage.Proofs.Comparing
import Triage.Proofs.Thresholds
import Triage.Proofs.SparesSettled
import Triage.Proofs.AsStored
import Triage.Proofs.HandedOver
import Triage.Proofs.Deliveries
import Triage.Proofs.Retries
import Triage.Proofs.RuleIds
import Triage.Proofs.ImportedAgain
