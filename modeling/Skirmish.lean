import Skirmish.Ident
import Skirmish.Position
import Skirmish.Order.Keyed
import Skirmish.Order.Bisection
import Skirmish.Order.Canonical
import Skirmish.Terrain.Sight
import Skirmish.Zone
import Skirmish.Rules
import Skirmish.Cooldowns
import Skirmish.Threats
import Skirmish.History
import Skirmish.Cast
import Skirmish.Refusal
import Skirmish.Encounter
import Skirmish.Digest
import Skirmish.Saved.Codec
import Skirmish.Saved.Encounter
import Skirmish.Saved.Finding
import Skirmish.Content.Load
import Skirmish.Proofs.Order.Updates
import Skirmish.Proofs.Order.Separation
import Skirmish.Proofs.Order.Selection
import Skirmish.Proofs.Zone.Living
import Skirmish.Proofs.Intake
import Skirmish.Proofs.Encounter.Run
import Skirmish.Proofs.Encounter.Unbroken
import Skirmish.Proofs.Encounter.Arrival
import Skirmish.Proofs.Zone.Account
import Skirmish.Proofs.Resolution
import Skirmish.Proofs.Gate
import Skirmish.Proofs.Encounter.Account
import Skirmish.Proofs.Ledger.Soundness
import Skirmish.Proofs.Ledger.Mentions
import Skirmish.Proofs.Ledger.Remaining
import Skirmish.Proofs.Encounter.Mentions
import Skirmish.Proofs.Encounter.Waiting
import Skirmish.Proofs.History.Retention
import Skirmish.Proofs.Terrain.Touch
import Skirmish.Proofs.Terrain.Sight
import Skirmish.Proofs.Encounter.Balance
import Skirmish.Proofs.Encounter.Checks
import Skirmish.Proofs.Digest.Layout
import Skirmish.Proofs.History.Mirror
import Skirmish.Proofs.Encounter.Mirror
import Skirmish.Proofs.Encounter.Refused
import Skirmish.Proofs.Order.Sorting
import Skirmish.Proofs.Saved.Reload
import Skirmish.Proofs.Position
import Skirmish.Proofs.Terrain.Stride
import Skirmish.Proofs.Resolution.Sequence
import Skirmish.Proofs.Resolution.Cap
import Skirmish.Proofs.Encounter.Contest
import Skirmish.Proofs.Resolution.Targets
import Skirmish.Proofs.Terrain.Mutual
import Skirmish.Proofs.Ledger.Countdown
import Skirmish.Proofs.Ledger.Drawn
import Skirmish.Proofs.Ledger.Recording
import Skirmish.Proofs.Ledger.Views
import Skirmish.Proofs.Ledger.Forgetting
import Skirmish.Proofs.Intake.Legal
import Skirmish.Proofs.Order.CanonicalForm
import Skirmish.Proofs.Terrain.Tiles
import Skirmish.Proofs.Content.Range
import Skirmish.Proofs.Content.Book
import Skirmish.Proofs.Violation
import Skirmish.Proofs.Terrain.Walk
import Skirmish.Proofs.Entity.Hits
import Skirmish.Proofs.Zone.Map
