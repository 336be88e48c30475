import Almanac.Fault.Kind
import Almanac.Config.Session
import Almanac.Log.Setup
import Almanac.Proofs.Recall
import Almanac.Proofs.Strictness
import Almanac.Proofs.Faults
import Almanac.Proofs.Effects
import Almanac.Proofs.Failures
import Almanac.Proofs.Clients
import Almanac.Proofs.Growth
import Almanac.Proofs.PrimaryKey
import Almanac.Proofs.Canonical
import Almanac.Proofs.Trailing
import Almanac.Proofs.Steps
import Almanac.Proofs.ModeInForce
import Almanac.Proofs.Accounting
import Almanac.Proofs.Facade
import Almanac.Proofs.LiveSettings
import Almanac.Proofs.Secrets
import Almanac.Proofs.SavedConfig
import Almanac.Proofs.SelectGrammar
import Almanac.Proofs.InsertGrammar
import Almanac.Proofs.WellFormed
import Almanac.Proofs.Execution
import Almanac.Proofs.Seeding
import Almanac.Proofs.Balance
import Almanac.Proofs.GivenSettings
import Almanac.Proofs.ReportedFaults
import Almanac.Proofs.Rounding
import Almanac.Proofs.Reread
import Almanac.Proofs.Variables
import Almanac.Proofs.WordPositions
