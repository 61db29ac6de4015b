import CilRecovery.Classifier.Basic
import CilRecovery.Proofs.Registry.Disambiguation
import CilRecovery.Proofs.Run.Simulation
import CilRecovery.Proofs.Classifier.Locality
import CilRecovery.Proofs.Classifier.Payload
import CilRecovery.Proofs.Classifier.StrictMode
import CilRecovery.Proofs.Classifier.TableOrder
import CilRecovery.Proofs.Classifier.Unavailable
import CilRecovery.Proofs.Body.Renaming
import CilRecovery.Proofs.Classifier.Renaming
import CilRecovery.Proofs.Classifier.Growth
import CilRecovery.Proofs.Classifier.Outcomes
import CilRecovery.Proofs.Classifier.FirstMatch
import CilRecovery.Proofs.Search.Helpers
import CilRecovery.Proofs.Registry.Outline
import CilRecovery.Proofs.Decision.Answer
import CilRecovery.Proofs.Decision.FlagFamilies
import CilRecovery.Proofs.Decision.WholeBody
import CilRecovery.Proofs.Decision.OneHelper
import CilRecovery.Proofs.Decision.SlotLoads
import CilRecovery.Proofs.Decision.Depth
import CilRecovery.Proofs.Decision.Comparisons
import CilRecovery.Proofs.Decision.NoHop
import CilRecovery.Proofs.Search.Flags
import CilRecovery.Proofs.Search.Windows
import CilRecovery.Proofs.Search.Matches
import CilRecovery.Proofs.Search.Unfilled
import CilRecovery.Proofs.Decision.Surroundings
import CilRecovery.Proofs.Summary.Counting
import CilRecovery.Proofs.Template.Offsets
import CilRecovery.Proofs.Template.Filling
import CilRecovery.Proofs.Classifier.Batch
import CilRecovery.Proofs.Classifier.Record
import CilRecovery.Proofs.Body.History
import CilRecovery.Proofs.Text.Hex
import CilRecovery.Proofs.Cil.Token
import CilRecovery.Proofs.Template.Rendering
import CilRecovery.Proofs.Registry.LiteralFamily
