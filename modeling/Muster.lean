import Muster.Main
import Muster.Proofs.Ages
import Muster.Proofs.Decay
import Muster.Proofs.Echo
import Muster.Proofs.Figures
import Muster.Proofs.Interleaving
import Muster.Proofs.Lists
import Muster.Proofs.Loading
import Muster.Proofs.Newcomers
import Muster.Proofs.Spelling
import Muster.Proofs.Standstill
import Muster.Proofs.SteadyClock
import Muster.Proofs.Transitions
import Muster.Proofs.Wiring
