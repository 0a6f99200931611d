import VaneWeb3.Primitives
import VaneWeb3.Runtime
import VaneWeb3.TxProcessing
import VaneWeb3.Orchestrator
import VaneWeb3.Safety
import VaneWeb3.Runs
import VaneWeb3.Interleaving
import VaneWeb3.PeerStore
import VaneWeb3.Failures
