import GuestSim.FileTree
import GuestSim.Main
import GuestSim.Proofs.Cache.Symbols
import GuestSim.Proofs.Configuration
import GuestSim.Proofs.Mini.DecodeFailure
import GuestSim.Proofs.Mini.Image
import GuestSim.Proofs.Mini.Noninterference
import GuestSim.Proofs.Mini.RoundTrip
import GuestSim.Proofs.Mini.Termination
import GuestSim.Proofs.Mini.Trace
import GuestSim.Proofs.Reaction
import GuestSim.Proofs.Retention
import GuestSim.Proofs.Stopping
