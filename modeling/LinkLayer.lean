import LinkLayer.Main
import LinkLayer.Proofs.Config.Overrides
import LinkLayer.Proofs.Identity.Address
import LinkLayer.Proofs.Identity.PrivateKey
import LinkLayer.Proofs.Identity.Text
import LinkLayer.Proofs.Manager.Start
import LinkLayer.Proofs.Mesh.Agreement
import LinkLayer.Proofs.Registry.Duplicate
import LinkLayer.Proofs.Registry.History
import LinkLayer.Proofs.Signal.History
import LinkLayer.Proofs.Transport.DialDeadline
import LinkLayer.Proofs.Uri.Credentials
import LinkLayer.Proofs.Uri.Listened
import LinkLayer.Proofs.Uri.Options
import LinkLayer.Proofs.Uri.Target
import LinkLayer.Proofs.World.Cuts
import LinkLayer.Proofs.World.Deadlines
import LinkLayer.Proofs.World.Inbound
import LinkLayer.Proofs.World.Invisible
import LinkLayer.Proofs.World.Outcomes
import LinkLayer.Proofs.World.Reconfigure
import LinkLayer.Proofs.World.Stopping
import LinkLayer.Scenario
import LinkLayer.Scenario.Neighbourhood
import LinkLayer.Scenario.PortNames
import LinkLayer.Signal
import LinkLayer.TcpScenario
