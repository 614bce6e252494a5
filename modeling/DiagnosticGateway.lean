import DiagnosticGateway.Bench.Directory
import DiagnosticGateway.Bench.GatewayRig
import DiagnosticGateway.CommandLine.TesterCommand
import DiagnosticGateway.Main
import DiagnosticGateway.Proofs.CommandLine.HexRequest
import DiagnosticGateway.Proofs.Config.RoundTrip
import DiagnosticGateway.Proofs.Connection.Activation
import DiagnosticGateway.Proofs.Connection.Causality
import DiagnosticGateway.Proofs.Connection.Closing
import DiagnosticGateway.Proofs.Connection.Stream
import DiagnosticGateway.Proofs.Connection.System
import DiagnosticGateway.Proofs.Doip.Alignment
import DiagnosticGateway.Proofs.Doip.RoundTrip
import DiagnosticGateway.Proofs.Forwarder.Bystanders
import DiagnosticGateway.Proofs.Forwarder.Endurance
import DiagnosticGateway.Proofs.Forwarder.Provenance
import DiagnosticGateway.Proofs.Forwarder.Thread
import DiagnosticGateway.Proofs.Gateway.Leases
import DiagnosticGateway.Proofs.IsoTp.Progress
import DiagnosticGateway.Proofs.IsoTp.Sending
import DiagnosticGateway.Proofs.IsoTp.StaleFlowControl
import DiagnosticGateway.Proofs.Relay.History
import DiagnosticGateway.Proofs.Session.Endurance
import DiagnosticGateway.Proofs.Session.Thread
import DiagnosticGateway.Proofs.Session.Transcript
import DiagnosticGateway.Proofs.Transfer.Lockstep
import DiagnosticGateway.Proofs.Config.Validity
import DiagnosticGateway.Proofs.Doip.Writing
import DiagnosticGateway.Proofs.IsoTp.FrameAgreement
import DiagnosticGateway.Proofs.Doip.Retrying
import DiagnosticGateway.Proofs.Tester.Answers
