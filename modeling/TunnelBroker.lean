import TunnelBroker.Api.Respond
import TunnelBroker.Main
import TunnelBroker.Proofs.Succession
import TunnelBroker.Proofs.Admission
import TunnelBroker.Proofs.Agreement
import TunnelBroker.Proofs.Callers
import TunnelBroker.Proofs.Delivery
import TunnelBroker.Proofs.Handling
import TunnelBroker.Proofs.Lingering
import TunnelBroker.Proofs.Opening
import TunnelBroker.Proofs.Race
import TunnelBroker.Proofs.SpecGrammar
import TunnelBroker.Proofs.Surveys
import TunnelBroker.Proofs.Takeover
import TunnelBroker.Proofs.TunnelIds
import TunnelBroker.Proofs.OneByOne
import TunnelBroker.Proofs.Retry
import TunnelBroker.Proofs.Pools
