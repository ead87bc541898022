import Jackfield.Lib.Machine
import Jackfield.Lib.EvictingQueue
import Jackfield.Lib.Channel
import Jackfield.Lib.Ranking
import Jackfield.Registry.Registration
import Jackfield.Router.BuiltIn
import Jackfield.Router.Agreement
import Jackfield.Router.Outcome
import Jackfield.Router.Feedback
import Jackfield.Router.Stability
import Jackfield.Router.Absorbing
import Jackfield.Router.Preference
import Jackfield.Router.Sweep
import Jackfield.Bus.Moves
import Jackfield.Bus.Conservation
import Jackfield.Bus.PendingCap
import Jackfield.Bus.Cancellation
import Jackfield.Bus.Registrations
import Jackfield.Bus.Stranding
import Jackfield.Bus.Deregistration
import Jackfield.Bus.Requests
import Jackfield.Bus.Termination
import Jackfield.Bus.Drain
import Jackfield.Codec
import Jackfield.Endpoint.Relay
import Jackfield.Endpoint.Delivery
import Jackfield.Endpoint.Progress
import Jackfield.Endpoint.Dimensions
import Jackfield.Endpoint.Grpc
import Jackfield.Endpoint.GrpcMoves
import Jackfield.Endpoint.Cleanup
import Jackfield.Endpoint.Provenance
import Jackfield.Endpoint.Connections
import Jackfield.Endpoint.Isolation
import Jackfield.Endpoint.Silence
import Jackfield.Endpoint.Handovers
import Jackfield.Endpoint.Custody
import Jackfield.Integrations.Python
import Jackfield.Integrations.PyDelivery
import Jackfield.Integrations.PyRounds
import Jackfield.Integrations.PyEmptiness
import Jackfield.Lib.Metering
import Jackfield.Endpoint.Throttle
import Jackfield.Endpoint.Bucket
import Jackfield.Endpoint.Admission
import Jackfield.Endpoint.Waiting
import Jackfield.Endpoint.Ws
import Jackfield.Endpoint.Welcome
import Jackfield.Endpoint.Pipes
import Jackfield.Endpoint.Streams
import Jackfield.Endpoint.Passage
import Jackfield.Endpoint.ConnectionRegistry
import Jackfield.Endpoint.ConnectionCount
import Jackfield.Lib.LaggingCount
import Jackfield.Endpoint.Filter
import Jackfield.Endpoint.Parsing
import Jackfield.Bus.Order
import Jackfield.Bus.Turns
import Jackfield.Endpoint.Senders
import Jackfield.Endpoint.WsConduct
import Jackfield.Endpoint.WsCustody
import Jackfield.Endpoint.WsEnding
import Jackfield.Endpoint.Ordering
import Jackfield.Endpoint.WsClients
import Jackfield.Endpoint.GrpcClients
import Jackfield.Integrations.PyOrder
import Jackfield.Endpoint.WsExchange
import Jackfield.Bus.Renaming
import Jackfield.Endpoint.Direct
import Jackfield.Endpoint.DirectSends
import Jackfield.Endpoint.DirectThrottle
