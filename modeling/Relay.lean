import Relay.Basic
import Relay.Quotas.Quota
import Relay.Project.State
import Relay.Project.Actor
import Relay.Project.Frame
import Relay.Project.Run
import Relay.Project.Queues
import Relay.Project.Senders
import Relay.Project.Requests
import Relay.Project.Network
import Relay.Project.Validation
import Relay.Project.Held
import Relay.Project.Cache
import Relay.Project.Sampling
import Relay.Project.Projection
import Relay.Project.Answers
import Relay.Quotas.Redis
import Relay.Quotas.Rejections
import Relay.Quotas.Keys
import Relay.Quotas.Slots
import Relay.Store.Kafka
import Relay.Store.Chunks
import Relay.Store.Items
import Relay.Store.Sessions
import Relay.Store.Envelope
import Relay.Store.Attachments
import Relay.Store.Routing
import Relay.Store.Outcome
import Relay.Store.SessionBounds
