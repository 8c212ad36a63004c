import Switchboard.Outbound.Content
import Switchboard.Outbound.Reply
import Switchboard.Proofs.Tenancy.Scan
import Switchboard.Proofs.Tenancy.Secrets
import Switchboard.Proofs.Tenancy.Unchanged
import Switchboard.Upkeep.Hangups
import Switchboard.Proofs.Tenancy.Unedited
import Switchboard.Proofs.Tenancy.Contents
import Switchboard.Proofs.Tenancy.WellFormed
import Switchboard.Proofs.Tenancy.Accounting
import Switchboard.Proofs.Json.Leaves
import Switchboard.Proofs.Json.Blobs
import Switchboard.Proofs.Json.Codecs
import Switchboard.Proofs.Json.Records
import Switchboard.Proofs.Inbound.RoundTrip
import Switchboard.Proofs.Inbound.Grammar
import Switchboard.Proofs.Json.Values
import Switchboard.Proofs.Outbound.RoundTrip
import Switchboard.Proofs.Outbound.Replies
import Switchboard.Proofs.Upkeep.Triggers
import Switchboard.Proofs.Tenancy.Allowed
import Switchboard.Proofs.Upkeep.Delivery
import Switchboard.Proofs.Upkeep.Newest
import Switchboard.Proofs.Tenancy.Swaps
import Switchboard.Proofs.Tenancy.Reordered
import Switchboard.Proofs.Settings.Readable
import Switchboard.Proofs.Handshake
import Switchboard.Proofs.Tenancy.Suffixes
import Switchboard.Proofs.Tenancy.Discretion
import Switchboard.Proofs.Tenancy.Isolation
import Switchboard.Proofs.Inbound.Unordered
import Switchboard.Proofs.Inbound.Envelopes
import Switchboard.Proofs.Tenancy.Repeated
import Switchboard.Proofs.Tenancy.Traces
import Switchboard.Proofs.Json.Items
import Switchboard.Proofs.Inbound.Correlated
import Switchboard.Proofs.Outbound.Refreshes
import Switchboard.Proofs.Tenancy.Merges
import Switchboard.Proofs.Tenancy.Slashes
import Switchboard.Proofs.Settings.Faults
import Switchboard.Proofs.Upkeep.Hangups
import Switchboard.Proofs.Upkeep.Service
import Switchboard.Proofs.Tenancy.Ids
import Switchboard.Proofs.Tenancy.NamedHosts
import Switchboard.Proofs.Tenancy.Roster
