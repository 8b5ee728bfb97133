import EdgeSync.Common
import EdgeSync.Chunks
import EdgeSync.DataURI
import EdgeSync.Storage.Backend
import EdgeSync.Storage.Append
import EdgeSync.Storage.Readers
import EdgeSync.Storage.Reassembly
import EdgeSync.Storage.Objects
import EdgeSync.Storage.DeliveryStatus
import EdgeSync.Storage.Activation
import EdgeSync.Storage.Notifications
import EdgeSync.Storage.Organizations
import EdgeSync.Storage.Webhooks
import EdgeSync.Storage.Calls
import EdgeSync.Storage.Store
import EdgeSync.Storage.Invariants
import EdgeSync.Storage.Payloads
import EdgeSync.Storage.Uploads
import EdgeSync.Storage.Interleaving
import EdgeSync.Storage.Linearizable
import EdgeSync.Storage.Queries
import EdgeSync.Storage.Keyed
import EdgeSync.Storage.ChangeFeeds
import EdgeSync.Storage.Leader
import EdgeSync.Storage.Connect
import EdgeSync.Security.Authenticate
