import Wardnet.Tunnel.HandlerWaits
import Wardnet.Authority.Acknowledge
import Wardnet.Authority.Reconcile
import Wardnet.Authority.Tombstone
import Wardnet.Authority.Teardown
import Wardnet.Tunnel.Routable
import Wardnet.Tunnel.Heartbeat
import Wardnet.Ddns.Publish
import Wardnet.Ddns.Reported
import Wardnet.Ddns.Sharing
import Wardnet.Ddns.Active
import Wardnet.Ddns.Challenge
import Wardnet.Authority.Trial
import Wardnet.Billing.SyncedReads
import Wardnet.Authority.Lifecycle
import Wardnet.Authority.Admission
import Wardnet.Enrollment.SingleUse
import Wardnet.Auth.Grants
import Wardnet.Identities.Passwords
import Wardnet.Identities.Freed
import Wardnet.Identities.Revocation
import Wardnet.Identities.Resolution
import Wardnet.Identities.LastMethod
import Wardnet.Identities.SessionLife
import Wardnet.Tunnel.Closing
import Wardnet.Tunnel.Integrity
import Wardnet.Sni.Names
import Wardnet.Billing.Promotions
import Wardnet.Billing.Changes
import Wardnet.Tunnel.Preamble
import Wardnet.Billing.Catalog
import Wardnet.Sni.Proxy
import Wardnet.Billing.Signature
