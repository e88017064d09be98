import Vraxel.Agent.Reports
import Vraxel.Agent.Scraper
import Vraxel.Agent.Silence
import Vraxel.Agent.Unwind
import Vraxel.Agent.Upload
import Vraxel.Agent.Wakeup
import Vraxel.AgentGw.BootNonce
import Vraxel.AgentGw.Compensation
import Vraxel.AgentGw.Debounce
import Vraxel.AgentGw.Epoch
import Vraxel.AgentGw.HostNames
import Vraxel.AgentGw.OneMachine
import Vraxel.AgentGw.Presence
import Vraxel.AgentGw.ProductUUID
import Vraxel.AgentGw.Rendezvous
import Vraxel.AgentGw.Takeover
import Vraxel.AgentGw.TokenUses
import Vraxel.Ansible.Become
import Vraxel.Ansible.Connectors
import Vraxel.Ansible.Includes
import Vraxel.Ansible.NoLog
import Vraxel.Ansible.Planner
import Vraxel.Ansible.Retries
import Vraxel.Audit.ClientIP
import Vraxel.Compute.CreateScope
import Vraxel.Compute.MergeOutcome
import Vraxel.Compute.Metrics
import Vraxel.Compute.StreamSessions
import Vraxel.Iam.CacheRaces
import Vraxel.Iam.Membership
import Vraxel.Iam.NamespaceScope
import Vraxel.Iam.OwnerColumn
import Vraxel.Iam.OwnerRaces
import Vraxel.Iam.Patterns
import Vraxel.Iam.PermissionSync
import Vraxel.Iam.RoleDeletion
import Vraxel.Iam.RoleScope
import Vraxel.Iam.RoleWrites
import Vraxel.Iam.SignIn
import Vraxel.Oidc.KeyStore
import Vraxel.Oidc.Sessions
import Vraxel.Oidc.Throttle
import Vraxel.Rest.Chain
import Vraxel.Rest.Pagination
import Vraxel.Server.DryRun
import Vraxel.StatusHub.Delivery
import Vraxel.Ui.AuthFlow
import Vraxel.Ui.Permission
import Vraxel.Ui.PermissionStore
