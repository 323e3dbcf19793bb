import Portainer.OfflineGate.Exclusion
import Portainer.Tunnel.Credentials
import Portainer.Tunnel.CronExpressions
import Portainer.Tunnel.Expiry
import Portainer.DockerProxy.Filtering
import Portainer.DockerProxy.SecuritySettings
import Portainer.Kubernetes.AccessChanges
import Portainer.Kubernetes.Interleavings
import Portainer.Kubernetes.Namespaces
import Portainer.Inventory.EdgeStackLifecycle
import Portainer.Inventory.EndpointDeletion
import Portainer.Inventory.EndpointListing
import Portainer.Inventory.NamespaceAccess
import Portainer.Users.AdministratorRights
import Portainer.Users.LocalAdministrators
import Portainer.Users.UniqueNames
import Portainer.Stacks.Confinement
import Portainer.Stacks.GitAtomicity
import Portainer.Stacks.OwnControls
import Portainer.Stacks.OwnIdentity
import Portainer.Stacks.Relocation
import Portainer.Stacks.SecureDeployments
import Portainer.Stacks.UniqueNames
import Portainer.Migration.Restart
import Portainer.Applications.ConfigurationRoundTrip
import Portainer.Applications.History
import Portainer.Applications.Placements
import Portainer.Applications.Reservations
import Portainer.Applications.VolumeClaims
import Portainer.Archive.Confinement
import Portainer.Archive.Packing.RoundTrip
import Portainer.AzureProxy.Freshness
import Portainer.AzureProxy.Mediation
import Portainer.Containers.Editing
import Portainer.Containers.Logs
import Portainer.CustomTemplates.Coherence
import Portainer.EdgeAgent.Polls
import Portainer.Environments.LostUpdates
import Portainer.Git.CloneAddresses
import Portainer.Identifiers.Distinct
import Portainer.Images.SplitAndJoin
import Portainer.Ingresses.Exactness
import Portainer.Ingresses.HostEdits
import Portainer.ResourceControls.AdministratorsOnly
import Portainer.ResourceControls.OwnAccess
import Portainer.ResourceControls.Uniqueness
import Portainer.Roles.Precedence
import Portainer.SecretProxy.Transparency
import Portainer.Secrets.RoundTrip
import Portainer.Services.Constraints
import Portainer.Webhooks.Retagging
