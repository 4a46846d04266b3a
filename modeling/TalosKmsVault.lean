import TalosKmsVault.Duration
import TalosKmsVault.Lease
import TalosKmsVault.Election
import TalosKmsVault.System
import TalosKmsVault.Cluster
import TalosKmsVault.Cluster.Reads
import TalosKmsVault.Cluster.Exclusion
import TalosKmsVault.Cluster.Contention
import TalosKmsVault.Gate
import TalosKmsVault.Cluster.Identity
import TalosKmsVault.Lifecycle
import TalosKmsVault.Uuid
import TalosKmsVault.Renewal
import TalosKmsVault.Uuid.Spelling
import TalosKmsVault.Middleware
import TalosKmsVault.AuthConfig
import TalosKmsVault.Authenticate
import TalosKmsVault.Manager
import TalosKmsVault.Manager.Run
