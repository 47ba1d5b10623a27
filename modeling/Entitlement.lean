import Entitlement.Privilege.Order
import Entitlement.Proofs.Bookkeeping
import Entitlement.Proofs.Chaining
import Entitlement.Proofs.Commuting
import Entitlement.Proofs.Declarations
import Entitlement.Proofs.Delegation
import Entitlement.Proofs.Finding
import Entitlement.Proofs.Granting
import Entitlement.Proofs.Hashing
import Entitlement.Proofs.Including
import Entitlement.Proofs.Isolation
import Entitlement.Proofs.Lagging
import Entitlement.Proofs.Linking
import Entitlement.Proofs.Matching
import Entitlement.Proofs.Moving
import Entitlement.Proofs.Outlines
import Entitlement.Proofs.Persistence
import Entitlement.Proofs.Querying
import Entitlement.Proofs.ReadingBack
import Entitlement.Proofs.Refusing
import Entitlement.Proofs.Replaying
import Entitlement.Proofs.Respelling
import Entitlement.Proofs.Retaining
import Entitlement.Proofs.Storing
import Entitlement.Settings.Environment
