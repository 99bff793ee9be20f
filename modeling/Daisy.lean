import Daisy.StdMap
import Daisy.Databases.Types
import Daisy.Databases.Catalog
import Daisy.Databases.Common
import Daisy.Databases.Invariant
import Daisy.Databases.ShutdownFailure
import Daisy.Databases.Interleaving
import Daisy.Databases.ShutdownRace
import Daisy.Interpreters.DropQuery
import Daisy.Interpreters.Detach
import Daisy.Interpreters.Access
import Daisy.Storages.Sequences
import Daisy.Storages.IdempotentKeys
import Daisy.Storages.Ingest
