import Hasteward.Go.Strings
import Hasteward.Common
import Hasteward.Calendar
import Hasteward.Go.Time
import Hasteward.Cnpg.Triage
import Hasteward.Cnpg.SplitBrain
import Hasteward.Cnpg.Lsn
import Hasteward.Cnpg.MostAdvanced
import Hasteward.Galera.Triage
import Hasteward.Galera.SplitBrain
import Hasteward.Repair.Basic
import Hasteward.Cnpg.Repair
import Hasteward.Galera.Repair
import Hasteward.Engine
import Hasteward.Shell
import Hasteward.K8s.Exec
import Hasteward.Stream
import Hasteward.Controller.Scheduler
import Hasteward.Controller.Jobs
import Hasteward.Restic.Retention
import Hasteward.K8s.Api
import Hasteward.Cnpg.Fence
import Hasteward.Cnpg.Heal
import Hasteward.Cnpg.Restore
import Hasteward.Galera.Heal
import Hasteward.Galera.Scale
import Hasteward.Restic.Latest
import Hasteward.Restic.Tags
import Hasteward.Go.Text
import Hasteward.Collect
import Hasteward.Galera.Collect
import Hasteward.Cnpg.Collect
import Hasteward.Controller.Reconcile
import Hasteward.Logging
import Hasteward.Restic.Prune
