import SlurmResume.Python.Dict
import SlurmResume.Python.Util
import SlurmResume.Python.Shlex
import SlurmResume.Python.Format
import SlurmResume.Python.NSDict
import SlurmResume.Config
import SlurmResume.Placement
import SlurmResume.Grouping
import SlurmResume.Request
import SlurmResume.ChunkInvariants
import SlurmResume.ChunkKeys
import SlurmResume.GroupNames
import SlurmResume.Notify
import SlurmResume.Resume
import SlurmResume.Quarantine
import SlurmResume.Isolation
import SlurmResume.Coverage
import SlurmResume.Provisioning
import SlurmResume.Properties
