import SlurmResume.Python.Util
import SlurmResume.Python.NSDict

/-! What `lookup()` answers from the cluster configuration, the job records of the resume
file, and the answers the cloud provider may give to each request the program makes.

`util.py` is not under the sources, so the `util.TPU` fields, the reservations, template
information and job records `lookup()` returns, and `nodeset_map`, are modelled from the spec. A
node name parses into a prefix and the prefix into the cluster and nodeset names, so a node's
nodeset is a function of its prefix. An accelerator nodeset has no instance template and no
target shape (NSDict reads them as `{}`, here `none`) and no `enable_placement`, which reads as
false. A captured exception is an `HttpError`, with a reason and error details, or another
exception with neither; an operation's error lists at least one entry. -/

namespace SlurmResume

def PLACEMENT_MAX_CNT : Nat := 150

def BULK_INSERT_LIMIT : Nat := 5000

structure ResumeJobData where
  jobId : Nat
  partition : String
  nodesAlloc : List String
deriving DecidableEq

structure ResumeData where
  jobs : List ResumeJobData
deriving DecidableEq

structure Nodeset where
  instanceTemplate : Option String
  enablePlacement : Bool
  /-- The `machineType` of the nodeset's instance template. -/
  machineType : String
  zonePolicyAllow : List String
  zonePolicyDeny : List String
  zoneTargetShape : Option String
deriving DecidableEq

structure TpuNodeset where
  vmcount : Nat
  preserveTpu : Bool
deriving DecidableEq

structure Partition where
  partitionNodeset : List String
  partitionNodesetTpu : List String
  enableJobExclusive : Bool
deriving DecidableEq

structure Reservation where
  bulkInsertName : String
  deploymentType : Option String
  policies : List String

structure DwsFlex where
  enabled : Bool := false
  maxRunDuration : Nat := 0
  useJobDuration : Bool := false

structure NodesetProperties where
  maintenanceInterval : Option String := none
  dwsFlex : DwsFlex := {}
  instanceProperties : Option (List (String × Json)) := none

structure TemplateInfo where
  labels : List (String × String) := []
  disks : List Json := []

structure SlurmJob where
  duration : Option Nat

structure PropertiesLookup where
  nodesetProperties : String → NodesetProperties := fun _ => {}
  nodesetReservation : NodesetProperties → Option Reservation := fun _ => none
  templateInfo : Option String → TemplateInfo := fun _ => {}
  job : Nat → Option SlurmJob := fun _ => none
  universeDomain : String := "googleapis.com"

structure Lookup where
  slurmClusterName : String
  /-- The path of the scheduler's command-line client. -/
  scontrol : String
  nodePrefix : String → String
  prefixNodeset : String → String
  nodeset : String → Nodeset
  nodesetTpu : String → Option TpuNodeset
  partitions : String → Partition
  nodeRegion : String → String
  properties : PropertiesLookup := {}

namespace Lookup
variable (lkp : Lookup)

def nodeNodesetName (node : String) : String := lkp.prefixNodeset (lkp.nodePrefix node)

def nodeTpu (node : String) : Option TpuNodeset := lkp.nodesetTpu (lkp.nodeNodesetName node)

def nodeIsTpu (node : String) : Bool := (lkp.nodeTpu node).isSome

def nodeNodeset (node : String) : Nodeset := lkp.nodeset (lkp.nodeNodesetName node)

def partitionIsTpu (part : String) : Bool := !(lkp.partitions part).partitionNodesetTpu.isEmpty

def nodeEnablePlacement (node : String) : Bool :=
  !lkp.nodeIsTpu node && (lkp.nodeNodeset node).enablePlacement

def nodesetMap (node_list : List String) : List (String × List String) :=
  groupbyUnsorted node_list lkp.nodeNodesetName

def InPartition (part node : String) : Prop :=
  lkp.nodeNodesetName node ∈ (lkp.partitions part).partitionNodeset ++
    (lkp.partitions part).partitionNodesetTpu

theorem nodeEnablePlacement_eq_of_nodeset_name {a b : String}
    (h : lkp.nodeNodesetName a = lkp.nodeNodesetName b) :
    lkp.nodeEnablePlacement a = lkp.nodeEnablePlacement b := by
  simp only [nodeEnablePlacement, nodeIsTpu, nodeTpu, nodeNodeset, h]

theorem nodeTpu_eq_of_prefix {a b : String} (h : lkp.nodePrefix a = lkp.nodePrefix b) :
    lkp.nodeTpu a = lkp.nodeTpu b := by
  simp only [nodeTpu, nodeNodesetName, h]

end Lookup

structure ErrorEntry where
  code : String
  message : Option String
deriving DecidableEq

structure OperationError where
  errors : List ErrorEntry
  errors_ne_nil : errors ≠ []

structure Operation where
  name : String
  operationGroupId : String
  targetLink : String
  error : Option OperationError

inductive ApiException
  | httpError (reason : String) (error_details : List (Option String))
  | other (description : String)
deriving DecidableEq

inductive PyError
  | typeError (msg : String)
  | attributeError (name : String)
  | assertionError
  | indexError
  | keyError
  | stopIteration
  /-- `yaml.representer.RepresenterError`: `yaml.safe_dump` of an object it has no representer for. -/
  | representerError
  /-- The `ValueError` of `shlex.split` on a command line with an open quote. -/
  | valueError
deriving DecidableEq

structure PlacementRequest where
  name : String
  region : String
deriving DecidableEq

structure Provider where
  placementInsert : PlacementRequest → Except ApiException Operation
  bulkInsert : String → Except ApiException Operation
  waitForOperation : Operation → Operation
  getInsertOperations : String → List Operation
  tpuNodeExists : String → Bool

structure Util where
  toHostlistFast : List String → String
  trimSelfLink : String → String

end SlurmResume
