import SlurmResume.Properties

/-! The bulk-insert request `create_instances_request` builds for a chunk: its size checks, the
all-or-nothing or best-effort shape, the source template, the job labels (the int job id, for a
job-exclusive partition), the `instanceProperties` of `instance_properties`, whose
`AttributeError` it raises, and the zonal or regional target. The zonal call serves a single
allowed zone; the regional call carries a location policy in which a zone both allowed and
denied ends up denied. -/

namespace SlurmResume
open List

inductive Preference
  | ALLOW
  | DENY
deriving DecidableEq

inductive BulkInsertTarget
  | zonal (zone : String)
  | regional (region : String) (locations : PyDict String Preference) (targetShape : Option String)

structure BulkInsertRequest where
  count : Nat
  minCount : Option Nat
  sourceInstanceTemplate : Option String
  /-- The labels handed to `instance_properties`: the job id on a job-exclusive partition. -/
  labels : Option (List (String × Json))
  instanceProperties : Json
  perInstanceProperties : PyDict String Unit
  target : BulkInsertTarget

def bulkInsertTarget (lkp : Lookup) (model : String) : BulkInsertTarget :=
  let nodeset := lkp.nodeNodeset model
  match nodeset.zonePolicyAllow with
  | [zone] => .zonal zone
  | zone_allow =>
    .regional (lkp.nodeRegion model)
      (PyDict.ofList (zone_allow.map (fun z => ("zones/" ++ z, .ALLOW)) ++
        nodeset.zonePolicyDeny.map fun z => ("zones/" ++ z, .DENY)))
      nodeset.zoneTargetShape

def createInstancesRequest (lkp : Lookup) (nodes : List String) (partition_name : Option String)
    (placementGroup : Option String) (jobId : Option Nat) : Except PyError BulkInsertRequest :=
  if h : 0 < nodes.length ∧ nodes.length ≤ BULK_INSERT_LIMIT then
    let model := nodes.head (ne_nil_of_length_pos h.1)
    if truthy placementGroup && PLACEMENT_MAX_CNT < nodes.length then throw .assertionError
    else
      match bodyInstanceProperties lkp lkp.properties nodes partition_name placementGroup jobId with
      | none => throw (diskLoopError (lkp.properties.templateInfo (lkp.nodeNodeset model).instanceTemplate).disks)
      | some props => pure
        { count := nodes.length
          minCount := if truthy placementGroup then none else some 1
          sourceInstanceTemplate := (lkp.nodeNodeset model).instanceTemplate
          labels := jobLabels lkp partition_name jobId
          instanceProperties := props
          perInstanceProperties := PyDict.ofList (nodes.map fun k => (k, ()))
          target := bulkInsertTarget lkp model }
  else throw .assertionError

section
variable {lkp : Lookup} {nodes : List String} {partition_name placementGroup : Option String}
  {jobId : Option Nat} {req : BulkInsertRequest}

theorem createInstancesRequest_eq_ok
    (h : createInstancesRequest lkp nodes partition_name placementGroup jobId = .ok req) :
    ∃ model rest props, nodes = model :: rest ∧ nodes.length ≤ BULK_INSERT_LIMIT ∧
      (truthy placementGroup = true → nodes.length ≤ PLACEMENT_MAX_CNT) ∧
      bodyInstanceProperties lkp lkp.properties nodes partition_name placementGroup jobId = some props ∧
      req = { count := nodes.length
              minCount := if truthy placementGroup then none else some 1
              sourceInstanceTemplate := (lkp.nodeNodeset model).instanceTemplate
              labels := jobLabels lkp partition_name jobId
              instanceProperties := props
              perInstanceProperties := PyDict.ofList (nodes.map fun k => (k, ()))
              target := bulkInsertTarget lkp model } := by
  unfold createInstancesRequest at h
  split at h
  · rename_i hlen
    split at h
    · cases h
    · rename_i hpg
      split at h
      · cases h
      · rename_i props hprops
        cases h
        obtain ⟨model, rest, hnodes⟩ := exists_cons_of_ne_nil (ne_nil_of_length_pos hlen.1)
        subst hnodes
        exact ⟨model, rest, props, rfl, hlen.2, fun ht => by simpa [ht] using hpg, hprops, rfl⟩
  · cases h

theorem createInstancesRequest_error {e : PyError}
    (h : createInstancesRequest lkp nodes partition_name placementGroup jobId = .error e) :
    e = .assertionError ∧ (¬ (0 < nodes.length ∧ nodes.length ≤ BULK_INSERT_LIMIT) ∨
        truthy placementGroup = true ∧ PLACEMENT_MAX_CNT < nodes.length) ∨
      ∃ name, e = .attributeError name ∧
        bodyInstanceProperties lkp lkp.properties nodes partition_name placementGroup jobId = none := by
  unfold createInstancesRequest at h
  split at h
  · split at h
    · rename_i hpg
      cases h
      exact .inl ⟨rfl, .inr (by simpa using hpg)⟩
    · split at h
      · cases h; exact .inr ⟨_, rfl, ‹_›⟩
      · cases h
  · cases h; exact .inl ⟨rfl, .inl ‹_›⟩

theorem createInstancesRequest_ne_assertionError (h0 : nodes ≠ []) (h1 : nodes.length ≤ BULK_INSERT_LIMIT)
    (h2 : ∀ pg, placementGroup = some pg → nodes.length ≤ PLACEMENT_MAX_CNT) :
    createInstancesRequest lkp nodes partition_name placementGroup jobId ≠ .error .assertionError := by
  intro h
  rcases createInstancesRequest_error h with ⟨-, hsize | ⟨hpg, hlen⟩⟩ | ⟨_, he, -⟩
  · exact hsize ⟨length_pos.mpr h0, h1⟩
  · obtain ⟨pg, rfl⟩ : ∃ pg, placementGroup = some pg := by
      cases placementGroup with
      | none => cases hpg
      | some pg => exact ⟨pg, rfl⟩
    exact absurd (h2 pg rfl) (by omega)
  · cases he

theorem createInstancesRequest_ok (h0 : nodes ≠ []) (h1 : nodes.length ≤ BULK_INSERT_LIMIT)
    (h2 : ∀ pg, placementGroup = some pg → nodes.length ≤ PLACEMENT_MAX_CNT)
    (h3 : (bodyInstanceProperties lkp lkp.properties nodes partition_name placementGroup jobId).isSome) :
    ∃ req, createInstancesRequest lkp nodes partition_name placementGroup jobId = .ok req := by
  cases hc : createInstancesRequest lkp nodes partition_name placementGroup jobId with
  | ok req => exact ⟨req, rfl⟩
  | error e =>
    rcases createInstancesRequest_error hc with ⟨rfl, -⟩ | ⟨_, -, hnone⟩
    · exact absurd hc (createInstancesRequest_ne_assertionError h0 h1 h2)
    · simp [hnone] at h3

def TemplatesLabellable (plk : PropertiesLookup) : Prop :=
  ∀ template, ∀ disk ∈ (plk.templateInfo template).disks, labellable disk = true

theorem bodyInstanceProperties_isSome (h0 : nodes ≠ []) (ht : TemplatesLabellable lkp.properties) :
    (bodyInstanceProperties lkp lkp.properties nodes partition_name placementGroup jobId).isSome := by
  obtain ⟨model, rest, rfl⟩ := exists_cons_of_ne_nil h0
  cases h : bodyInstanceProperties lkp lkp.properties (model :: rest) partition_name placementGroup jobId with
  | some _ => rfl
  | none =>
    obtain ⟨-, -, -, disk, hd, hl⟩ := instanceProperties_eq_none_iff.mp h
    rw [ht _ disk hd] at hl
    cases hl

theorem createInstancesRequest_fields
    (h : createInstancesRequest lkp nodes partition_name placementGroup jobId = .ok req) :
    req.labels = jobLabels lkp partition_name jobId ∧
      req.perInstanceProperties = PyDict.ofList (nodes.map fun k => (k, ())) := by
  obtain ⟨_, _, _, -, -, -, -, rfl⟩ := createInstancesRequest_eq_ok h
  exact ⟨rfl, rfl⟩

theorem perInstanceProperties_eq
    (h : createInstancesRequest lkp nodes partition_name placementGroup jobId = .ok req) :
    req.perInstanceProperties = PyDict.ofList (nodes.map fun k => (k, ())) :=
  (createInstancesRequest_fields h).2

theorem mem_perInstanceProperties_keys
    (h : createInstancesRequest lkp nodes partition_name placementGroup jobId = .ok req) (n : String) :
    n ∈ req.perInstanceProperties.keys ↔ n ∈ nodes := by
  simp [perInstanceProperties_eq h, PyDict.mem_keys_ofList]

theorem keys_perInstanceProperties
    (h : createInstancesRequest lkp nodes partition_name placementGroup jobId = .ok req) (hn : nodes.Nodup) :
    req.perInstanceProperties.keys = nodes := by
  rw [perInstanceProperties_eq h, PyDict.keys,
    PyDict.entries_ofList_of_nodup (by simpa [map_map, Function.comp_def] using hn), map_map]
  exact map_id nodes

theorem keys_perInstanceProperties_subperm
    (h : createInstancesRequest lkp nodes partition_name placementGroup jobId = .ok req) :
    req.perInstanceProperties.keys <+~ nodes := by
  have := Subperm.map_of Prod.fst (PyDict.entries_ofList_subperm (nodes.map fun k => (k, ())))
  rwa [map_map, Function.comp_def, map_id', ← PyDict.keys, ← perInstanceProperties_eq h] at this

theorem createInstancesRequest_count
    (h : createInstancesRequest lkp nodes partition_name placementGroup jobId = .ok req) :
    req.count = nodes.length ∧ 0 < nodes.length ∧ nodes.length ≤ BULK_INSERT_LIMIT ∧
      (truthy placementGroup = false ∧ req.minCount = some 1 ∨
        truthy placementGroup = true ∧ req.minCount = none ∧ nodes.length ≤ PLACEMENT_MAX_CNT) := by
  obtain ⟨model, rest, _, rfl, hlen, hpg, -, rfl⟩ := createInstancesRequest_eq_ok h
  refine ⟨rfl, Nat.succ_pos _, hlen, ?_⟩
  cases ht : truthy placementGroup
  · exact .inl ⟨rfl, by simp [ht]⟩
  · exact .inr ⟨rfl, by simp [ht], hpg ht⟩

theorem createInstancesRequest_model
    (h : createInstancesRequest lkp nodes partition_name placementGroup jobId = .ok req) :
    ∃ model ∈ nodes, req.sourceInstanceTemplate = (lkp.nodeNodeset model).instanceTemplate ∧
      req.target = bulkInsertTarget lkp model := by
  obtain ⟨model, rest, _, rfl, -, -, -, rfl⟩ := createInstancesRequest_eq_ok h
  exact ⟨model, mem_cons_self _ _, rfl, rfl⟩

end

theorem bulkInsertTarget_eq_of_prefix_eq {lkp : Lookup}
    (hregion : ∀ a b, lkp.nodePrefix a = lkp.nodePrefix b → lkp.nodeRegion a = lkp.nodeRegion b)
    {a b : String} (h : lkp.nodePrefix a = lkp.nodePrefix b) : bulkInsertTarget lkp a = bulkInsertTarget lkp b := by
  simp only [bulkInsertTarget, Lookup.nodeNodeset, Lookup.nodeNodesetName, h, hregion a b h]

theorem find?_reverse_zones {zs : List String} {v : Preference} {k : String} :
    (zs.map fun z => ("zones/" ++ z, v)).reverse.find? (·.1 = k) =
      if k ∈ zs.map ("zones/" ++ ·) then some (k, v) else none := by
  induction zs with
  | nil => simp
  | cons z zs ih =>
    rw [map_cons, reverse_cons, find?_append, ih]
    by_cases hz : k = "zones/" ++ z
    · subst hz
      by_cases hk : "zones/" ++ z ∈ zs.map ("zones/" ++ ·) <;> simp [hk]
    · simp [hz, Ne.symm hz]

def zonePolicyLookup : Lookup where
  slurmClusterName := "c"
  scontrol := "scontrol"
  nodePrefix := fun _ => "c-n"
  prefixNodeset := fun _ => "n"
  nodeset := fun _ => ⟨some "tmpl", false, "c2-standard-4", ["a", "b"], ["b", "c"], some "ANY"⟩
  nodesetTpu := fun _ => none
  partitions := fun _ => ⟨["n"], [], false⟩
  nodeRegion := fun _ => "r"

end SlurmResume
