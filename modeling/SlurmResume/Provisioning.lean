import SlurmResume.Coverage
import SlurmResume.Isolation

/-! Whole runs of `resume_nodes`. The routing loop raises only the `AttributeError` of an
unlabellable template disk, so a run raises in four ways only: a refused placement request, that
disk, a dump of `bulk_ops` or `tpu_start_data`, or a quarantine command `shlex.split` cannot split;
with none of their causes it raises nothing. A run provisions only nodes it was asked for, through
its bulk inserts alone, and each resumed node exactly once when no job is on an accelerator
partition. Its calls come in phases, no group is dispatched or waited for twice, and each request
describes every instance it creates. -/

namespace SlurmResume
open List

def Event.provisioned : Event → List String
  | .bulkInsert _ request => request.perInstanceProperties.keys
  | .startTpu _ node _ => node
  | _ => []

section
variable {lkp : Lookup} {env : Provider}

theorem addTpuObject_ok (tpuObjs : PyDict String String) {chunk : BulkChunk} (hne : chunk.nodes ≠ []) :
    ∃ objs, addTpuObject lkp tpuObjs chunk = .ok objs ∧ ∃ tpu, objs.get? chunk.pfx = some tpu := by
  unfold addTpuObject
  split
  · exact ⟨_, rfl, PyDict.exists_get?_of_mem_keys ‹_›⟩
  · obtain ⟨model, rest, hc⟩ := exists_cons_of_ne_nil hne
    rw [hc]
    exact ⟨_, rfl, _, PyDict.get?_eq_some (PyDict.mem_set_self _ _ _)⟩

theorem routeChunk_error {acc : Routing} {group : String} {chunk : BulkChunk} (hi : ChunkInvariant lkp chunk)
    {err : PyError} (h : routeChunk lkp acc (group, chunk) = .error err) :
    ∃ name, err = .attributeError name ∧
      bodyInstanceProperties lkp lkp.properties chunk.nodes chunk.partition chunk.placementGroup chunk.jobId = none := by
  dsimp only [routeChunk] at h
  split at h
  · obtain ⟨objs, hobjs, tpu, htpu⟩ := @addTpuObject_ok lkp acc.tpuObjs chunk hi.nodes_ne_nil
    rcases except_bind_eq_error.mp h with h | ⟨objs', h', hf⟩
    · rw [hobjs] at h
      cases h
    · rw [hobjs] at h'
      cases h'
      simp only [htpu] at hf
      cases hf
  · rcases except_bind_eq_error.mp h with h | ⟨_, -, hf⟩
    · rcases createInstancesRequest_error h with ⟨rfl, -⟩ | hattr
      · exact absurd h (createInstancesRequest_ne_assertionError hi.nodes_ne_nil hi.length_le
          fun pg hp => (hi.placement pg hp).length_le)
      · exact hattr
    · cases hf

theorem foldlM_routeChunk_error {es : List (String × BulkChunk)} (hes : ∀ e ∈ es, ChunkInvariant lkp e.2)
    {acc : Routing} {err : PyError} (h : es.foldlM (routeChunk lkp) acc = .error err) :
    ∃ name, err = .attributeError name ∧ ∃ e ∈ es,
      bodyInstanceProperties lkp lkp.properties e.2.nodes e.2.partition e.2.placementGroup e.2.jobId = none := by
  induction es generalizing acc with
  | nil => cases h
  | cons e es ih =>
    obtain ⟨group, chunk⟩ := e
    rw [foldlM_cons] at h
    rcases except_bind_eq_error.mp h with h | ⟨acc', -, h⟩
    · obtain ⟨name, rfl, hnone⟩ := routeChunk_error (hes _ (mem_cons_self _ _)) h
      exact ⟨name, rfl, _, mem_cons_self _ _, hnone⟩
    · obtain ⟨name, rfl, e', he', hnone⟩ := ih (fun e' he' => hes e' (mem_cons_of_mem _ he')) h
      exact ⟨name, rfl, e', mem_cons_of_mem _ he', hnone⟩

theorem chunkInvariant_of_mem_groupPlan (hv : PodsFit lkp) {nodes : List String}
    {resume_data : Option ResumeData} {c : BulkChunk} (hc : c ∈ (groupPlan lkp nodes resume_data).values) :
    ChunkInvariant lkp c :=
  let ⟨_, hg, hcg⟩ := mem_bulkChunks hc
  chunkInvariant_of_mem_jobChunks hv (groupPlacementSlices_of_mem_jobGroupsPlan hg) hcg

theorem routeChunks_error (hv : PodsFit lkp) {nodes : List String} {resume_data : Option ResumeData}
    {err : PyError} (h : routeChunks lkp (groupPlan lkp nodes resume_data) = .error err) :
    ∃ name, err = .attributeError name :=
  let ⟨name, he, _⟩ := foldlM_routeChunk_error
    (fun _ he => chunkInvariant_of_mem_groupPlan hv (mem_map_of_mem Prod.snd he)) h
  ⟨name, he⟩

theorem routeChunks_ok (hv : PodsFit lkp) (htmpl : TemplatesLabellable lkp.properties)
    (nodes : List String) (resume_data : Option ResumeData) :
    ∃ routed, routeChunks lkp (groupPlan lkp nodes resume_data) = .ok routed := by
  cases h : routeChunks lkp (groupPlan lkp nodes resume_data) with
  | ok routed => exact ⟨routed, rfl⟩
  | error err =>
    obtain ⟨-, -, e, he, hnone⟩ := foldlM_routeChunk_error
      (fun _ he => chunkInvariant_of_mem_groupPlan hv (mem_map_of_mem Prod.snd he)) h
    have hsome : (bodyInstanceProperties lkp lkp.properties e.2.nodes e.2.partition e.2.placementGroup
        e.2.jobId).isSome :=
      bodyInstanceProperties_isSome (chunkInvariant_of_mem_groupPlan hv (mem_map_of_mem Prod.snd he)).nodes_ne_nil
        htmpl
    rw [hnone] at hsome
    cases hsome

theorem isTpuChunk_owner {nodes : List String} {resume_data : Option ResumeData} {c : BulkChunk}
    (hc : c ∈ (groupPlan lkp nodes resume_data).values) (htpu : isTpuChunk lkp c = true) :
    ∃ job ∈ (resume_data.getD ⟨[]⟩).jobs, lkp.partitionIsTpu job.partition = true ∧
      ∀ n ∈ c.nodes, n ∈ nodes ∧ n ∈ job.nodesAlloc := by
  have hown := chunkOwner_of_mem_groupPlan hc
  unfold ChunkOwner at hown
  split at hown
  · obtain ⟨job, hjob, -, hpart, hn⟩ := hown
    simp only [isTpuChunk, hpart, Bool.and_eq_true] at htpu
    exact ⟨job, hjob, htpu.2, hn⟩
  · simp [isTpuChunk, hown.1] at htpu

theorem exists_tpu_job_of_tpuStartData (hv : PodsFit lkp) {nodes : List String}
    {resume_data : Option ResumeData} {routed : Routing}
    (hr : routeChunks lkp (groupPlan lkp nodes resume_data) = .ok routed) (ht : routed.tpuStartData ≠ []) :
    ∃ job ∈ (resume_data.getD ⟨[]⟩).jobs, lkp.partitionIsTpu job.partition = true ∧
      ∃ n ∈ job.nodesAlloc, n ∈ nodes := by
  obtain ⟨d, hd⟩ := exists_mem_of_ne_nil _ ht
  have hm : d.2 ∈ routed.tpuStartData.map Prod.snd := mem_map_of_mem _ hd
  rw [(foldlM_routeChunk hr).2.2] at hm
  rcases mem_append.mp hm with hm | hm
  · simp at hm
  obtain ⟨e, he, -⟩ := mem_map.mp hm
  obtain ⟨he, htpu⟩ := mem_filter.mp he
  have hc := mem_map_of_mem Prod.snd he
  obtain ⟨job, hjob, hjt, hn⟩ := isTpuChunk_owner hc htpu
  obtain ⟨n, hnc⟩ := exists_mem_of_ne_nil _ (chunkInvariant_of_mem_groupPlan hv hc).nodes_ne_nil
  exact ⟨job, hjob, hjt, n, (hn n hnc).2, (hn n hnc).1⟩

end

/-! ### How a run raises -/

section
variable {lkp : Lookup} {util : Util} {env : Provider}

theorem tpuLookup_podsFit : PodsFit tpuLookup := fun ns tpu h => by
  simp only [tpuLookup] at h
  split at h <;> cases h
  decide

theorem hostUtil_unquoted (ns : List String) (h : ∀ n ∈ ns, Shlex.Unquoted n.data) :
    Shlex.Unquoted (hostUtil.toHostlistFast ns).data :=
  Shlex.unquoted_intercalate (by decide) h

theorem quotaInsertProvider_unquoted : ∀ gid, ∀ o ∈ quotaInsertProvider.getInsertOperations gid,
    Shlex.Unquoted (hostUtil.trimSelfLink o.targetLink).data ∧ Shlex.Unquoted (errorMessage o).data := by
  intro gid o ho
  simp only [quotaInsertProvider] at ho
  split at ho
  · obtain rfl := mem_singleton.mp ho
    dsimp only [errorMessage]
    exact ⟨by decide, by decide⟩
  · cases ho

end

/-! ### The requests the routing loop keeps -/

section
variable {lkp : Lookup}

theorem foldlM_routeChunk_keys {es : List (String × BulkChunk)} {acc r : Routing}
    (hk : (es.map Prod.fst).Nodup) (hfresh : ∀ e ∈ es, e.1 ∉ acc.biInserts.keys)
    (hnd : ∀ e ∈ es, e.2.nodes.Nodup) (h : es.foldlM (routeChunk lkp) acc = .ok r) :
    r.biInserts.entries.flatMap (·.2.perInstanceProperties.keys) =
      acc.biInserts.entries.flatMap (·.2.perInstanceProperties.keys) ++
        (es.filter fun e => !isTpuChunk lkp e.2).flatMap (·.2.nodes) := by
  induction es generalizing acc with
  | nil => cases h; simp
  | cons e es ih =>
    obtain ⟨group, chunk⟩ := e
    rw [foldlM_cons] at h
    obtain ⟨acc', he, hrest⟩ := except_bind_eq_ok.mp h
    simp only [map_cons, nodup_cons] at hk
    have hnd' := fun e he' => hnd e (mem_cons_of_mem _ he')
    rcases routeChunk_ok he with ⟨hc, hbi, -⟩ | ⟨hc, -, request, hreq, hbi⟩
    · rw [ih hk.2 (fun e he' => hbi ▸ hfresh e (mem_cons_of_mem _ he')) hnd' hrest, hbi]
      simp [hc]
    · have hfresh' : ∀ e ∈ es, e.1 ∉ acc'.biInserts.keys := fun e he' hmem => by
        rcases PyDict.mem_keys_set.mp (hbi ▸ hmem) with h | h
        · exact hk.1 (h ▸ mem_map_of_mem _ he')
        · exact hfresh e (mem_cons_of_mem _ he') h
      rw [ih hk.2 hfresh' hnd' hrest, hbi, PyDict.set]
      simp [assocSet_of_not_mem _ (hfresh _ (mem_cons_self _ _)), hc,
        keys_perInstanceProperties hreq (hnd _ (mem_cons_self _ _))]

end

/-! ### The calls that provision -/

section
variable {lkp : Lookup} {util : Util} {env : Provider}

theorem provisioned_of_mem_reconcile {resume_data : Option ResumeData} {bulk_op : Operation} {e : Event}
    (h : e ∈ (reconcile lkp util env resume_data bulk_op).events) : e.provisioned = [] := by
  rcases eq_of_mem_reconcile h with rfl | ⟨_, _, rfl⟩ <;> rfl

theorem provisioned_executeInserts (grouped_nodes : PyDict String BulkChunk) (resume_data : Option ResumeData)
    (routed : Routing) :
    (executeInserts lkp util env grouped_nodes resume_data routed).events.flatMap Event.provisioned =
      routed.biInserts.entries.flatMap (·.2.perInstanceProperties.keys) := by
  obtain ⟨waits, rec, hev, hw, hrec⟩ := executeInserts_events lkp util env grouped_nodes resume_data routed
  have hwaits : waits.flatMap Event.provisioned = [] := flatMap_eq_nil_iff.mpr fun e he => by
    obtain ⟨_, _, rfl⟩ := mem_map.mp (hw.subset he)
    rfl
  have hrecs : rec.flatMap Event.provisioned = [] := flatMap_eq_nil_iff.mpr fun e he =>
    let ⟨_, _, he⟩ := hrec e he
    provisioned_of_mem_reconcile he
  rw [hev, flatMap_append, flatMap_append, hwaits, hrecs, append_nil, append_nil, flatMap_map]
  rfl

theorem mem_of_mem_groupPlan {nodes : List String} {resume_data : Option ResumeData} {c : BulkChunk}
    (hc : c ∈ (groupPlan lkp nodes resume_data).values) {n : String} (hn : n ∈ c.nodes) : n ∈ nodes :=
  mem_dedup.mp (subset_of_mem_resumed_nodes (((@flatMap_bulkChunks_subperm lkp _).trans
    (@flatMap_jobGroupsPlan_subperm lkp _ (nodup_dedup nodes) (resume_data.getD ⟨[]⟩).jobs)).subset
      (mem_flatMap.mpr ⟨c, hc, hn⟩)))

theorem mem_chunk_of_provisioned {grouped_nodes : PyDict String BulkChunk} {resume_data : Option ResumeData}
    {routed : Routing} (hr : routeChunks lkp grouped_nodes = .ok routed) {e : Event}
    (he : e ∈ (executeInserts lkp util env grouped_nodes resume_data routed).events) {n : String}
    (hn : n ∈ e.provisioned) : ∃ c ∈ grouped_nodes.values, n ∈ c.nodes := by
  have hn' := mem_flatMap.mpr ⟨e, he, hn⟩
  rw [provisioned_executeInserts] at hn'
  obtain ⟨x, hx, hk⟩ := mem_flatMap.mp hn'
  rcases (foldlM_routeChunk hr).1 x hx with hx | ⟨c, hc, -, hreq⟩
  · simp at hx
  exact ⟨c, mem_map_of_mem Prod.snd hc, (mem_perInstanceProperties_keys hreq n).mp hk⟩

theorem resumeNodes_grouped {nodes : List String} {resume_data : Option ResumeData} {e : Event}
    (he : e ∈ (resumeNodes lkp util env nodes resume_data).events) :
    ∃ d routed, groupNodesBulk lkp env (sortedBy lkp.nodePrefix nodes) resume_data = .ok d ∧
      routeChunks lkp d = .ok routed ∧ e ∈ (executeInserts lkp util env d resume_data routed).events := by
  rcases @resumeNodes_cases lkp util env nodes resume_data with h | ⟨d, routed, -, hg, hr, h⟩
  · simp [h] at he
  · exact ⟨d, routed, hg, hr, h ▸ he⟩

theorem mem_of_provisioned_resumeNodes {nodes : List String} {resume_data : Option ResumeData} {e : Event}
    (he : e ∈ (resumeNodes lkp util env nodes resume_data).events) {n : String} (hn : n ∈ e.provisioned) :
    n ∈ nodes := by
  obtain ⟨d, routed, hg, hr, he⟩ := resumeNodes_grouped he
  obtain ⟨c, hc, hnc⟩ := mem_chunk_of_provisioned hr he hn
  rw [groupNodesBulk_ok_eq hg] at hc
  exact (perm_insertionSort _ _).subset (mem_of_mem_groupPlan hc hnc)

def main (lkp : Lookup) (util : Util) (env : Provider) (is_power_managed_node : String → Bool)
    (hostnames : List String) (resume_data : Option ResumeData) : Trace :=
  let nodes := (separate is_power_managed_node hostnames).2
  if nodes.isEmpty then .ok [] else resumeNodes lkp util env nodes resume_data

def exclusiveTpuLookup : Lookup :=
  { tpuLookup with
    partitions := fun p => if p = "tp" then ⟨[], ["t"], false⟩ else ⟨["a", "b"], [], true⟩ }

end

/-! ### Each resumed node provisioned once -/

section
variable {lkp : Lookup} {util : Util} {env : Provider}

theorem isTpuChunk_eq_false {nodes : List String} {resume_data : Option ResumeData}
    (hnotpu : ∀ job ∈ (resume_data.getD ⟨[]⟩).jobs, lkp.partitionIsTpu job.partition = false)
    {c : BulkChunk} (hc : c ∈ (groupPlan lkp nodes resume_data).values) : isTpuChunk lkp c = false :=
  Bool.eq_false_iff.mpr fun h => by
    obtain ⟨job, hjob, hjt, -⟩ := isTpuChunk_owner hc h
    simp [hnotpu job hjob] at hjt

/-- Each resumed node goes to exactly one provisioning call when no job is on an accelerator
partition. The instances the bulk inserts of a run name are the distinct resumed nodes, each
once, wherever the run stops, when no placement request fails, every template disk can be
labelled, names hold no colon, every pod has between one and 5000 VMs, job ids are distinct, no
node is allocated to two job records, and no two nodesets of a job (or of the jobless
conventional nodes) fall into the no-policy bucket. -/
theorem resumeNodes_provisions_once (hv : PodsFit lkp)
    (hpods : ∀ ns tpu, lkp.nodesetTpu ns = some tpu → 0 < tpu.vmcount)
    (hpfx : ∀ n, ':' ∉ (lkp.nodePrefix n).data)
    (hpg : ∀ n jobId i, ':' ∉ (placementGroupName lkp (lkp.nodeNodesetName n) jobId i).data)
    (hacc : ∀ req, PlacementAccepted (env.placementInsert req)) (htmpl : TemplatesLabellable lkp.properties)
    {nodes : List String} {resume_data : Option ResumeData}
    (hnotpu : ∀ job ∈ (resume_data.getD ⟨[]⟩).jobs, lkp.partitionIsTpu job.partition = false)
    (hids : ((resume_data.getD ⟨[]⟩).jobs.map (·.jobId)).Nodup)
    (hjobs : ∀ job ∈ (resume_data.getD ⟨[]⟩).jobs, lkp.partitionIsTpu job.partition = false →
      OneNoPolicyBucket lkp job.nodesAlloc job.jobId)
    (hjobless : OneNoPolicyBucket lkp (sorted (separate lkp.nodeIsTpu
      (allJoblessNodes (sortedBy lkp.nodePrefix nodes).dedup (resume_data.getD ⟨[]⟩).jobs)).1) 0)
    (hdisj : ((resume_data.getD ⟨[]⟩).jobs.flatMap fun job => job.nodesAlloc.filter (· ∈ nodes)).Nodup) :
    (resumeNodes lkp util env nodes resume_data).events.flatMap Event.provisioned ~ nodes.dedup := by
  by_cases hne : nodes = []
  · subst hne; rfl
  have hsort : sortedBy lkp.nodePrefix nodes ~ nodes := perm_insertionSort _ _
  have hg := @groupNodesBulk_of_accepted lkp env (sortedBy lkp.nodePrefix nodes) resume_data hacc
  obtain ⟨routed, hr⟩ := routeChunks_ok hv htmpl (sortedBy lkp.nodePrefix nodes) resume_data
  have hpart := flatMap_groupPlan_perm hpfx hpg hpods hids hjobs hjobless (by simpa only [hsort.mem_iff] using hdisj)
  have hnd : ∀ e ∈ (groupPlan lkp (sortedBy lkp.nodePrefix nodes) resume_data).entries, e.2.nodes.Nodup :=
    fun e he => (nodup_flatMap.mp (hpart.nodup_iff.mpr (nodup_dedup _))).1 _ (mem_map_of_mem Prod.snd he)
  have hall : (groupPlan lkp (sortedBy lkp.nodePrefix nodes) resume_data).entries.filter
      (fun e => !isTpuChunk lkp e.2) = (groupPlan lkp (sortedBy lkp.nodePrefix nodes) resume_data).entries :=
    filter_eq_self.mpr fun e he => by simp [isTpuChunk_eq_false hnotpu (mem_map_of_mem Prod.snd he)]
  rw [resumeNodes_of_routed hne hg hr, provisioned_executeInserts,
    foldlM_routeChunk_keys (PyDict.nodup_keys _) (fun _ _ => not_mem_nil _) hnd hr, PyDict.entries_empty,
    flatMap_nil, nil_append, hall]
  calc _ = (groupPlan lkp (sortedBy lkp.nodePrefix nodes) resume_data).values.flatMap BulkChunk.nodes := by
        rw [PyDict.values, flatMap_map]
    _ ~ nodes.dedup := hpart.trans hsort.dedup

def pipelineLookup : Lookup where
  slurmClusterName := "c"
  scontrol := "scontrol"
  nodePrefix := fun n => if String.mk (n.toList.take 3) = "c-t" then "c-t"
    else if String.mk (n.toList.take 3) = "c-b" then "c-b" else "c-a"
  prefixNodeset := fun p => String.mk (p.toList.drop 2)
  nodeset := fun ns => if ns = "t" then ⟨none, false, "", [], [], none⟩
    else ⟨some "tmpl", false, "n2-standard-4", [], [], some "ANY"⟩
  nodesetTpu := fun ns => if ns = "t" then some ⟨1, false⟩ else none
  partitions := fun p => if p = "tp" then ⟨[], ["t"], false⟩ else ⟨["a", "b"], [], false⟩
  nodeRegion := fun _ => "r"

theorem pipelineLookup_vmcount {ns : String} {tpu : TpuNodeset} (h : pipelineLookup.nodesetTpu ns = some tpu) :
    tpu.vmcount = 1 := by
  simp only [pipelineLookup] at h
  split at h <;> cases h
  rfl

theorem pipelineLookup_podsFit : PodsFit pipelineLookup := fun _ _ h =>
  (pipelineLookup_vmcount h).trans_le (by decide)

theorem pipelineLookup_pods_pos : ∀ ns tpu, pipelineLookup.nodesetTpu ns = some tpu → 0 < tpu.vmcount :=
  fun _ _ h => (pipelineLookup_vmcount h).symm ▸ Nat.one_pos

theorem pipelineLookup_prefix_colon_free : ∀ n, ':' ∉ (pipelineLookup.nodePrefix n).data := fun n => by
  simp only [pipelineLookup]
  split_ifs <;> decide

theorem pipelineLookup_names_colon_free : ∀ n jobId i,
    ':' ∉ (placementGroupName pipelineLookup (pipelineLookup.nodeNodesetName n) jobId i).data := by
  intro n jobId i
  simp only [placementGroupName, Lookup.nodeNodesetName, pipelineLookup]
  split_ifs <;> simp [colon_not_mem_toString]

theorem resumeNodes_provisions_once_two_jobs :
    PodsFit pipelineLookup ∧
    (∀ ns tpu, pipelineLookup.nodesetTpu ns = some tpu → 0 < tpu.vmcount) ∧
    (∀ n, ':' ∉ (pipelineLookup.nodePrefix n).data) ∧
    (∀ n jobId i, ':' ∉ (placementGroupName pipelineLookup (pipelineLookup.nodeNodesetName n) jobId i).data) ∧
    (∀ req, PlacementAccepted (acceptingProvider.placementInsert req)) ∧
    TemplatesLabellable pipelineLookup.properties ∧
    (∀ job ∈ twoJobs.jobs, pipelineLookup.partitionIsTpu job.partition = false) ∧
    (twoJobs.jobs.map (·.jobId)).Nodup ∧
    (∀ job ∈ twoJobs.jobs, pipelineLookup.partitionIsTpu job.partition = false →
      OneNoPolicyBucket pipelineLookup job.nodesAlloc job.jobId) ∧
    OneNoPolicyBucket pipelineLookup (sorted (separate pipelineLookup.nodeIsTpu
      (allJoblessNodes (sortedBy pipelineLookup.nodePrefix ["c-a-0", "c-b-0", "c-t-0"]).dedup
        twoJobs.jobs)).1) 0 ∧
    (twoJobs.jobs.flatMap fun job => job.nodesAlloc.filter (· ∈ ["c-a-0", "c-b-0", "c-t-0"])).Nodup ∧
    (resumeNodes pipelineLookup hostUtil acceptingProvider ["c-a-0", "c-b-0", "c-t-0"]
      (some twoJobs)).events.flatMap Event.provisioned ~ ["c-a-0", "c-b-0", "c-t-0"].dedup :=
  have htmpl : TemplatesLabellable pipelineLookup.properties := fun _ _ h => nomatch h
  ⟨pipelineLookup_podsFit, pipelineLookup_pods_pos, pipelineLookup_prefix_colon_free,
    pipelineLookup_names_colon_free, fun _ => trivial, htmpl, by decide, by decide, by decide, by decide,
    by decide,
    @resumeNodes_provisions_once pipelineLookup hostUtil acceptingProvider pipelineLookup_podsFit
      pipelineLookup_pods_pos pipelineLookup_prefix_colon_free pipelineLookup_names_colon_free
      (fun _ => trivial) htmpl _ (some twoJobs) (by decide) (by decide) (by decide) (by decide) (by decide)⟩

end

/-! ### The phase barrier of the executor -/

def Event.phase : Event → Option Nat
  | .bulkInsert _ _ => some 0
  | .waitForOperation _ => some 1
  | .startTpu _ _ _ => some 2
  | .getInsertOperations _ => some 3
  | .downNodesNotifyJobs _ _ => none

def PhasesInOrder (evs : List Event) : Prop := (evs.filterMap Event.phase).Pairwise (· ≤ ·)

def AllInPhase (evs : List Event) (k : Nat) : Prop := ∀ e ∈ evs, ∀ i, e.phase = some i → i = k

theorem phasesInOrder_of_allInPhase {evs : List Event} {k : Nat} (h : AllInPhase evs k) :
    PhasesInOrder evs := by
  have hk : ∀ i ∈ evs.filterMap Event.phase, i = k := fun i hi =>
    let ⟨e, he, hei⟩ := mem_filterMap.mp hi
    h e he i hei
  rw [PhasesInOrder, eq_replicate_iff.mpr ⟨rfl, hk⟩]
  exact pairwise_replicate.mpr (.inr le_rfl)

theorem phasesInOrder_append {l₁ l₂ : List Event} {k₁ k₂ : Nat} (h₁ : AllInPhase l₁ k₁) (h₂ : AllInPhase l₂ k₂)
    (hk : k₁ ≤ k₂) : PhasesInOrder (l₁ ++ l₂) := by
  rw [PhasesInOrder, filterMap_append, pairwise_append]
  refine ⟨phasesInOrder_of_allInPhase h₁, phasesInOrder_of_allInPhase h₂, fun i hi j hj => ?_⟩
  obtain ⟨a, ha, hai⟩ := mem_filterMap.mp hi
  obtain ⟨b, hb, hbj⟩ := mem_filterMap.mp hj
  rw [h₁ a ha i hai, h₂ b hb j hbj]
  exact hk

theorem allInPhase_map {α : Type} (f : α → Event) {k : Nat} (hf : ∀ x, (f x).phase = some k)
    (xs : List α) : AllInPhase (xs.map f) k := fun e he i hi => by
  obtain ⟨x, -, rfl⟩ := mem_map.mp he
  exact Option.some.inj (hi.symm.trans (hf x))

section
variable {lkp : Lookup} {util : Util} {env : Provider}

theorem executeInserts_phases (grouped_nodes : PyDict String BulkChunk) (resume_data : Option ResumeData)
    (routed : Routing) : PhasesInOrder (executeInserts lkp util env grouped_nodes resume_data routed).events := by
  obtain ⟨waits, rec, hev, hw, hrec⟩ := executeInserts_events lkp util env grouped_nodes resume_data routed
  have hd := allInPhase_map (fun r : String × BulkInsertRequest => Event.bulkInsert r.1 r.2) (fun _ => rfl)
    routed.biInserts.entries
  have hwa : AllInPhase waits 1 := fun e he =>
    allInPhase_map (fun s : String × Operation => Event.waitForOperation s.1) (fun _ => rfl) _ e (hw.subset he)
  have hre : AllInPhase rec 3 := fun e he i hi => by
    obtain ⟨_, -, he⟩ := hrec e he
    rcases eq_of_mem_reconcile he with rfl | ⟨_, _, rfl⟩ <;>
      simp only [Event.phase, Option.some.injEq, reduceCtorEq] at hi
    exact hi.symm
  rw [hev, PhasesInOrder, filterMap_append, pairwise_append]
  refine ⟨phasesInOrder_append hd hwa (by decide), phasesInOrder_of_allInPhase hre, fun i hi j hj => ?_⟩
  obtain ⟨a, ha, hai⟩ := mem_filterMap.mp hi
  obtain ⟨b, hb, hbj⟩ := mem_filterMap.mp hj
  rw [hre b hb j hbj]
  rcases mem_append.mp ha with ha | ha
  · rw [hd a ha i hai]; decide
  · rw [hwa a ha i hai]; decide

theorem nodePrefix_of_mem_groupPlan {nodes : List String} {resume_data : Option ResumeData}
    {c : BulkChunk} (hc : c ∈ (groupPlan lkp nodes resume_data).values) {n : String} (hn : n ∈ c.nodes) :
    lkp.nodePrefix n = c.pfx := by
  obtain ⟨g, -, hcg⟩ := mem_bulkChunks hc
  obtain ⟨pg_nodes, -, -, -, ns, hns, hcn⟩ := mem_jobChunks hcg
  exact (mem_of_mem_groupbyUnsorted hns ((mem_chunked hcn).2.2.subset hn)).2

/-- A run reads the nodes it is asked to resume as a set: the order of the list and repeated
names change no call of the run and no exception it raises. -/
theorem resumeNodes_congr {A B : List String} (h : ∀ n, n ∈ A ↔ n ∈ B) (resume_data : Option ResumeData) :
    resumeNodes lkp util env A resume_data = resumeNodes lkp util env B resume_data := by
  have hempty : A.isEmpty = B.isEmpty :=
    Bool.eq_iff_iff.mpr (by simp only [List.isEmpty_iff, eq_nil_iff_forall_not_mem, h])
  have hg : groupNodesBulk lkp env (sortedBy lkp.nodePrefix A) resume_data =
      groupNodesBulk lkp env (sortedBy lkp.nodePrefix B) resume_data :=
    groupNodesBulk_congr (fun n => by simp [h]) resume_data
  simp only [resumeNodes, hempty, hg]

theorem resumeNodes_congr_reordered :
    (∀ n, n ∈ ["c-t-0", "c-b-0", "c-a-0", "c-b-0"] ↔ n ∈ ["c-a-0", "c-b-0", "c-t-0"]) ∧
    resumeNodes tpuLookup hostUtil partialQuotaProvider ["c-t-0", "c-b-0", "c-a-0", "c-b-0"] (some threeJobs) =
      resumeNodes tpuLookup hostUtil partialQuotaProvider ["c-a-0", "c-b-0", "c-t-0"] (some threeJobs) :=
  have h : ∀ n, n ∈ ["c-t-0", "c-b-0", "c-a-0", "c-b-0"] ↔ n ∈ ["c-a-0", "c-b-0", "c-t-0"] := fun n => by
    simp only [mem_cons, mem_nil_iff, or_false]
    tauto
  ⟨h, resumeNodes_congr h _⟩

end

/-! ### No group dispatched or waited for twice -/

def Event.dispatchedGroup : Event → Option String
  | .bulkInsert group _ => some group
  | _ => none

def Event.waitedGroup : Event → Option String
  | .waitForOperation group => some group
  | _ => none

theorem map_fst_filterMap_startedEntry_sublist :
    ∀ l : List (String × Except ApiException Operation), (l.filterMap startedEntry).map Prod.fst <+ l.map Prod.fst
  | [] => Sublist.slnil
  | (g, .ok _) :: l => by simpa [startedEntry] using (map_fst_filterMap_startedEntry_sublist l).cons₂ g
  | (g, .error _) :: l => by simpa [startedEntry] using (map_fst_filterMap_startedEntry_sublist l).cons g

section
variable {lkp : Lookup} {util : Util} {env : Provider}

theorem filterMap_reconciles_eq_nil {resume_data : Option ResumeData} {routed : Routing}
    {f : Event → Option String} (hg : ∀ g, f (.getInsertOperations g) = none)
    (hd : ∀ ns reason, f (.downNodesNotifyJobs ns reason) = none) {rec : List Event}
    (hrec : ∀ e ∈ rec, ∃ s ∈ startedOps env routed,
      e ∈ (reconcile lkp util env resume_data (env.waitForOperation s.2)).events) :
    rec.filterMap f = [] :=
  filterMap_eq_nil_iff.mpr fun e he => by
    obtain ⟨_, -, he⟩ := hrec e he
    rcases eq_of_mem_reconcile he with rfl | ⟨_, _, rfl⟩
    · exact hg _
    · exact hd _ _

theorem executeInserts_dispatchedGroups (grouped_nodes : PyDict String BulkChunk)
    (resume_data : Option ResumeData) (routed : Routing) :
    (executeInserts lkp util env grouped_nodes resume_data routed).events.filterMap Event.dispatchedGroup =
      routed.biInserts.keys := by
  obtain ⟨waits, rec, hev, hw, hrec⟩ := executeInserts_events lkp util env grouped_nodes resume_data routed
  have hwaits : waits.filterMap Event.dispatchedGroup = [] := filterMap_eq_nil_iff.mpr fun e he => by
    obtain ⟨_, _, rfl⟩ := mem_map.mp (hw.subset he)
    rfl
  rw [hev, filterMap_append, filterMap_append, hwaits,
    filterMap_reconciles_eq_nil (fun _ => rfl) (fun _ _ => rfl) hrec, append_nil, append_nil, filterMap_map]
  exact congrFun (filterMap_eq_map Prod.fst) _

theorem executeInserts_waitedGroups (grouped_nodes : PyDict String BulkChunk)
    (resume_data : Option ResumeData) (routed : Routing) :
    (executeInserts lkp util env grouped_nodes resume_data routed).events.filterMap Event.waitedGroup <+
        routed.biInserts.keys ∧
      ∀ g ∈ (executeInserts lkp util env grouped_nodes resume_data routed).events.filterMap Event.waitedGroup,
        ∃ op, env.bulkInsert g = .ok op := by
  obtain ⟨waits, rec, hev, hw, hrec⟩ := executeInserts_events lkp util env grouped_nodes resume_data routed
  have hdisp : (routed.biInserts.entries.map fun r : String × BulkInsertRequest =>
      Event.bulkInsert r.1 r.2).filterMap Event.waitedGroup = [] := by
    simp [Event.waitedGroup]
  have hsub : (executeInserts lkp util env grouped_nodes resume_data routed).events.filterMap Event.waitedGroup <+
      (startedOps env routed).map Prod.fst := by
    rw [hev, filterMap_append, filterMap_append, hdisp,
      filterMap_reconciles_eq_nil (fun _ => rfl) (fun _ _ => rfl) hrec, nil_append, append_nil]
    have := hw.filterMap Event.waitedGroup
    rwa [filterMap_map, show Event.waitedGroup ∘ (fun s : String × Operation => Event.waitForOperation s.1) =
      some ∘ Prod.fst from rfl, filterMap_eq_map] at this
  have hkeys : (bulkOps env routed).map Prod.fst = routed.biInserts.keys := by simp [bulkOps, Function.comp_def]
  refine ⟨hsub.trans (hkeys ▸ map_fst_filterMap_startedEntry_sublist _), fun g hg => ?_⟩
  obtain ⟨s, hs, rfl⟩ := mem_map.mp (hsub.subset hg)
  obtain ⟨_, -, hok⟩ := mem_startedOps.mp hs
  exact ⟨s.2, hok⟩

end

/-! ### What a request says of its instances -/

section
variable {lkp : Lookup} {util : Util} {env : Provider}

/-- Any node of a request describes the rest: whatever the provider answers, each bulk insert of
a run carries the instance template and the zonal or regional target of every instance it
creates, when a node's region is that of its prefix. -/
theorem resumeNodes_request_describes_nodes
    (hregion : ∀ a b, lkp.nodePrefix a = lkp.nodePrefix b → lkp.nodeRegion a = lkp.nodeRegion b)
    {nodes : List String} {resume_data : Option ResumeData} {group : String} {req : BulkInsertRequest}
    (he : Event.bulkInsert group req ∈ (resumeNodes lkp util env nodes resume_data).events)
    {n : String} (hn : n ∈ req.perInstanceProperties.keys) :
    req.sourceInstanceTemplate = (lkp.nodeNodeset n).instanceTemplate ∧ req.target = bulkInsertTarget lkp n := by
  obtain ⟨d, routed, hg, hr, he⟩ := resumeNodes_grouped he
  rw [groupNodesBulk_ok_eq hg] at hr
  obtain ⟨⟨g, r⟩, hx, hxe⟩ := mem_map.mp (mem_dispatches_of_isDispatch he rfl)
  cases hxe
  rcases (foldlM_routeChunk hr).1 _ hx with hx | ⟨c, hc, -, hcreate⟩
  · simp at hx
  obtain ⟨model, hmodel, htmpl, htarget⟩ := createInstancesRequest_model hcreate
  have hpfx : lkp.nodePrefix n = lkp.nodePrefix model := by
    rw [nodePrefix_of_mem_groupPlan (mem_map_of_mem Prod.snd hc) ((mem_perInstanceProperties_keys hcreate n).mp hn),
      nodePrefix_of_mem_groupPlan (mem_map_of_mem Prod.snd hc) hmodel]
  refine ⟨htmpl.trans ?_, htarget.trans (bulkInsertTarget_eq_of_prefix_eq hregion hpfx).symm⟩
  simp only [Lookup.nodeNodeset, Lookup.nodeNodesetName, hpfx]

def jobTwoRequest : BulkInsertRequest where
  count := 1
  minCount := some 1
  sourceInstanceTemplate := some "tmpl"
  labels := none
  instanceProperties := .obj []
  perInstanceProperties := PyDict.ofList [("c-b-0", ())]
  target := .regional "r" (PyDict.ofList []) (some "ANY")

theorem resumeNodes_request_describes_nodes_quota_insert :
    Event.bulkInsert "c-b:job2:0" jobTwoRequest ∈
      (resumeNodes tpuLookup hostUtil quotaInsertProvider ["c-a-0", "c-b-0"] (some threeJobs)).events ∧
    "c-b-0" ∈ jobTwoRequest.perInstanceProperties.keys ∧
    jobTwoRequest.sourceInstanceTemplate = (tpuLookup.nodeNodeset "c-b-0").instanceTemplate ∧
      jobTwoRequest.target = bulkInsertTarget tpuLookup "c-b-0" :=
  have hd : Event.bulkInsert "c-b:job2:0" jobTwoRequest ∈
      (resumeNodes tpuLookup hostUtil quotaInsertProvider ["c-a-0", "c-b-0"] (some threeJobs)).events :=
    mem_cons_of_mem _ (mem_cons_self _ _)
  have hn : "c-b-0" ∈ jobTwoRequest.perInstanceProperties.keys := by decide
  ⟨hd, hn, resumeNodes_request_describes_nodes (fun _ _ _ => rfl) hd hn⟩

/-- Whatever the provider answers, every bulk insert of a run asks for one to 5000 instances, and
either accepts any number from one (`minCount` 1) or asks for all or nothing; a request of the
second kind creates at most 150 instances, which form a placement slice: nodes of one
placement-enabled nodeset whose machine types allow a placement policy. -/
theorem resumeNodes_request_counts {nodes : List String} {resume_data : Option ResumeData} {group : String}
    {req : BulkInsertRequest} (he : Event.bulkInsert group req ∈ (resumeNodes lkp util env nodes resume_data).events) :
    0 < req.count ∧ req.count ≤ BULK_INSERT_LIMIT ∧
      (req.minCount = some 1 ∨
        req.minCount = none ∧ req.count ≤ PLACEMENT_MAX_CNT ∧ PlacementSlice lkp req.perInstanceProperties.keys) := by
  obtain ⟨d, routed, hg, hr, he⟩ := resumeNodes_grouped he
  rw [groupNodesBulk_ok_eq hg] at hr
  obtain ⟨⟨g, r⟩, hx, hxe⟩ := mem_map.mp (mem_dispatches_of_isDispatch he rfl)
  cases hxe
  rcases (foldlM_routeChunk hr).1 _ hx with hx | ⟨c, hc, -, hcreate⟩
  · simp at hx
  obtain ⟨hcount, hpos, hlen, hmin⟩ := createInstancesRequest_count hcreate
  rw [hcount]
  refine ⟨hpos, hlen, hmin.imp (fun h => h.2) fun ⟨hpg, hnone, h150⟩ => ⟨hnone, h150, ?_⟩⟩
  obtain ⟨pg, hpg⟩ : ∃ pg, c.placementGroup = some pg := by
    cases hp : c.placementGroup with
    | none => simp [hp, truthy] at hpg
    | some pg => exact ⟨pg, rfl⟩
  obtain ⟨grp, hgrp, hcg⟩ := mem_bulkChunks (mem_map_of_mem Prod.snd hc)
  exact (placementSlice_of_mem_jobChunks (groupPlacementSlices_of_mem_jobGroupsPlan hgrp) hcg hpg).mono
    (keys_perInstanceProperties_subperm hcreate)

def placedRequest : BulkInsertRequest where
  count := 2
  minCount := none
  sourceInstanceTemplate := some "tmpl"
  labels := none
  instanceProperties := .obj [("scheduling", .obj [("onHostMaintenance", .str "TERMINATE")]),
    ("resourcePolicies", .arr [.str "c-slurmgcp-managed-a-1-0"])]
  perInstanceProperties := PyDict.ofList [("c-a-0", ()), ("c-a-1", ())]
  target := .regional "r" (PyDict.ofList []) (some "ANY")

theorem resumeNodes_request_counts_placed_job :
    Event.bulkInsert "c-a:job1:c-slurmgcp-managed-a-1-0:0" placedRequest ∈
      (resumeNodes placementLookup hostUtil acceptingProvider ["c-a-0", "c-a-1"] (some placedJob)).events ∧
    0 < placedRequest.count ∧ placedRequest.count ≤ BULK_INSERT_LIMIT ∧
      (placedRequest.minCount = some 1 ∨ placedRequest.minCount = none ∧
        placedRequest.count ≤ PLACEMENT_MAX_CNT ∧ PlacementSlice placementLookup placedRequest.perInstanceProperties.keys) :=
  have hd : Event.bulkInsert "c-a:job1:c-slurmgcp-managed-a-1-0:0" placedRequest ∈
      (resumeNodes placementLookup hostUtil acceptingProvider ["c-a-0", "c-a-1"] (some placedJob)).events :=
    mem_cons_self _ _
  ⟨hd, resumeNodes_request_counts hd⟩

end

end SlurmResume
