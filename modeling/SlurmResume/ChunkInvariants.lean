import SlurmResume.Grouping
import SlurmResume.Request
import Mathlib.Data.List.Pairwise

/-! What the chunks of `group_nodes_bulk` guarantee to `create_instances_request`: each is a
non-empty run of one node prefix that fits one bulk insert when every accelerator pod does, and
each placement chunk fits one placement group; no node is requested twice when no node is
allocated to two jobs; which node a shared no-policy bucket loses; that a job's chunks carry the
same placement groups in any run holding the job; and that a job's chunk holds only resumed
nodes of that job, on its partition, while a jobless chunk holds resumed nodes no job record
allocates, on no partition. -/

namespace SlurmResume
open List

structure ChunkInvariant (lkp : Lookup) (chunk : BulkChunk) : Prop where
  nodes_ne_nil : chunk.nodes ≠ []
  nodePrefix_eq : ∀ n ∈ chunk.nodes, lkp.nodePrefix n = chunk.pfx
  length_le : chunk.nodes.length ≤ BULK_INSERT_LIMIT
  placement : ∀ pg, chunk.placementGroup = some pg → PlacementSlice lkp chunk.nodes

def PodsFit (lkp : Lookup) : Prop :=
  ∀ ns tpu, lkp.nodesetTpu ns = some tpu → tpu.vmcount ≤ BULK_INSERT_LIMIT

def GroupPlacementSlices (lkp : Lookup) (g : JobGroup) : Prop :=
  ∀ pg nodes, (some pg, nodes) ∈ g.placementGroups.entries → PlacementSlice lkp nodes

variable {lkp : Lookup} {env : Provider}

theorem mem_chunkNodes (hv : PodsFit lkp) {nodes c : List String} (h : c ∈ chunkNodes lkp nodes) :
    c ≠ [] ∧ c.length ≤ BULK_INSERT_LIMIT ∧ c <+ nodes := by
  obtain ⟨h1, h2, h3⟩ := mem_chunked h
  refine ⟨h1, h2.trans ?_, h3⟩
  split
  · split
    · exact hv _ _ ‹_›
    · exact le_rfl
  · exact le_rfl

theorem placementSlice_of_mem_jobChunks {g : JobGroup} {c : BulkChunk} (hg : GroupPlacementSlices lkp g)
    (h : c ∈ jobChunks lkp g) {pg : String} (hp : c.placementGroup = some pg) : PlacementSlice lkp c.nodes := by
  obtain ⟨pg_nodes, hpg, -, -, nodes, hgrp, hc⟩ := mem_jobChunks h
  obtain ⟨rfl, -⟩ := mem_groupbyUnsorted hgrp
  rw [hp] at hpg
  exact (hg pg pg_nodes hpg).mono ((mem_chunked hc).2.2.trans (filter_sublist _)).subperm

theorem chunkInvariant_of_mem_jobChunks (hv : PodsFit lkp) {g : JobGroup} {c : BulkChunk}
    (hg : GroupPlacementSlices lkp g) (h : c ∈ jobChunks lkp g) : ChunkInvariant lkp c := by
  obtain ⟨pg_nodes, hpg, -, -, nodes, hgrp, hc⟩ := mem_jobChunks h
  obtain ⟨hne, hlen, hsub⟩ := mem_chunkNodes hv hc
  obtain ⟨rfl, -⟩ := mem_groupbyUnsorted hgrp
  refine ⟨hne, fun n hn => ?_, hlen, fun pg hp => placementSlice_of_mem_jobChunks hg h hp⟩
  simpa using (mem_filter.mp (hsub.subset hn)).2

theorem groupPlacementSlices_of_mem_jobGroupsPlan {nodes : List String} {jobs : List ResumeJobData}
    {g : JobGroup} (h : g ∈ (jobGroupsPlan lkp nodes jobs).values) : GroupPlacementSlices lkp g := by
  intro pg pg_nodes hm
  rcases mem_jobGroupsPlan h with rfl | rfl | ⟨job, -, rfl⟩
  · simp at hm
  · exact placementSlice_of_mem_placementPlan hm
  · simp only [jobPlacementPlan] at hm
    split at hm
    · simp at hm
    · obtain ⟨v, hv, rfl⟩ := mem_restrictToResumed hm
      exact (placementSlice_of_mem_placementPlan hv).mono
        ((restricted_subperm _ _).trans (filter_sublist _).subperm)

/-- Every chunk `group_nodes_bulk` returns is non-empty, of one node prefix and at most 5000
nodes; a chunk with a placement group has at most 150 conventional nodes of one
placement-enabled nodeset whose list had two or more nodes and passed `valid_placement_nodes`;
so `create_instances_request` never fails an assertion on it. -/
theorem groupNodesBulk_chunks_valid (hv : PodsFit lkp) {nodes : List String}
    {resume_data : Option ResumeData} {d : PyDict String BulkChunk}
    (h : groupNodesBulk lkp env nodes resume_data = .ok d) :
    ∀ c ∈ d.values, ChunkInvariant lkp c ∧
      createInstancesRequest lkp c.nodes c.partition c.placementGroup c.jobId ≠ .error .assertionError := by
  intro c hc
  rw [groupNodesBulk_ok_eq h] at hc
  obtain ⟨g, hg, hcg⟩ := mem_bulkChunks hc
  have hi := chunkInvariant_of_mem_jobChunks hv (groupPlacementSlices_of_mem_jobGroupsPlan hg) hcg
  exact ⟨hi, createInstancesRequest_ne_assertionError hi.nodes_ne_nil hi.length_le
    fun pg hp => (hi.placement pg hp).length_le⟩

def twoNodesetLookup : Lookup where
  slurmClusterName := "c"
  scontrol := "scontrol"
  nodePrefix := fun n => String.mk (n.toList.take 3)
  prefixNodeset := fun p => String.mk (p.toList.drop 2)
  nodeset := fun _ => ⟨some "tmpl", false, "n2-standard-4", [], [], some "ANY"⟩
  nodesetTpu := fun _ => none
  partitions := fun _ => ⟨["a", "b"], [], false⟩
  nodeRegion := fun _ => "r"

def mixedLookup : Lookup where
  slurmClusterName := "c"
  scontrol := "scontrol"
  nodePrefix := fun n => String.mk (n.toList.take 3)
  prefixNodeset := fun p => String.mk (p.toList.drop 2)
  nodeset := fun ns => if ns = "t" then ⟨none, false, "", [], [], none⟩
    else ⟨some "tmpl", true, "c2-standard-4", [], [], some "ANY"⟩
  nodesetTpu := fun ns => if ns = "t" then some ⟨2, false⟩ else none
  partitions := fun p => if p = "tp" then ⟨[], ["t"], false⟩ else ⟨["a"], [], false⟩
  nodeRegion := fun _ => "r"

def placedPodJobs : ResumeData := ⟨[⟨1, "p", ["c-a-0", "c-a-1"]⟩, ⟨2, "tp", ["c-t-0", "c-t-1"]⟩]⟩

theorem mixedLookup_podsFit : PodsFit mixedLookup := fun ns tpu h => by
  simp only [mixedLookup] at h
  split at h <;> cases h
  decide

theorem groupNodesBulk_chunks_valid_placed_pod :
    PodsFit mixedLookup ∧
    ∃ d, groupNodesBulk mixedLookup acceptingProvider ["c-a-0", "c-a-1", "c-t-0", "c-t-1"]
        (some placedPodJobs) = .ok d ∧
      (⟨["c-a-0", "c-a-1"], "c-a", 0, some 1, some "p", some "c-slurmgcp-managed-a-1-0"⟩ : BulkChunk) ∈ d.values ∧
      (⟨["c-t-0", "c-t-1"], "c-t", 0, some 2, some "tp", none⟩ : BulkChunk) ∈ d.values ∧
      (ChunkInvariant mixedLookup ⟨["c-a-0", "c-a-1"], "c-a", 0, some 1, some "p", some "c-slurmgcp-managed-a-1-0"⟩ ∧
        createInstancesRequest mixedLookup ["c-a-0", "c-a-1"] (some "p") (some "c-slurmgcp-managed-a-1-0") (some 1) ≠
          .error .assertionError) ∧
      (ChunkInvariant mixedLookup ⟨["c-t-0", "c-t-1"], "c-t", 0, some 2, some "tp", none⟩ ∧
        createInstancesRequest mixedLookup ["c-t-0", "c-t-1"] (some "tp") none (some 2) ≠ .error .assertionError) :=
  have hd : groupNodesBulk mixedLookup acceptingProvider ["c-a-0", "c-a-1", "c-t-0", "c-t-1"]
      (some placedPodJobs) = .ok (groupPlan mixedLookup ["c-a-0", "c-a-1", "c-t-0", "c-t-1"] (some placedPodJobs)) :=
    rfl
  have h₁ : (⟨["c-a-0", "c-a-1"], "c-a", 0, some 1, some "p", some "c-slurmgcp-managed-a-1-0"⟩ : BulkChunk) ∈
      (groupPlan mixedLookup ["c-a-0", "c-a-1", "c-t-0", "c-t-1"] (some placedPodJobs)).values := by decide
  have h₂ : (⟨["c-t-0", "c-t-1"], "c-t", 0, some 2, some "tp", none⟩ : BulkChunk) ∈
      (groupPlan mixedLookup ["c-a-0", "c-a-1", "c-t-0", "c-t-1"] (some placedPodJobs)).values := by decide
  ⟨mixedLookup_podsFit, _, hd, h₁, h₂, groupNodesBulk_chunks_valid mixedLookup_podsFit hd _ h₁,
    groupNodesBulk_chunks_valid mixedLookup_podsFit hd _ h₂⟩

def sharedNodeJobs : ResumeData :=
  ⟨[⟨1, "p", ["c-a-0"]⟩, ⟨2, "p", ["c-a-0"]⟩]⟩

theorem groupNodesBulk_shared_node :
    ∃ d, groupNodesBulk twoNodesetLookup acceptingProvider ["c-a-0"] (some sharedNodeJobs) = .ok d ∧
      ∃ e₁ ∈ d.entries, ∃ e₂ ∈ d.entries,
        e₁.1 ≠ e₂.1 ∧ "c-a-0" ∈ e₁.2.nodes ∧ "c-a-0" ∈ e₂.2.nodes :=
  ⟨_, rfl, by decide⟩

/-! ### No node requested twice -/

theorem jobPlacementPlan_subperm {nodes : List String} (hn : nodes.Nodup) (job : ResumeJobData) :
    (jobPlacementPlan lkp nodes job).entries.flatMap Prod.snd <+~
      job.nodesAlloc.filter (· ∈ nodes) := by
  unfold jobPlacementPlan
  split
  · simp only [entries_noPg, flatMap_cons, flatMap_nil, append_nil]
    refine (nodup_sorted (hn.filter _)).subperm fun x hx => ?_
    simp only [mem_sorted, mem_filter, decide_eq_true_eq] at hx ⊢
    exact hx.symm
  · have hr : job.nodesAlloc.filter (· ∈ nodes.filter (· ∈ job.nodesAlloc)) =
        job.nodesAlloc.filter (· ∈ nodes) :=
      filter_congr fun x hx => by simp [hx]
    rw [← hr]
    simp only [restrictToResumed, PyDict.mapValues, flatMap_map]
    refine (subperm_flatMap_congr fun p _ => restricted_subperm _ _).trans ?_
    rw [← filter_flatMap]
    exact (flatMap_placementPlan_subperm _ _).filter _

theorem flatMap_jobGroupsPlan_subperm {nodes : List String} (hn : nodes.Nodup)
    (jobs : List ResumeJobData) :
    (jobGroupsPlan lkp nodes jobs).values.flatMap (fun g => g.placementGroups.entries.flatMap Prod.snd) <+~
      sorted (separate lkp.nodeIsTpu (allJoblessNodes nodes jobs)).2 ++
        (sorted (separate lkp.nodeIsTpu (allJoblessNodes nodes jobs)).1 ++
          jobs.flatMap fun job => job.nodesAlloc.filter (· ∈ nodes)) := by
  refine (Subperm.flatMap_of _ (values_jobGroupsPlan_subperm nodes jobs)).trans ?_
  simp only [flatMap_cons, entries_noPg, flatMap_nil, append_nil, flatMap_map]
  exact Subperm.append_of (Subperm.refl _) (Subperm.append_of (flatMap_placementPlan_subperm _ _)
    (subperm_flatMap_congr fun job _ => jobPlacementPlan_subperm hn job))

theorem nodup_resumed_nodes {nodes : List String} (hn : nodes.Nodup) (jobs : List ResumeJobData)
    (hjobs : (jobs.flatMap fun job => job.nodesAlloc.filter (· ∈ nodes)).Nodup) :
    (sorted (separate lkp.nodeIsTpu (allJoblessNodes nodes jobs)).2 ++
      (sorted (separate lkp.nodeIsTpu (allJoblessNodes nodes jobs)).1 ++
        jobs.flatMap fun job => job.nodesAlloc.filter (· ∈ nodes))).Nodup := by
  have hj : (allJoblessNodes nodes jobs).Nodup := hn.filter _
  refine nodup_append.mpr ⟨nodup_sorted (hj.filter _), nodup_append.mpr
    ⟨nodup_sorted (hj.filter _), hjobs, ?_⟩, ?_⟩
  · intro x hx hx'
    simp only [mem_sorted, separate, allJoblessNodes, mem_filter, all_eq_true,
      decide_eq_true_eq] at hx
    obtain ⟨job, hjob, hx'⟩ := mem_flatMap.mp hx'
    exact hx.1.2 job hjob (mem_filter.mp hx').1
  · intro x hx hx'
    simp only [mem_sorted, separate, mem_filter] at hx
    simp only [mem_append, mem_sorted, separate, mem_filter] at hx'
    rcases hx' with hx' | hx'
    · simp [hx.2] at hx'
    · obtain ⟨job, hjob, hx'⟩ := mem_flatMap.mp hx'
      simp only [allJoblessNodes, mem_filter, all_eq_true, decide_eq_true_eq] at hx
      exact hx.1.2 job hjob (mem_filter.mp hx').1

theorem subset_of_mem_resumed_nodes {nodes : List String} {jobs : List ResumeJobData} {x : String}
    (hx : x ∈ sorted (separate lkp.nodeIsTpu (allJoblessNodes nodes jobs)).2 ++
      (sorted (separate lkp.nodeIsTpu (allJoblessNodes nodes jobs)).1 ++
        jobs.flatMap fun job => job.nodesAlloc.filter (· ∈ nodes))) : x ∈ nodes := by
  simp only [mem_append, mem_sorted, separate, allJoblessNodes, mem_filter, mem_flatMap,
    decide_eq_true_eq] at hx
  rcases hx with h | h | ⟨_, _, -, h⟩ <;> tauto

/-- When no resumed node is allocated to two job records, the chunks are subsets of the nodes
given, without repeats, and no node lies in the chunks of two group names. -/
theorem groupNodesBulk_chunks_disjoint {nodes : List String} {resume_data : Option ResumeData}
    {d : PyDict String BulkChunk}
    (hjobs : ((resume_data.getD ⟨[]⟩).jobs.flatMap fun job => job.nodesAlloc.filter (· ∈ nodes)).Nodup)
    (h : groupNodesBulk lkp env nodes resume_data = .ok d) :
    (∀ c ∈ d.values, c.nodes ⊆ nodes ∧ c.nodes.Nodup) ∧
      ∀ e₁ ∈ d.entries, ∀ e₂ ∈ d.entries, e₁.1 ≠ e₂.1 → ∀ n ∈ e₁.2.nodes, n ∉ e₂.2.nodes := by
  rw [groupNodesBulk_ok_eq h, groupPlan]
  simp_rw [← mem_dedup (l := nodes)] at hjobs
  have hsub := (@flatMap_bulkChunks_subperm lkp _).trans
    (@flatMap_jobGroupsPlan_subperm lkp _ (nodup_dedup nodes) (resume_data.getD ⟨[]⟩).jobs)
  have hnd := Subperm.nodup_of hsub (nodup_resumed_nodes (nodup_dedup nodes) _ hjobs)
  rw [PyDict.values, flatMap_map] at hnd hsub
  obtain ⟨hall, hpw⟩ := nodup_flatMap.mp hnd
  refine ⟨fun c hc => ?_, fun e₁ h₁ e₂ h₂ hne n hn hn' => ?_⟩
  · obtain ⟨e, he, rfl⟩ := mem_map.mp hc
    exact ⟨fun x hx => mem_dedup.mp (subset_of_mem_resumed_nodes
      (hsub.subset (mem_flatMap.mpr ⟨e, he, hx⟩))), hall e he⟩
  · exact hpw.forall (fun _ _ h => h.symm) h₁ h₂ (fun he => hne (he ▸ rfl)) hn hn'

def twoJobs : ResumeData := ⟨[⟨1, "p", ["c-a-0"]⟩, ⟨2, "p", ["c-b-0"]⟩]⟩

theorem groupNodesBulk_chunks_disjoint_two_jobs :
    ((some twoJobs).getD ⟨[]⟩).jobs.flatMap (fun job => job.nodesAlloc.filter (· ∈ ["c-a-0", "c-b-0"])) =
      ["c-a-0", "c-b-0"] ∧
    (groupPlan twoNodesetLookup ["c-a-0", "c-b-0"] (some twoJobs)).keys = ["c-a:job1:0", "c-b:job2:0"] ∧
    (∀ c ∈ (groupPlan twoNodesetLookup ["c-a-0", "c-b-0"] (some twoJobs)).values,
      c.nodes ⊆ ["c-a-0", "c-b-0"] ∧ c.nodes.Nodup) ∧
    ∀ e₁ ∈ (groupPlan twoNodesetLookup ["c-a-0", "c-b-0"] (some twoJobs)).entries,
      ∀ e₂ ∈ (groupPlan twoNodesetLookup ["c-a-0", "c-b-0"] (some twoJobs)).entries,
        e₁.1 ≠ e₂.1 → ∀ n ∈ e₁.2.nodes, n ∉ e₂.2.nodes :=
  ⟨rfl, rfl, @groupNodesBulk_chunks_disjoint twoNodesetLookup acceptingProvider _ (some twoJobs) _
    (by decide) (groupNodesBulk_of_accepted _ _ fun _ => trivial)⟩

/-! ### A node lost -/

/-- Without job data, nodes `c-a-0` and `c-b-0` of two nodesets without placement each fall in a
no-policy bucket keyed `None`, and `pgs.update` keeps only the second: whatever the provider
answers, no chunk holds `c-a-0`. -/
theorem groupNodesBulk_drops_node (env : Provider) :
    groupNodesBulk twoNodesetLookup env ["c-a-0", "c-b-0"] none =
        .ok (groupPlan twoNodesetLookup ["c-a-0", "c-b-0"] none) ∧
      ∀ c ∈ (groupPlan twoNodesetLookup ["c-a-0", "c-b-0"] none).values, "c-a-0" ∉ c.nodes :=
  ⟨rfl, by decide⟩

/-- The same overwrite in `create_placement_groups` itself: of the duplicate-free list of
`c-a-0` and `c-b-0`, whatever the provider answers, its placement groups hold `c-b-0` alone. -/
theorem createPlacementGroups_drops_nodeset (env : Provider) :
    ∃ pgs, createPlacementGroups twoNodesetLookup env ["c-a-0", "c-b-0"] 0 = .ok pgs ∧
      pgs.entries = [(none, ["c-b-0"])] ∧ ∀ v ∈ pgs.values, "c-a-0" ∉ v :=
  ⟨_, rfl, rfl, by decide⟩

/-! ### Placement membership across runs -/

def overlappingJobs : ResumeData :=
  ⟨[⟨1, "p", ["c-a-0"]⟩, ⟨2, "p", ["c-a-0", "c-a-1"]⟩]⟩

theorem groupNodesBulk_placement_differs :
    ∃ d₁ d₂, groupNodesBulk placementLookup acceptingProvider ["c-a-0"] (some overlappingJobs) =
        .ok d₁ ∧
      groupNodesBulk placementLookup acceptingProvider ["c-a-0"] (some ⟨[⟨1, "p", ["c-a-0"]⟩]⟩) =
        .ok d₂ ∧
      ∃ c₁ ∈ d₁.values, ∃ c₂ ∈ d₂.values,
        "c-a-0" ∈ c₁.nodes ∧ "c-a-0" ∈ c₂.nodes ∧ c₁.placementGroup ≠ c₂.placementGroup :=
  ⟨_, _, rfl, rfl, by decide⟩

theorem placementPlan_key_unique {A : List String} (hA : A.Nodup) {jobId : Nat}
    {k₁ k₂ : Option String} {v₁ v₂ : List String} {n : String}
    (h₁ : (k₁, v₁) ∈ (placementPlan lkp A jobId).entries)
    (h₂ : (k₂, v₂) ∈ (placementPlan lkp A jobId).entries) (hn₁ : n ∈ v₁) (hn₂ : n ∈ v₂) :
    k₁ = k₂ := by
  obtain ⟨-, hpw⟩ := nodup_flatMap.mp (Subperm.nodup_of (flatMap_placementPlan_subperm A jobId) hA)
  by_contra hne
  exact hpw.forall (fun _ _ h => h.symm) h₁ h₂ (fun he => hne (congrArg Prod.fst he)) hn₁ hn₂

theorem mem_placementPlan_of_job_chunk {nodes : List String} {jobs : List ResumeJobData}
    (hids : (jobs.map (·.jobId)).Nodup) {R : ResumeJobData} (hR : R ∈ jobs)
    (htpu : lkp.partitionIsTpu R.partition = false) {c : BulkChunk}
    (hc : c ∈ (bulkChunks lkp (jobGroupsPlan lkp nodes jobs)).values) (hj : c.jobId = some R.jobId) :
    ∃ v, (c.placementGroup, v) ∈ (placementPlan lkp R.nodesAlloc R.jobId).entries ∧ c.nodes ⊆ v := by
  obtain ⟨g, hg, hcg⟩ := mem_bulkChunks hc
  obtain ⟨pg_nodes, hpg, hjid, -, grp, hgrp, hcn⟩ := mem_jobChunks hcg
  obtain ⟨rfl, -⟩ := mem_groupbyUnsorted hgrp
  have hsub : c.nodes ⊆ pg_nodes := ((mem_chunked hcn).2.2.trans (filter_sublist _)).subset
  rcases mem_jobGroupsPlan hg with rfl | rfl | ⟨job, hjob, rfl⟩
  · simp [hj] at hjid
  · simp [hj] at hjid
  · have hjob' : job = R := inj_on_of_nodup_map hids hjob hR (by simpa [hj] using hjid.symm)
    subst hjob'
    simp only [jobPlacementPlan, htpu, Bool.false_eq_true, if_false] at hpg
    obtain ⟨v, hv, rfl⟩ := mem_restrictToResumed hpg
    exact ⟨v, hv, fun x hx => mem_dedup.mp (mem_filter.mp (mem_sorted.mp (hsub hx))).1⟩

/-- Two runs that both hold the job record `R`, on a partition without accelerators and with an
allocation without repeats, put a node of `R` in the same placement group in every chunk of `R`,
whatever nodes they resume and whatever the provider answers. -/
theorem groupNodesBulk_placement_stable {env₁ env₂ : Provider} {N₁ N₂ : List String}
    {J₁ J₂ : ResumeData} {d₁ d₂ : PyDict String BulkChunk} {R : ResumeJobData}
    (hR₁ : R ∈ J₁.jobs) (hR₂ : R ∈ J₂.jobs) (hids₁ : (J₁.jobs.map (·.jobId)).Nodup)
    (hids₂ : (J₂.jobs.map (·.jobId)).Nodup) (htpu : lkp.partitionIsTpu R.partition = false)
    (hA : R.nodesAlloc.Nodup) (h₁ : groupNodesBulk lkp env₁ N₁ (some J₁) = .ok d₁)
    (h₂ : groupNodesBulk lkp env₂ N₂ (some J₂) = .ok d₂) {n : String} {c₁ c₂ : BulkChunk}
    (hc₁ : c₁ ∈ d₁.values) (hc₂ : c₂ ∈ d₂.values) (hj₁ : c₁.jobId = some R.jobId)
    (hj₂ : c₂.jobId = some R.jobId) (hn₁ : n ∈ c₁.nodes) (hn₂ : n ∈ c₂.nodes) :
    c₁.placementGroup = c₂.placementGroup := by
  rw [groupNodesBulk_ok_eq h₁] at hc₁
  rw [groupNodesBulk_ok_eq h₂] at hc₂
  obtain ⟨v₁, hv₁, hs₁⟩ := mem_placementPlan_of_job_chunk hids₁ hR₁ htpu hc₁ hj₁
  obtain ⟨v₂, hv₂, hs₂⟩ := mem_placementPlan_of_job_chunk hids₂ hR₂ htpu hc₂ hj₂
  exact placementPlan_key_unique hA hv₁ hv₂ (hs₁ hn₁) (hs₂ hn₂)

def placedJob : ResumeData := ⟨[⟨1, "p", ["c-a-0", "c-a-1"]⟩]⟩

def placedChunk : BulkChunk :=
  ⟨["c-a-0", "c-a-1"], "c-a", 0, some 1, some "p", some "c-slurmgcp-managed-a-1-0"⟩

def twoPlacedJobs : ResumeData := ⟨[⟨1, "p", ["c-a-0", "c-a-1"]⟩, ⟨2, "p", ["c-a-2", "c-a-3"]⟩]⟩

theorem groupNodesBulk_placement_stable_part_resumed :
    ∃ d₁ d₂, groupNodesBulk placementLookup acceptingProvider ["c-a-0", "c-a-1"] (some placedJob) = .ok d₁ ∧
      groupNodesBulk placementLookup acceptingProvider ["c-a-0", "c-a-2"] (some twoPlacedJobs) = .ok d₂ ∧
      placedChunk ∈ d₁.values ∧
      (⟨["c-a-0"], "c-a", 0, some 1, some "p", some "c-slurmgcp-managed-a-1-0"⟩ : BulkChunk) ∈ d₂.values ∧
      placedChunk.placementGroup =
        (⟨["c-a-0"], "c-a", 0, some 1, some "p", some "c-slurmgcp-managed-a-1-0"⟩ : BulkChunk).placementGroup :=
  have h₁ : placedChunk ∈ (groupPlan placementLookup ["c-a-0", "c-a-1"] (some placedJob)).values := by decide
  have h₂ : (⟨["c-a-0"], "c-a", 0, some 1, some "p", some "c-slurmgcp-managed-a-1-0"⟩ : BulkChunk) ∈
      (groupPlan placementLookup ["c-a-0", "c-a-2"] (some twoPlacedJobs)).values := by decide
  ⟨_, _, rfl, rfl, h₁, h₂, @groupNodesBulk_placement_stable placementLookup acceptingProvider acceptingProvider
    ["c-a-0", "c-a-1"] ["c-a-0", "c-a-2"] placedJob twoPlacedJobs _ _ ⟨1, "p", ["c-a-0", "c-a-1"]⟩
    (by decide) (by decide) (by decide) (by decide) rfl (by decide) rfl rfl "c-a-0" _ _ h₁ h₂ rfl rfl
    (by decide) (by decide)⟩

/-! ### Whose nodes a chunk holds -/

def ChunkOwner (nodes : List String) (jobs : List ResumeJobData) (c : BulkChunk) : Prop :=
  match c.jobId with
  | some j => ∃ job ∈ jobs, job.jobId = j ∧ c.partition = some job.partition ∧
      ∀ n ∈ c.nodes, n ∈ nodes ∧ n ∈ job.nodesAlloc
  | none => c.partition = none ∧ ∀ n ∈ c.nodes, n ∈ nodes ∧ ∀ job ∈ jobs, n ∉ job.nodesAlloc

theorem mem_allJoblessNodes {nodes : List String} {jobs : List ResumeJobData} {n : String} :
    n ∈ allJoblessNodes nodes jobs ↔ n ∈ nodes ∧ ∀ job ∈ jobs, n ∉ job.nodesAlloc := by
  simp [allJoblessNodes]

theorem chunkOwner_of_mem_groupPlan {nodes : List String} {resume_data : Option ResumeData}
    {c : BulkChunk} (hc : c ∈ (groupPlan lkp nodes resume_data).values) :
    ChunkOwner nodes (resume_data.getD ⟨[]⟩).jobs c := by
  obtain ⟨g, hg, hcg⟩ := mem_bulkChunks hc
  obtain ⟨pg_nodes, hpg, hjob, hpart, ns, hns, hcn⟩ := mem_jobChunks hcg
  have hsub : ∀ n ∈ c.nodes, n ∈ g.placementGroups.entries.flatMap Prod.snd := fun n hn =>
    mem_flatMap.mpr ⟨_, hpg, (mem_of_mem_groupbyUnsorted hns ((mem_chunked hcn).2.2.subset hn)).1⟩
  rcases mem_jobGroupsPlan hg with rfl | rfl | ⟨job, hjob', rfl⟩
  · rw [ChunkOwner, hjob]
    refine ⟨hpart, fun n hn => ?_⟩
    have hn := hsub n hn
    simp only [entries_noPg, flatMap_cons, flatMap_nil, append_nil, mem_sorted, separate, mem_filter] at hn
    exact (mem_allJoblessNodes.mp hn.1).imp_left mem_dedup.mp
  · rw [ChunkOwner, hjob]
    refine ⟨hpart, fun n hn => ?_⟩
    have hn := (flatMap_placementPlan_subperm _ _).subset (hsub n hn)
    simp only [mem_sorted, separate, mem_filter] at hn
    exact (mem_allJoblessNodes.mp hn.1).imp_left mem_dedup.mp
  · rw [ChunkOwner, hjob]
    refine ⟨job, hjob', rfl, hpart, fun n hn => ?_⟩
    have hn := mem_filter.mp ((jobPlacementPlan_subperm (nodup_dedup nodes) job).subset (hsub n hn))
    exact ⟨mem_dedup.mp (of_decide_eq_true hn.2), hn.1⟩

/-- Grouping never mixes owners: whenever `group_nodes_bulk` returns, each chunk with a job id
holds only resumed nodes allocated to a job record with that id and is on that job's partition,
and each jobless chunk holds only resumed nodes that no job record allocates. -/
theorem groupNodesBulk_chunk_owner {nodes : List String} {resume_data : Option ResumeData}
    {grouped : PyDict String BulkChunk} (h : groupNodesBulk lkp env nodes resume_data = .ok grouped)
    {c : BulkChunk} (hc : c ∈ grouped.values) : ChunkOwner nodes (resume_data.getD ⟨[]⟩).jobs c := by
  rw [groupNodesBulk_ok_eq h] at hc
  exact chunkOwner_of_mem_groupPlan hc

theorem groupNodesBulk_chunk_owner_placed_job :
    ∃ grouped, groupNodesBulk placementLookup acceptingProvider ["c-a-0", "c-a-1"] (some placedJob) =
        .ok grouped ∧ placedChunk ∈ grouped.values ∧ ChunkOwner ["c-a-0", "c-a-1"] placedJob.jobs placedChunk :=
  ⟨_, rfl, by decide, @groupNodesBulk_chunk_owner placementLookup acceptingProvider ["c-a-0", "c-a-1"]
    (some placedJob) _ rfl placedChunk (by decide)⟩

end SlurmResume
