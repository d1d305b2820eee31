import SlurmResume.ChunkInvariants

/-! Which chunk of `group_nodes_bulk` is which: a chunk records the key of its job group, and its
prefix, job id, placement group and index single it out among the chunks built. The chunks of
accelerator nodes are the slices of one prefix group by the pod size, all full but the last. -/

namespace SlurmResume
open List

def groupedNodes (lkp : Lookup) (job_groups : PyDict JobGroupKey JobGroup) : List BulkChunk :=
  job_groups.values.flatMap (jobChunks lkp)

def jobGroupKeyOf (lkp : Lookup) (chunk : BulkChunk) : JobGroupKey :=
  match chunk.jobId with
  | some jobId => .job jobId
  | none => if (lkp.nodesetTpu (lkp.prefixNodeset chunk.pfx)).isSome then .tpuNone else .normalNone

def BulkChunk.nameKey (chunk : BulkChunk) : String × Option Nat × Option String × Nat :=
  (chunk.pfx, chunk.jobId, chunk.placementGroup, chunk.chunkIdx)

theorem bulkChunks_eq (lkp : Lookup) (job_groups : PyDict JobGroupKey JobGroup) :
    bulkChunks lkp job_groups =
      PyDict.ofList ((groupedNodes lkp job_groups).map fun chunk => (groupName chunk, chunk)) := rfl

variable {lkp : Lookup} {nodes : List String} {jobs : List ResumeJobData}

theorem mem_groupedNodes_of_mem_values {job_groups : PyDict JobGroupKey JobGroup} {c : BulkChunk}
    (h : c ∈ (bulkChunks lkp job_groups).values) : c ∈ groupedNodes lkp job_groups := by
  simpa [map_map, groupedNodes] using (PyDict.values_ofList_subperm _).subset h

theorem mem_entries_jobGroupsPlan {e : JobGroupKey × JobGroup} (h : e ∈ (jobGroupsPlan lkp nodes jobs).entries) :
    e = (.tpuNone, ⟨none, none, noPg (sorted (separate lkp.nodeIsTpu (allJoblessNodes nodes jobs)).2)⟩) ∨
    e = (.normalNone, ⟨none, none, placementPlan lkp (sorted (separate lkp.nodeIsTpu
      (allJoblessNodes nodes jobs)).1) 0⟩) ∨
    ∃ job ∈ jobs, e = (.job job.jobId, ⟨some job.jobId, some job.partition, jobPlacementPlan lkp nodes job⟩) := by
  have hm := ((PyDict.entries_set_subperm _ _ _).trans ((subperm_cons _).mpr
    ((PyDict.entries_set_subperm _ _ _).trans ((subperm_cons _).mpr
      (PyDict.entries_ofList_subperm _))))).subset h
  simpa [eq_comm] using hm

theorem slice_of_mem_jobChunks {g : JobGroup} {c : BulkChunk} (h : c ∈ jobChunks lkp g) :
    c.jobId = g.jobId ∧ ∃ pg_nodes, (c.placementGroup, pg_nodes) ∈ g.placementGroups.entries ∧
      ∃ grp, (c.pfx, grp) ∈ groupbyUnsorted pg_nodes lkp.nodePrefix ∧
        (c.chunkIdx, c.nodes) ∈ (chunkNodes lkp grp).enum := by
  simp only [jobChunks, mem_flatMap, mem_map] at h
  obtain ⟨⟨pg, pg_nodes⟩, hpg, ⟨k, grp⟩, hg, ⟨i, cn⟩, hc, rfl⟩ := h
  exact ⟨rfl, pg_nodes, hpg, grp, hg, hc⟩

theorem jobGroupKeyOf_of_mem {e : JobGroupKey × JobGroup} (he : e ∈ (jobGroupsPlan lkp nodes jobs).entries)
    {c : BulkChunk} (hc : c ∈ jobChunks lkp e.2) : jobGroupKeyOf lkp c = e.1 := by
  obtain ⟨hjob, pg_nodes, hpg, grp, hgrp, -⟩ := slice_of_mem_jobChunks hc
  obtain ⟨-, n, hn, hpfx⟩ := mem_groupbyUnsorted hgrp
  have htpu : (lkp.nodesetTpu (lkp.prefixNodeset c.pfx)).isSome = lkp.nodeIsTpu n := by
    rw [← hpfx]; rfl
  rcases mem_entries_jobGroupsPlan he with rfl | rfl | ⟨job, -, rfl⟩
  · obtain ⟨-, rfl⟩ : c.placementGroup = none ∧ pg_nodes = _ := by simpa using hpg
    simp only [mem_sorted, separate, mem_filter] at hn
    simp [jobGroupKeyOf, hjob, htpu, hn.2]
  · have hn' := (flatMap_placementPlan_subperm _ _).subset (mem_flatMap.mpr ⟨_, hpg, hn⟩)
    simp only [mem_sorted, separate, mem_filter, Bool.not_eq_true'] at hn'
    simp [jobGroupKeyOf, hjob, htpu, hn'.2]
  · simp [jobGroupKeyOf, hjob]

theorem jobGroupKeyOf_eq_of_nameKey {c c' : BulkChunk} (h : c.pfx = c'.pfx) (h' : c.jobId = c'.jobId) :
    jobGroupKeyOf lkp c = jobGroupKeyOf lkp c' := by
  simp only [jobGroupKeyOf, h, h']

theorem pairwise_jobChunks (g : JobGroup) : (jobChunks lkp g).Pairwise fun x y => x.nameKey ≠ y.nameKey := by
  refine pairwise_flatMap_of_keys g.placementGroups.nodup_keys (fun pg _ => ?_)
    fun pg _ pg' _ hne x hx y hy => ?_
  · refine pairwise_flatMap_of_keys nodup_keys_groupbyUnsorted (fun grp _ => ?_)
      fun grp _ grp' _ hne x hx y hy => ?_
    · have hidx : ((chunkNodes lkp grp.2).enum.map Prod.fst).Nodup := by
        rw [enum_map_fst]; exact nodup_range _
      exact (pairwise_map.mp hidx).map _ fun a b h => by simp [BulkChunk.nameKey, h]
    · obtain ⟨_, -, rfl⟩ := mem_map.mp hx
      obtain ⟨_, -, rfl⟩ := mem_map.mp hy
      simp [BulkChunk.nameKey, hne]
  · simp only [mem_flatMap, mem_map] at hx hy
    obtain ⟨_, -, _, -, rfl⟩ := hx
    obtain ⟨_, -, _, -, rfl⟩ := hy
    simp [BulkChunk.nameKey, hne]

theorem pairwise_groupedNodes (nodes : List String) (jobs : List ResumeJobData) :
    (groupedNodes lkp (jobGroupsPlan lkp nodes jobs)).Pairwise fun x y => x.nameKey ≠ y.nameKey := by
  rw [groupedNodes, PyDict.values, flatMap_map]
  refine pairwise_flatMap_of_keys (PyDict.nodup_keys _) (fun e _ => pairwise_jobChunks e.2)
    fun e he e' he' hne x hx y hy hxy => hne ?_
  simp only [BulkChunk.nameKey, Prod.mk.injEq] at hxy
  rw [← jobGroupKeyOf_of_mem he hx, ← jobGroupKeyOf_of_mem he' hy, jobGroupKeyOf_eq_of_nameKey hxy.1 hxy.2.1]

theorem slices_of_same_group {c c' : BulkChunk} (hc : c ∈ groupedNodes lkp (jobGroupsPlan lkp nodes jobs))
    (hc' : c' ∈ groupedNodes lkp (jobGroupsPlan lkp nodes jobs)) (hp : c.pfx = c'.pfx)
    (hj : c.jobId = c'.jobId) (hg : c.placementGroup = c'.placementGroup) :
    ∃ grp, (∀ n ∈ grp, lkp.nodePrefix n = c.pfx) ∧ (c.chunkIdx, c.nodes) ∈ (chunkNodes lkp grp).enum ∧
      (c'.chunkIdx, c'.nodes) ∈ (chunkNodes lkp grp).enum := by
  simp only [groupedNodes, PyDict.values, flatMap_map, mem_flatMap] at hc hc'
  obtain ⟨e, he, hce⟩ := hc
  obtain ⟨e', he', hce'⟩ := hc'
  have hkey : e.1 = e'.1 := by
    rw [← jobGroupKeyOf_of_mem he hce, ← jobGroupKeyOf_of_mem he' hce', jobGroupKeyOf_eq_of_nameKey hp hj]
  have hee : e = e' := inj_on_of_nodup_map (PyDict.nodup_keys _) he he' hkey
  subst hee
  obtain ⟨-, pg_nodes, hpg, grp, hgrp, hi⟩ := slice_of_mem_jobChunks hce
  obtain ⟨-, pg_nodes', hpg', grp', hgrp', hi'⟩ := slice_of_mem_jobChunks hce'
  rw [← hg] at hpg'
  rw [PyDict.eq_of_mem_entries hpg' hpg, ← hp] at hgrp'
  obtain ⟨rfl, -⟩ := mem_groupbyUnsorted hgrp
  obtain ⟨rfl, -⟩ := mem_groupbyUnsorted hgrp'
  exact ⟨_, fun n hn => by simpa using (mem_filter.mp hn).2, hi, hi'⟩

theorem chunkNodes_of_tpu {grp : List String} {p n : String} {tpu : TpuNodeset}
    (hgrp : ∀ m ∈ grp, lkp.nodePrefix m = p) (hn : n ∈ grp) (ht : lkp.nodeTpu n = some tpu) :
    chunkNodes lkp grp = chunked grp tpu.vmcount := by
  match grp, hgrp, hn with
  | m :: _, hgrp, hn =>
    have hm : lkp.nodeTpu m = some tpu :=
      (lkp.nodeTpu_eq_of_prefix ((hgrp m (mem_cons_self _ _)).trans (hgrp n hn).symm)).trans ht
    simp [chunkNodes, hm]

def podLookup : Lookup where
  slurmClusterName := "c"
  scontrol := "scontrol"
  nodePrefix := fun n => String.mk (n.toList.take 3)
  prefixNodeset := fun p => String.mk (p.toList.drop 2)
  nodeset := fun _ => ⟨none, false, "", [], [], none⟩
  nodesetTpu := fun ns => if ns = "t" then some ⟨2, false⟩ else none
  partitions := fun _ => ⟨[], ["t"], false⟩
  nodeRegion := fun _ => "r"

/-- Resuming one node of a two-VM pod hands `start_tpu` a chunk of one node. -/
theorem groupNodesBulk_partial_pod :
    ∃ d, groupNodesBulk podLookup acceptingProvider ["c-t-0"] none = .ok d ∧
      ∃ c ∈ d.values, (∀ n ∈ c.nodes, podLookup.nodeTpu n = some ⟨2, false⟩) ∧ c.nodes.length ≠ 2 :=
  ⟨_, rfl, by decide⟩

/-- A chunk of accelerator nodes of a nodeset with pods of `v` VMs holds at least one and at most
`v` nodes, and exactly `v` unless it is the last slice of its prefix group: no chunk of the same
prefix, job id and placement group has the next index. -/
theorem groupNodesBulk_tpu_chunks {env : Provider} {resume_data : Option ResumeData}
    {d : PyDict String BulkChunk} (h : groupNodesBulk lkp env nodes resume_data = .ok d) {c : BulkChunk}
    (hc : c ∈ d.values) {tpu : TpuNodeset} (htpu : ∀ n ∈ c.nodes, lkp.nodeTpu n = some tpu) :
    0 < c.nodes.length ∧ c.nodes.length ≤ tpu.vmcount ∧
      ∀ c' ∈ d.values, c'.pfx = c.pfx → c'.jobId = c.jobId → c'.placementGroup = c.placementGroup →
        c'.chunkIdx = c.chunkIdx + 1 → c.nodes.length = tpu.vmcount := by
  rw [groupNodesBulk_ok_eq h, groupPlan] at hc ⊢
  obtain ⟨grp, hgrp, hi, -⟩ := slices_of_same_group (mem_groupedNodes_of_mem_values hc)
    (mem_groupedNodes_of_mem_values hc) rfl rfl rfl
  obtain ⟨hne, -, hsub⟩ := mem_chunked (snd_mem_of_mem_enum hi)
  obtain ⟨n, hn⟩ := exists_mem_of_ne_nil _ hne
  have hsize := chunkNodes_of_tpu hgrp (hsub.subset hn) (htpu n hn)
  refine ⟨length_pos.mpr hne, (mem_chunked (snd_mem_of_mem_enum (hsize ▸ hi))).2.1,
    fun c' hc' hp hj hg hi' => ?_⟩
  obtain ⟨grp', hgrp', h₁, h₂⟩ := slices_of_same_group (mem_groupedNodes_of_mem_values hc)
    (mem_groupedNodes_of_mem_values hc') hp.symm hj.symm hg.symm
  rw [chunkNodes_of_tpu hgrp' ((mem_chunked (snd_mem_of_mem_enum h₁)).2.2.subset hn) (htpu n hn)] at h₁ h₂
  exact length_of_mem_enum_chunked h₁ (hi' ▸ h₂)

theorem groupNodesBulk_tpu_chunks_full_pod :
    groupNodesBulk podLookup acceptingProvider ["c-t-0", "c-t-1", "c-t-2"] none =
        .ok (groupPlan podLookup ["c-t-0", "c-t-1", "c-t-2"] none) ∧
      (⟨["c-t-0", "c-t-1"], "c-t", 0, none, none, none⟩ : BulkChunk) ∈
        (groupPlan podLookup ["c-t-0", "c-t-1", "c-t-2"] none).values ∧
      (∀ n ∈ ["c-t-0", "c-t-1"], podLookup.nodeTpu n = some ⟨2, false⟩) ∧
      (0 < 2 ∧ 2 ≤ 2 ∧ ∀ c' ∈ (groupPlan podLookup ["c-t-0", "c-t-1", "c-t-2"] none).values,
        c'.pfx = "c-t" → c'.jobId = none → c'.placementGroup = none → c'.chunkIdx = 0 + 1 → 2 = 2) :=
  ⟨rfl, by decide, by decide, @groupNodesBulk_tpu_chunks podLookup ["c-t-0", "c-t-1", "c-t-2"]
    acceptingProvider none (groupPlan podLookup ["c-t-0", "c-t-1", "c-t-2"] none) rfl
    ⟨["c-t-0", "c-t-1"], "c-t", 0, none, none, none⟩ (by decide) ⟨2, false⟩ (by decide)⟩

end SlurmResume
