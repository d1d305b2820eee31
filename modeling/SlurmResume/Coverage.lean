import SlurmResume.GroupNames

/-! No resumed node is lost by `group_nodes_bulk` when nothing overwrites it: a node lies in a
placement group of its job group unless two nodesets share the no-policy bucket, every node of a
placement group lies in a chunk when every pod has a VM, and the closing comprehension keeps every
chunk when names hold no colon. -/

namespace SlurmResume
open List

variable {lkp : Lookup} {nodes : List String} {jobs : List ResumeJobData}

theorem flatten_chunkNodes (hpods : ∀ ns tpu, lkp.nodesetTpu ns = some tpu → 0 < tpu.vmcount)
    (l : List String) : (chunkNodes lkp l).flatten = l := by
  unfold chunkNodes
  refine flatten_chunked l ?_
  split
  · split
    · exact hpods _ _ ‹_›
    · decide
  · decide

theorem mem_jobChunks_of_mem (hpods : ∀ ns tpu, lkp.nodesetTpu ns = some tpu → 0 < tpu.vmcount)
    {g : JobGroup} {e : Option String × List String} (he : e ∈ g.placementGroups.entries) {x : String}
    (hx : x ∈ e.2) : ∃ c ∈ jobChunks lkp g, x ∈ c.nodes := by
  have hgrp := @mem_groupbyUnsorted_of_mem _ _ _ e.2 lkp.nodePrefix x hx
  have hxs : x ∈ (chunkNodes lkp (e.2.filter (lkp.nodePrefix · = lkp.nodePrefix x))).flatten := by
    rw [flatten_chunkNodes hpods]
    exact mem_filter.mpr ⟨hx, by simp⟩
  obtain ⟨slice, hslice, hxslice⟩ := mem_flatten.mp hxs
  obtain ⟨i, hi⟩ := mem_iff_getElem?.mp hslice
  refine ⟨⟨slice, lkp.nodePrefix x, i, g.jobId, g.partition, e.1⟩, ?_, hxslice⟩
  simp only [jobChunks, mem_flatMap, mem_map]
  exact ⟨e, he, _, hgrp, (i, slice), mem_enum_iff_getElem?.mpr hi, rfl⟩

theorem mem_entries_jobGroupsPlan_of_job (hids : (jobs.map (·.jobId)).Nodup) {job : ResumeJobData}
    (hjob : job ∈ jobs) : (JobGroupKey.job job.jobId, ⟨some job.jobId, some job.partition,
      jobPlacementPlan lkp nodes job⟩) ∈ (jobGroupsPlan lkp nodes jobs).entries := by
  refine PyDict.mem_entries_set_iff.mpr
    (Or.inr ⟨by simp, PyDict.mem_entries_set_iff.mpr (Or.inr ⟨by simp, ?_⟩)⟩)
  rw [PyDict.entries_ofList_of_nodup
    (by simpa [map_map, Function.comp_def] using hids.map fun _ _ => JobGroupKey.job.inj)]
  exact mem_map_of_mem _ hjob

theorem mem_placementGroups_jobGroupsPlan (hids : (jobs.map (·.jobId)).Nodup)
    (hjobs : ∀ job ∈ jobs, lkp.partitionIsTpu job.partition = false →
      OneNoPolicyBucket lkp job.nodesAlloc job.jobId)
    (hjobless : OneNoPolicyBucket lkp (sorted (separate lkp.nodeIsTpu (allJoblessNodes nodes jobs)).1) 0)
    {x : String} (hx : x ∈ nodes) :
    ∃ g ∈ (jobGroupsPlan lkp nodes jobs).values, ∃ e ∈ g.placementGroups.entries, x ∈ e.2 := by
  simp only [PyDict.values, mem_map]
  by_cases hj : ∃ job ∈ jobs, x ∈ job.nodesAlloc
  · obtain ⟨job, hjob, hxa⟩ := hj
    refine ⟨_, ⟨_, mem_entries_jobGroupsPlan_of_job hids hjob, rfl⟩, ?_⟩
    simp only [jobPlacementPlan]
    split
    · exact ⟨_, mem_singleton_self _, by simp [hx, hxa]⟩
    · next htpu =>
      obtain ⟨e, he, hxe⟩ := mem_flatMap.mp
        (mem_flatMap_placementPlan (hjobs job hjob (by simpa using htpu)) hxa)
      exact ⟨_, mem_map_of_mem _ he, by simp [hxe, hx, hxa]⟩
  · have hjl : x ∈ allJoblessNodes nodes jobs := by
      simp only [allJoblessNodes, mem_filter, all_eq_true, decide_eq_true_eq]
      exact ⟨hx, fun job hjob hxa => hj ⟨job, hjob, hxa⟩⟩
    cases ht : lkp.nodeIsTpu x with
    | true =>
      exact ⟨_, ⟨_, PyDict.mem_set_self _ _ _, rfl⟩, _, mem_singleton_self _, by simp [separate, hjl, ht]⟩
    | false =>
      obtain ⟨e, he, hxe⟩ := mem_flatMap.mp (mem_flatMap_placementPlan hjobless (show x ∈ _ by simp [separate, hjl, ht]))
      exact ⟨_, ⟨_, PyDict.mem_entries_set_iff.mpr (Or.inr ⟨by simp, PyDict.mem_set_self _ _ _⟩), rfl⟩,
        e, he, hxe⟩

theorem exists_chunk_of_mem (hpfx : ∀ n, ':' ∉ (lkp.nodePrefix n).data)
    (hpg : ∀ n jobId i, ':' ∉ (placementGroupName lkp (lkp.nodeNodesetName n) jobId i).data)
    (hpods : ∀ ns tpu, lkp.nodesetTpu ns = some tpu → 0 < tpu.vmcount) (hids : (jobs.map (·.jobId)).Nodup)
    (hjobs : ∀ job ∈ jobs, lkp.partitionIsTpu job.partition = false →
      OneNoPolicyBucket lkp job.nodesAlloc job.jobId)
    (hjobless : OneNoPolicyBucket lkp (sorted (separate lkp.nodeIsTpu (allJoblessNodes nodes jobs)).1) 0)
    {x : String} (hx : x ∈ nodes) : ∃ c ∈ (bulkChunks lkp (jobGroupsPlan lkp nodes jobs)).values, x ∈ c.nodes := by
  obtain ⟨g, hg, e, he, hxe⟩ := mem_placementGroups_jobGroupsPlan hids hjobs hjobless hx
  obtain ⟨c, hc, hxc⟩ := mem_jobChunks_of_mem hpods he hxe
  refine ⟨c, ?_, hxc⟩
  rw [PyDict.values, entries_bulkChunks_jobGroupsPlan hpfx hpg, map_map]
  exact mem_map.mpr ⟨c, mem_flatMap.mpr ⟨g, hg, hc⟩, rfl⟩

theorem flatMap_groupPlan_perm (hpfx : ∀ n, ':' ∉ (lkp.nodePrefix n).data)
    (hpg : ∀ n jobId i, ':' ∉ (placementGroupName lkp (lkp.nodeNodesetName n) jobId i).data)
    (hpods : ∀ ns tpu, lkp.nodesetTpu ns = some tpu → 0 < tpu.vmcount) {resume_data : Option ResumeData}
    (hids : ((resume_data.getD ⟨[]⟩).jobs.map (·.jobId)).Nodup)
    (hjobs : ∀ job ∈ (resume_data.getD ⟨[]⟩).jobs, lkp.partitionIsTpu job.partition = false →
      OneNoPolicyBucket lkp job.nodesAlloc job.jobId)
    (hjobless : OneNoPolicyBucket lkp
      (sorted (separate lkp.nodeIsTpu (allJoblessNodes nodes.dedup (resume_data.getD ⟨[]⟩).jobs)).1) 0)
    (hdisj : ((resume_data.getD ⟨[]⟩).jobs.flatMap fun job => job.nodesAlloc.filter (· ∈ nodes)).Nodup) :
    (groupPlan lkp nodes resume_data).values.flatMap BulkChunk.nodes ~ nodes.dedup := by
  simp_rw [← mem_dedup (l := nodes)] at hdisj
  have hsub := (@flatMap_bulkChunks_subperm lkp _).trans
    (@flatMap_jobGroupsPlan_subperm lkp _ (nodup_dedup nodes) (resume_data.getD ⟨[]⟩).jobs)
  have hnd := Subperm.nodup_of hsub (nodup_resumed_nodes (nodup_dedup nodes) _ hdisj)
  refine (hnd.subperm fun x hx => subset_of_mem_resumed_nodes (hsub.subset hx)).antisymm
    ((nodup_dedup nodes).subperm fun x hx => ?_)
  obtain ⟨c, hc, hxc⟩ := exists_chunk_of_mem hpfx hpg hpods hids hjobs hjobless hx
  exact mem_flatMap.mpr ⟨c, hc, hxc⟩

/-- No resumed node is lost by `group_nodes_bulk` when every pod has a VM, no prefix or
placement-group name holds a colon, the job ids are distinct, and no two nodesets of a job (or of
the jobless conventional nodes) fall into the no-policy bucket of `create_placement_groups`. -/
theorem groupNodesBulk_covers {env : Provider} (hpfx : ∀ n, ':' ∉ (lkp.nodePrefix n).data)
    (hpg : ∀ n jobId i, ':' ∉ (placementGroupName lkp (lkp.nodeNodesetName n) jobId i).data)
    (hpods : ∀ ns tpu, lkp.nodesetTpu ns = some tpu → 0 < tpu.vmcount) {resume_data : Option ResumeData}
    (hids : ((resume_data.getD ⟨[]⟩).jobs.map (·.jobId)).Nodup)
    (hjobs : ∀ job ∈ (resume_data.getD ⟨[]⟩).jobs, lkp.partitionIsTpu job.partition = false →
      OneNoPolicyBucket lkp job.nodesAlloc job.jobId)
    (hjobless : OneNoPolicyBucket lkp
      (sorted (separate lkp.nodeIsTpu (allJoblessNodes nodes.dedup (resume_data.getD ⟨[]⟩).jobs)).1) 0)
    {d : PyDict String BulkChunk} (h : groupNodesBulk lkp env nodes resume_data = .ok d) :
    ∀ x ∈ nodes, ∃ c ∈ d.values, x ∈ c.nodes := by
  rw [groupNodesBulk_ok_eq h]
  exact fun x hx => exists_chunk_of_mem hpfx hpg hpods hids hjobs hjobless (mem_dedup.mpr hx)

theorem groupNodesBulk_covers_placed_job :
    (∀ ns tpu, oneNodesetLookup.nodesetTpu ns = some tpu → 0 < tpu.vmcount) ∧
    (placedJob.jobs.map (·.jobId)).Nodup ∧
    (∀ job ∈ placedJob.jobs, oneNodesetLookup.partitionIsTpu job.partition = false →
      OneNoPolicyBucket oneNodesetLookup job.nodesAlloc job.jobId) ∧
    OneNoPolicyBucket oneNodesetLookup (sorted (separate oneNodesetLookup.nodeIsTpu
      (allJoblessNodes ["c-a-0", "c-a-1", "c-a-2"].dedup placedJob.jobs)).1) 0 ∧
    ∀ x ∈ ["c-a-0", "c-a-1", "c-a-2"], ∃ c ∈ (groupPlan oneNodesetLookup ["c-a-0", "c-a-1", "c-a-2"]
      (some placedJob)).values, x ∈ c.nodes :=
  have hpods : ∀ ns tpu, oneNodesetLookup.nodesetTpu ns = some tpu → 0 < tpu.vmcount :=
    fun _ _ h => nomatch h
  ⟨hpods, by decide, by decide, by decide,
    @groupNodesBulk_covers oneNodesetLookup ["c-a-0", "c-a-1", "c-a-2"] acceptingProvider
      oneNodesetLookup_prefix_colon_free oneNodesetLookup_names_colon_free hpods (some placedJob)
      (by decide) (by decide) (by decide) _ rfl⟩

end SlurmResume
