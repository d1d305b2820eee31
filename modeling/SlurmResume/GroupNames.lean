import Mathlib.Data.String.Basic
import SlurmResume.ChunkKeys
import SlurmResume.Python.Format

/-! The names `group_name` gives the chunks: colon-separated fields, read back by splitting on
the colon when no prefix and no placement group holds one, with the decimal digits of indices and
job ids read back as numbers. So the closing comprehension keeps every chunk built. -/

namespace SlurmResume
open List

theorem colon_not_mem_toString (n : Nat) : ':' ∉ (toString n).data := not_mem_toString (by decide)

theorem colon_not_mem_jobIdStr (jobId : Option Nat) : ':' ∉ (jobIdStr jobId).data := by
  cases jobId with
  | none => decide
  | some j => exact colon_not_mem_toString j

def nameFields (chunk : BulkChunk) : List (List Char) :=
  match chunk.placementGroup, chunk.jobId with
  | some pg, _ => [chunk.pfx.data, "job".data ++ (jobIdStr chunk.jobId).data, pg.data,
      (toString chunk.chunkIdx).data]
  | none, some jobId => [chunk.pfx.data, "job".data ++ (toString jobId).data,
      (toString chunk.chunkIdx).data]
  | none, none => [chunk.pfx.data, (toString chunk.chunkIdx).data]

structure ColonFree (chunk : BulkChunk) : Prop where
  pfx : ':' ∉ chunk.pfx.data
  placementGroup : ∀ pg, chunk.placementGroup = some pg → ':' ∉ pg.data

theorem toList_groupName (chunk : BulkChunk) :
    (groupName chunk).data = [':'].intercalate (nameFields chunk) := by
  obtain ⟨_, _, _, j, _, pg⟩ := chunk
  cases pg <;> cases j <;> simp [groupName, nameFields, intercalate]

theorem colon_not_mem_nameFields {chunk : BulkChunk} (h : ColonFree chunk) : ∀ l ∈ nameFields chunk, ':' ∉ l := by
  obtain ⟨_, _, _, j, _, pg⟩ := chunk
  have hpfx := h.pfx
  cases pg with
  | some pg =>
    simpa [nameFields, hpfx, h.placementGroup pg rfl, colon_not_mem_toString] using colon_not_mem_jobIdStr j
  | none => cases j <;> simp [nameFields, hpfx, colon_not_mem_toString]

theorem splitOn_groupName {chunk : BulkChunk} (h : ColonFree chunk) :
    (groupName chunk).data.splitOn ':' = nameFields chunk := by
  rw [toList_groupName]
  exact splitOn_intercalate _ ':' (colon_not_mem_nameFields h) (by unfold nameFields; split <;> simp)

theorem nameKey_eq_of_nameFields {c c' : BulkChunk} (h : nameFields c = nameFields c') :
    c.nameKey = c'.nameKey := by
  obtain ⟨_, pfx, i, j, _, pg⟩ := c
  obtain ⟨_, pfx', i', j', _, pg'⟩ := c'
  have hN := fun n => (None_ne_toString_data n).symm
  cases pg <;> cases pg' <;> cases j <;> cases j' <;>
    simp_all [nameFields, BulkChunk.nameKey, jobIdStr, String.ext_iff]

theorem nameKey_eq_of_groupName {c c' : BulkChunk} (hc : ColonFree c) (hc' : ColonFree c')
    (h : groupName c = groupName c') : c.nameKey = c'.nameKey :=
  nameKey_eq_of_nameFields (by rw [← splitOn_groupName hc, ← splitOn_groupName hc', h])

section
variable {lkp : Lookup} {nodes : List String} {jobs : List ResumeJobData}

theorem placementGroupName_of_mem_groupedNodes {c : BulkChunk}
    (hc : c ∈ groupedNodes lkp (jobGroupsPlan lkp nodes jobs)) {pg : String} (hpg : c.placementGroup = some pg) :
    ∃ model jobId i, pg = placementGroupName lkp (lkp.nodeNodesetName model) jobId i := by
  obtain ⟨g, hg, hcg⟩ := mem_flatMap.mp hc
  obtain ⟨-, pg_nodes, hmem, -⟩ := slice_of_mem_jobChunks hcg
  rw [hpg] at hmem
  rcases mem_jobGroupsPlan hg with rfl | rfl | ⟨job, -, rfl⟩
  · simp at hmem
  · obtain ⟨m, -, i, h⟩ := name_of_mem_placementPlan hmem
    exact ⟨m, 0, i, h⟩
  · simp only [jobPlacementPlan] at hmem
    split at hmem
    · simp at hmem
    · obtain ⟨v, hv, -⟩ := mem_restrictToResumed hmem
      obtain ⟨m, -, i, h⟩ := name_of_mem_placementPlan hv
      exact ⟨m, _, i, h⟩

theorem colonFree_of_mem_groupedNodes (hpfx : ∀ n, ':' ∉ (lkp.nodePrefix n).data)
    (hpg : ∀ n jobId i, ':' ∉ (placementGroupName lkp (lkp.nodeNodesetName n) jobId i).data)
    {c : BulkChunk} (hc : c ∈ groupedNodes lkp (jobGroupsPlan lkp nodes jobs)) : ColonFree c := by
  obtain ⟨g, -, hcg⟩ := mem_flatMap.mp hc
  obtain ⟨-, pg_nodes, -, grp, hgrp, -⟩ := slice_of_mem_jobChunks hcg
  obtain ⟨-, n, -, hn⟩ := mem_groupbyUnsorted hgrp
  refine ⟨hn ▸ hpfx n, fun pg hp => ?_⟩
  obtain ⟨m, j, i, rfl⟩ := placementGroupName_of_mem_groupedNodes hc hp
  exact hpg m j i

theorem nodup_names_groupedNodes (hpfx : ∀ n, ':' ∉ (lkp.nodePrefix n).data)
    (hpg : ∀ n jobId i, ':' ∉ (placementGroupName lkp (lkp.nodeNodesetName n) jobId i).data) :
    ((groupedNodes lkp (jobGroupsPlan lkp nodes jobs)).map groupName).Nodup :=
  pairwise_map.mpr ((pairwise_groupedNodes _ _).imp_of_mem fun hc hc' hne heq =>
    hne (nameKey_eq_of_groupName (colonFree_of_mem_groupedNodes hpfx hpg hc)
      (colonFree_of_mem_groupedNodes hpfx hpg hc') heq))

theorem entries_bulkChunks_jobGroupsPlan (hpfx : ∀ n, ':' ∉ (lkp.nodePrefix n).data)
    (hpg : ∀ n jobId i, ':' ∉ (placementGroupName lkp (lkp.nodeNodesetName n) jobId i).data) :
    (bulkChunks lkp (jobGroupsPlan lkp nodes jobs)).entries =
      (groupedNodes lkp (jobGroupsPlan lkp nodes jobs)).map fun chunk => (groupName chunk, chunk) := by
  rw [bulkChunks_eq]
  exact PyDict.entries_ofList_of_nodup (by simpa [map_map, Function.comp_def] using nodup_names_groupedNodes hpfx hpg)

/-- Under a configuration whose node prefixes and placement-group names hold no colon, the chunks
built get pairwise distinct names, so the closing comprehension keeps every chunk, in order. -/
theorem groupNodesBulk_names_distinct {env : Provider} (hpfx : ∀ n, ':' ∉ (lkp.nodePrefix n).data)
    (hpg : ∀ n jobId i, ':' ∉ (placementGroupName lkp (lkp.nodeNodesetName n) jobId i).data)
    {resume_data : Option ResumeData} {d : PyDict String BulkChunk}
    (h : groupNodesBulk lkp env nodes resume_data = .ok d) :
    let grouped_nodes := groupedNodes lkp (jobGroupsPlan lkp nodes.dedup (resume_data.getD ⟨[]⟩).jobs)
    (grouped_nodes.map groupName).Nodup ∧
      d.entries = grouped_nodes.map fun chunk => (groupName chunk, chunk) := by
  rw [groupNodesBulk_ok_eq h, groupPlan]
  exact ⟨nodup_names_groupedNodes hpfx hpg, entries_bulkChunks_jobGroupsPlan hpfx hpg⟩

end

def oneNodesetLookup : Lookup where
  slurmClusterName := "c"
  scontrol := "scontrol"
  nodePrefix := fun _ => "c-a"
  prefixNodeset := fun _ => "a"
  nodeset := fun _ => ⟨some "tmpl", true, "c2-standard-4", [], [], some "ANY"⟩
  nodesetTpu := fun _ => none
  partitions := fun _ => ⟨["a"], [], false⟩
  nodeRegion := fun _ => "r"

theorem oneNodesetLookup_prefix_colon_free : ∀ n, ':' ∉ (oneNodesetLookup.nodePrefix n).data :=
  fun _ => by show ':' ∉ "c-a".data; decide

theorem oneNodesetLookup_names_colon_free : ∀ n jobId i,
    ':' ∉ (placementGroupName oneNodesetLookup (oneNodesetLookup.nodeNodesetName n) jobId i).data := by
  intro n jobId i
  show ':' ∉ ("c" ++ "-slurmgcp-managed-" ++ "a" ++ "-" ++ toString jobId ++ "-" ++ toString i).data
  simp [colon_not_mem_toString]

theorem groupNodesBulk_names_distinct_placed_job :
    (∀ n, ':' ∉ (oneNodesetLookup.nodePrefix n).data) ∧
    (∀ n jobId i,
      ':' ∉ (placementGroupName oneNodesetLookup (oneNodesetLookup.nodeNodesetName n) jobId i).data) ∧
    groupNodesBulk oneNodesetLookup acceptingProvider ["c-a-0", "c-a-1", "c-a-2"] (some placedJob) =
      .ok (groupPlan oneNodesetLookup ["c-a-0", "c-a-1", "c-a-2"] (some placedJob)) ∧
    let grouped_nodes :=
      groupedNodes oneNodesetLookup (jobGroupsPlan oneNodesetLookup ["c-a-0", "c-a-1", "c-a-2"].dedup placedJob.jobs)
    (grouped_nodes.map groupName).Nodup ∧
      (groupPlan oneNodesetLookup ["c-a-0", "c-a-1", "c-a-2"] (some placedJob)).entries =
        grouped_nodes.map fun chunk => (groupName chunk, chunk) :=
  ⟨oneNodesetLookup_prefix_colon_free, oneNodesetLookup_names_colon_free, rfl,
    @groupNodesBulk_names_distinct oneNodesetLookup ["c-a-0", "c-a-1", "c-a-2"] acceptingProvider
      oneNodesetLookup_prefix_colon_free oneNodesetLookup_names_colon_free (some placedJob)
      (groupPlan oneNodesetLookup ["c-a-0", "c-a-1", "c-a-2"] (some placedJob)) rfl⟩

end SlurmResume
