import SlurmResume.Placement

/-! The grouping engine `group_nodes_bulk`: a group per job record and two jobless groups
(`"Normal_None"` and `"TPU_None"`), each placement group restricted to the nodes resumed now and
cut by node prefix and by bulk-insert size (5000, or the pod size for accelerator nodes) into
chunks named by `group_name`; and the dict it returns whenever it returns, which no answer of
the provider changes. -/

namespace SlurmResume
open List

structure BulkChunk where
  nodes : List String
  /-- The node prefix shared by the chunk's nodes, `prefix` in the source. -/
  pfx : String
  chunkIdx : Nat
  jobId : Option Nat
  partition : Option String
  placementGroup : Option String
deriving DecidableEq

structure JobGroup where
  jobId : Option Nat
  partition : Option String
  placementGroups : PgMap

inductive JobGroupKey
  | job (jobId : Nat)
  | normalNone
  | tpuNone
deriving DecidableEq

def restrictToResumed (nodes_resume : List String) (pgs : PgMap) : PgMap :=
  pgs.mapValues fun _ pg_nodes => sorted (pg_nodes.dedup.filter (· ∈ nodes_resume))

def jobPlacementGroups (lkp : Lookup) (env : Provider) (nodes : List String) (job : ResumeJobData) :
    Except PyError PgMap :=
  let nodes_resume := nodes.filter (· ∈ job.nodesAlloc)
  if lkp.partitionIsTpu job.partition then pure (noPg (sorted nodes_resume))
  else restrictToResumed nodes_resume <$> createPlacementGroups lkp env job.nodesAlloc job.jobId

def allJoblessNodes (nodes : List String) (jobs : List ResumeJobData) : List String :=
  nodes.filter fun n => jobs.all fun job => n ∉ job.nodesAlloc

def chunkNodes (lkp : Lookup) (nodes : List String) : List (List String) :=
  chunked nodes <| match nodes with
    | node :: _ =>
      match lkp.nodeTpu node with
      | some tpu => tpu.vmcount
      | none => BULK_INSERT_LIMIT
    | [] => BULK_INSERT_LIMIT

def jobChunks (lkp : Lookup) (job : JobGroup) : List BulkChunk :=
  job.placementGroups.entries.flatMap fun pg =>
    (groupbyUnsorted pg.2 lkp.nodePrefix).flatMap fun g =>
      (chunkNodes lkp g.2).enum.map fun c =>
        { nodes := c.2, pfx := g.1, chunkIdx := c.1, jobId := job.jobId,
          partition := job.partition, placementGroup := pg.1 }

def jobIdStr : Option Nat → String
  | some jobId => toString jobId
  | none => "None"

def groupName (chunk : BulkChunk) : String :=
  match chunk.placementGroup, chunk.jobId with
  | some pg, _ =>
    chunk.pfx ++ ":job" ++ jobIdStr chunk.jobId ++ ":" ++ pg ++ ":" ++ toString chunk.chunkIdx
  | none, some jobId => chunk.pfx ++ ":job" ++ toString jobId ++ ":" ++ toString chunk.chunkIdx
  | none, none => chunk.pfx ++ ":" ++ toString chunk.chunkIdx

def bulkChunks (lkp : Lookup) (job_groups : PyDict JobGroupKey JobGroup) : PyDict String BulkChunk :=
  PyDict.ofList ((job_groups.values.flatMap (jobChunks lkp)).map fun chunk => (groupName chunk, chunk))

def groupNodesBulk (lkp : Lookup) (env : Provider) (nodes : List String)
    (resume_data : Option ResumeData) : Except PyError (PyDict String BulkChunk) := do
  let jobs := (resume_data.getD ⟨[]⟩).jobs
  let nodes := nodes.dedup
  let job_groups ← jobs.foldlM (fun job_groups job => do
      let pgs ← jobPlacementGroups lkp env nodes job
      pure (job_groups.set (.job job.jobId) ⟨some job.jobId, some job.partition, pgs⟩))
    PyDict.empty
  let jobless := separate lkp.nodeIsTpu (allJoblessNodes nodes jobs)
  let normal ← createPlacementGroups lkp env (sorted jobless.1) 0
  let job_groups := (job_groups.set .normalNone ⟨none, none, normal⟩).set .tpuNone
    ⟨none, none, noPg (sorted jobless.2)⟩
  pure (bulkChunks lkp job_groups)

def jobPlacementPlan (lkp : Lookup) (nodes : List String) (job : ResumeJobData) : PgMap :=
  let nodes_resume := nodes.filter (· ∈ job.nodesAlloc)
  if lkp.partitionIsTpu job.partition then noPg (sorted nodes_resume)
  else restrictToResumed nodes_resume (placementPlan lkp job.nodesAlloc job.jobId)

def jobGroupsPlan (lkp : Lookup) (nodes : List String) (jobs : List ResumeJobData) :
    PyDict JobGroupKey JobGroup :=
  let jobless := separate lkp.nodeIsTpu (allJoblessNodes nodes jobs)
  ((PyDict.ofList (jobs.map fun job =>
      (.job job.jobId, ⟨some job.jobId, some job.partition, jobPlacementPlan lkp nodes job⟩))).set
    .normalNone ⟨none, none, placementPlan lkp (sorted jobless.1) 0⟩).set .tpuNone
    ⟨none, none, noPg (sorted jobless.2)⟩

def groupPlan (lkp : Lookup) (nodes : List String) (resume_data : Option ResumeData) :
    PyDict String BulkChunk :=
  bulkChunks lkp (jobGroupsPlan lkp nodes.dedup (resume_data.getD ⟨[]⟩).jobs)

variable {lkp : Lookup} {env : Provider}

theorem jobPlacementGroups_ok_eq {nodes : List String} {job : ResumeJobData} {pgs : PgMap}
    (h : jobPlacementGroups lkp env nodes job = .ok pgs) : pgs = jobPlacementPlan lkp nodes job := by
  unfold jobPlacementGroups at h
  unfold jobPlacementPlan
  split at h
  · cases h; simp only [if_pos ‹_›]
  · rw [if_neg ‹_›]
    cases hc : createPlacementGroups lkp env job.nodesAlloc job.jobId with
    | error e => simp [hc] at h
    | ok g =>
      simp only [hc] at h
      cases h
      rw [createPlacementGroups_ok_eq hc]

theorem jobPlacementGroups_of_accepted (nodes : List String) (job : ResumeJobData)
    (h : ∀ req, PlacementAccepted (env.placementInsert req)) :
    jobPlacementGroups lkp env nodes job = .ok (jobPlacementPlan lkp nodes job) := by
  unfold jobPlacementGroups jobPlacementPlan
  split
  · rfl
  · rw [createPlacementGroups_of_accepted _ _ h]; rfl

theorem groupNodesBulk_ok_eq {nodes : List String} {resume_data : Option ResumeData}
    {d : PyDict String BulkChunk} (h : groupNodesBulk lkp env nodes resume_data = .ok d) :
    d = groupPlan lkp nodes resume_data := by
  unfold groupNodesBulk at h
  rw [except_bind_eq_ok] at h
  obtain ⟨jg, hjg, h⟩ := h
  rw [except_bind_eq_ok] at h
  obtain ⟨normal, hn, h⟩ := h
  cases h
  rw [createPlacementGroups_ok_eq hn]
  have hjg := foldlM_except_ok_eq (g := fun job_groups (job : ResumeJobData) =>
    job_groups.set (.job job.jobId)
      (⟨some job.jobId, some job.partition, jobPlacementPlan lkp nodes.dedup job⟩ : JobGroup))
    (fun b job r hr => by
      obtain ⟨pgs, hp, hr⟩ := except_bind_eq_ok.mp hr
      cases hr
      rw [jobPlacementGroups_ok_eq hp]) _ _ _ hjg
  subst hjg
  simp only [groupPlan, jobGroupsPlan, PyDict.ofList, foldl_map]

theorem groupNodesBulk_of_accepted (nodes : List String) (resume_data : Option ResumeData)
    (h : ∀ req, PlacementAccepted (env.placementInsert req)) :
    groupNodesBulk lkp env nodes resume_data = .ok (groupPlan lkp nodes resume_data) := by
  unfold groupNodesBulk
  dsimp only
  rw [foldlM_except_eq_ok (g := fun job_groups (job : ResumeJobData) =>
    job_groups.set (.job job.jobId)
      (⟨some job.jobId, some job.partition, jobPlacementPlan lkp nodes.dedup job⟩ : JobGroup))
    (fun b job _ => by rw [jobPlacementGroups_of_accepted _ _ h]; rfl)]
  simp only [createPlacementGroups_of_accepted _ _ h, groupPlan, jobGroupsPlan, PyDict.ofList,
    foldl_map]
  rfl

theorem jobPlacementGroups_error {nodes : List String} {job : ResumeJobData} {e : PyError}
    (h : jobPlacementGroups lkp env nodes job = .error e) : e ∈ placementErrors := by
  unfold jobPlacementGroups at h
  split at h
  · cases h
  · exact createPlacementGroups_error (except_map_eq_error.mp h)

theorem groupNodesBulk_error {nodes : List String} {resume_data : Option ResumeData} {e : PyError}
    (h : groupNodesBulk lkp env nodes resume_data = .error e) : e ∈ placementErrors := by
  unfold groupNodesBulk at h
  rcases except_bind_eq_error.mp h with h | ⟨_, -, h⟩
  · obtain ⟨_, -, _, hb⟩ := foldlM_except_error h
    rcases except_bind_eq_error.mp hb with hb | ⟨_, -, hb⟩
    · exact jobPlacementGroups_error hb
    · cases hb
  · rcases except_bind_eq_error.mp h with h | ⟨_, -, h⟩
    · exact createPlacementGroups_error h
    · cases h

theorem sorted_perm (l : List String) : sorted l ~ l := perm_insertionSort _ l

theorem restricted_subperm (nodes_resume pg_nodes : List String) :
    sorted (pg_nodes.dedup.filter (· ∈ nodes_resume)) <+~ pg_nodes.filter (· ∈ nodes_resume) :=
  (sorted_perm _).subperm.trans ((dedup_sublist pg_nodes).filter _).subperm

theorem mem_restrictToResumed {nodes_resume : List String} {pgs : PgMap} {pg : Option String}
    {nodes : List String} (h : (pg, nodes) ∈ (restrictToResumed nodes_resume pgs).entries) :
    ∃ pg_nodes, (pg, pg_nodes) ∈ pgs.entries ∧
      nodes = sorted (pg_nodes.dedup.filter (· ∈ nodes_resume)) := by
  obtain ⟨⟨k, v⟩, hm, he⟩ := mem_map.mp h
  cases he
  exact ⟨v, hm, rfl⟩

theorem mem_jobChunks {g : JobGroup} {c : BulkChunk} (h : c ∈ jobChunks lkp g) :
    ∃ pg_nodes, (c.placementGroup, pg_nodes) ∈ g.placementGroups.entries ∧
      c.jobId = g.jobId ∧ c.partition = g.partition ∧
      ∃ nodes, (c.pfx, nodes) ∈ groupbyUnsorted pg_nodes lkp.nodePrefix ∧
        c.nodes ∈ chunkNodes lkp nodes := by
  simp only [jobChunks, mem_flatMap, mem_map] at h
  obtain ⟨⟨pg, pg_nodes⟩, hpg, ⟨k, nodes⟩, hg, ⟨i, cn⟩, hc, rfl⟩ := h
  exact ⟨pg_nodes, hpg, rfl, rfl, nodes, hg, snd_mem_of_mem_enum hc⟩

theorem flatMap_jobChunks_subperm (g : JobGroup) :
    (jobChunks lkp g).flatMap BulkChunk.nodes <+~ g.placementGroups.entries.flatMap Prod.snd := by
  rw [jobChunks, flatMap_assoc]
  refine subperm_flatMap_congr fun pg _ => ?_
  rw [flatMap_assoc]
  refine (subperm_flatMap_congr fun grp _ => ?_).trans flatMap_groupbyUnsorted_subperm
  rw [flatMap_map]
  exact ((flatMap_snd_enum _).symm ▸ flatten_chunked_sublist _ _).subperm

theorem values_jobGroupsPlan_subperm (nodes : List String) (jobs : List ResumeJobData) :
    (jobGroupsPlan lkp nodes jobs).values <+~
      ⟨none, none, noPg (sorted (separate lkp.nodeIsTpu (allJoblessNodes nodes jobs)).2)⟩ ::
      ⟨none, none, placementPlan lkp (sorted (separate lkp.nodeIsTpu
        (allJoblessNodes nodes jobs)).1) 0⟩ ::
      jobs.map fun job => ⟨some job.jobId, some job.partition, jobPlacementPlan lkp nodes job⟩ := by
  simp only [jobGroupsPlan, PyDict.values]
  refine (Subperm.map_of Prod.snd ((PyDict.entries_set_subperm _ _ _).trans
    ((subperm_cons _).mpr ((PyDict.entries_set_subperm _ _ _).trans
      ((subperm_cons _).mpr (PyDict.entries_ofList_subperm _)))))).trans ?_
  simp only [map_cons, map_map, Function.comp_def]
  exact Subperm.refl _

theorem mem_jobGroupsPlan {nodes : List String} {jobs : List ResumeJobData} {g : JobGroup}
    (h : g ∈ (jobGroupsPlan lkp nodes jobs).values) :
    g = ⟨none, none, noPg (sorted (separate lkp.nodeIsTpu (allJoblessNodes nodes jobs)).2)⟩ ∨
    g = ⟨none, none, placementPlan lkp (sorted (separate lkp.nodeIsTpu
      (allJoblessNodes nodes jobs)).1) 0⟩ ∨
    ∃ job ∈ jobs, g = ⟨some job.jobId, some job.partition, jobPlacementPlan lkp nodes job⟩ := by
  simpa [eq_comm] using (values_jobGroupsPlan_subperm nodes jobs).subset h

theorem mem_bulkChunks {job_groups : PyDict JobGroupKey JobGroup} {c : BulkChunk}
    (h : c ∈ (bulkChunks lkp job_groups).values) : ∃ g ∈ job_groups.values, c ∈ jobChunks lkp g := by
  have hm := (PyDict.values_ofList_subperm _).subset h
  rw [map_map] at hm
  simpa using hm

theorem flatMap_bulkChunks_subperm (job_groups : PyDict JobGroupKey JobGroup) :
    (bulkChunks lkp job_groups).values.flatMap BulkChunk.nodes <+~
      job_groups.values.flatMap fun g => g.placementGroups.entries.flatMap Prod.snd := by
  refine (Subperm.flatMap_of _ (PyDict.values_ofList_subperm _)).trans ?_
  rw [map_map, flatMap_map, flatMap_assoc]
  exact subperm_flatMap_congr fun g _ => flatMap_jobChunks_subperm g

theorem restrictToResumed_congr {R S : List String} (h : ∀ x, x ∈ R ↔ x ∈ S) :
    restrictToResumed R = restrictToResumed S := by
  funext pgs
  simp only [restrictToResumed, h]

theorem jobPlacementGroups_congr {A B : List String} (h : ∀ n, n ∈ A ↔ n ∈ B) (hperm : A ~ B)
    (job : ResumeJobData) : jobPlacementGroups lkp env A job = jobPlacementGroups lkp env B job := by
  have hres : ∀ x, x ∈ A.filter (· ∈ job.nodesAlloc) ↔ x ∈ B.filter (· ∈ job.nodesAlloc) := by
    simp [h]
  simp only [jobPlacementGroups, restrictToResumed_congr hres, sorted_eq_of_perm (hperm.filter _)]

theorem groupNodesBulk_congr {A B : List String} (h : ∀ n, n ∈ A ↔ n ∈ B) (resume_data : Option ResumeData) :
    groupNodesBulk lkp env A resume_data = groupNodesBulk lkp env B resume_data := by
  have hperm : A.dedup ~ B.dedup :=
    (perm_ext_iff_of_nodup (nodup_dedup A) (nodup_dedup B)).mpr fun n => by simp [h]
  have hjob := @jobPlacementGroups_congr lkp env _ _ (fun n => by simp [h]) hperm
  have hless : ∀ p : String → Bool, sorted ((allJoblessNodes A.dedup (resume_data.getD ⟨[]⟩).jobs).filter p) =
      sorted ((allJoblessNodes B.dedup (resume_data.getD ⟨[]⟩).jobs).filter p) :=
    fun p => sorted_eq_of_perm ((hperm.filter _).filter p)
  simp only [groupNodesBulk, hjob, separate, hless]

end SlurmResume
