import SlurmResume.Resume

/-! Which nodes a run of `resume_nodes` quarantines, why, and which jobs it notifies. Only the
reconciliations of started operations quarantine: a run with a failed dispatch or an accelerator
chunk stops at a `yaml.safe_dump` before any of them. A run that completes quarantines exactly the
targets of the failed inserts of its started requests, other than those of an existing instance,
and notifies the jobs whose allocation meets them. -/

namespace SlurmResume
open List

def insertOperations (env : Provider) (op : Operation) : List Operation :=
  env.getInsertOperations (env.waitForOperation op).operationGroupId

def failedInsert (o : Operation) : Bool :=
  o.error.isSome && errorCodes o != ["RESOURCE_ALREADY_EXISTS"]

namespace Event

def isDispatch : Event → Bool
  | bulkInsert _ _ => true
  | _ => false

def downed : Event → List String
  | downNodesNotifyJobs nodes _ => nodes
  | _ => []

def commands (util : Util) (resume_data : Option ResumeData) : Event → List ScontrolCmd
  | downNodesNotifyJobs nodes reason => SlurmResume.downNodesNotifyJobs util nodes reason resume_data
  | _ => []

def dispatchFailed (env : Provider) : Event → List String
  | bulkInsert group request =>
    match env.bulkInsert group with
    | .error _ => request.perInstanceProperties.keys
    | .ok _ => []
  | _ => []

def insertFailed (util : Util) (env : Provider) : Event → List String
  | bulkInsert group _ =>
    match env.bulkInsert group with
    | .ok op => ((insertOperations env op).filter failedInsert).map (util.trimSelfLink ·.targetLink)
    | .error _ => []
  | _ => []

end Event

def downedNodes (events : List Event) : List String := events.flatMap Event.downed

def runCommands (util : Util) (resume_data : Option ResumeData) (events : List Event) : List ScontrolCmd :=
  events.flatMap (Event.commands util resume_data)

def dispatchFailedNodes (env : Provider) (events : List Event) : List String :=
  events.flatMap (Event.dispatchFailed env)

def insertFailedNodes (util : Util) (env : Provider) (events : List Event) : List String :=
  events.flatMap (Event.insertFailed util env)

@[simp] theorem dispatchFailedNodes_append (env : Provider) (xs ys : List Event) :
    dispatchFailedNodes env (xs ++ ys) = dispatchFailedNodes env xs ++ dispatchFailedNodes env ys :=
  flatMap_append _ _ _

@[simp] theorem insertFailedNodes_append (util : Util) (env : Provider) (xs ys : List Event) :
    insertFailedNodes util env (xs ++ ys) = insertFailedNodes util env xs ++ insertFailedNodes util env ys :=
  flatMap_append _ _ _

@[simp] theorem downedNodes_append (xs ys : List Event) :
    downedNodes (xs ++ ys) = downedNodes xs ++ downedNodes ys := flatMap_append _ _ _

theorem downedNodes_flatMap {α : Type} (l : List α) (f : α → List Event) :
    downedNodes (l.flatMap f) = l.flatMap fun x => downedNodes (f x) := flatMap_assoc _ _ _

theorem plus_mem_intercalate_go {acc : String} (h : '+' ∈ acc.data) :
    ∀ l : List String, '+' ∈ (String.intercalate.go acc "+" l).data
  | [] => h
  | a :: l => plus_mem_intercalate_go (by simp [h]) l

theorem errorCode_eq_iff (op : Operation) :
    errorCode op = "RESOURCE_ALREADY_EXISTS" ↔ errorCodes op = ["RESOURCE_ALREADY_EXISTS"] := by
  unfold errorCode
  constructor
  · intro h
    match hc : errorCodes op, h with
    | [], h => exact absurd h (by decide)
    | [c], h => exact congrArg ([·]) h
    | a :: b :: l, h =>
      have hplus := @plus_mem_intercalate_go (a ++ "+" ++ b) (by simp) l
      have h' : String.intercalate.go (a ++ "+" ++ b) "+" l = "RESOURCE_ALREADY_EXISTS" := h
      rw [h'] at hplus
      exact absurd hplus (by decide)
  · intro h
    rw [h]
    rfl

section reconcile
variable {lkp : Lookup} {util : Util} {env : Provider} {resume_data : Option ResumeData}

theorem quarantineBucket_eq (code : String) {ops : List Operation} (h : ops ≠ []) :
    ∃ o ∈ ops, quarantineBucket lkp util resume_data code ops =
      if code ≠ "RESOURCE_ALREADY_EXISTS" then
        downNodesNotifyJobsCall lkp util resume_data
          (PyDict.ofList (ops.map fun op => (util.trimSelfLink op.targetLink, op))).keys
          ("GCP Error: " ++ errorMessage o)
      else .ok [] := by
  unfold quarantineBucket
  dsimp only
  cases hent : (PyDict.ofList (ops.map fun op => (util.trimSelfLink op.targetLink, op))).entries with
  | nil =>
    obtain ⟨o, ho⟩ := exists_mem_of_ne_nil ops h
    have hkey : util.trimSelfLink o.targetLink ∈
        (PyDict.ofList (ops.map fun op => (util.trimSelfLink op.targetLink, op))).keys :=
      PyDict.mem_keys_ofList.mpr (mem_map.mpr ⟨_, mem_map_of_mem _ ho, rfl⟩)
    simp [PyDict.keys, hent] at hkey
  | cons e rest =>
    obtain ⟨o, ho, he⟩ := mem_map.mp ((PyDict.entries_ofList_subperm _).subset (hent ▸ mem_cons_self e rest))
    obtain ⟨k, o'⟩ := e
    obtain ⟨-, rfl⟩ := Prod.mk.inj he
    exact ⟨o, ho, rfl⟩

theorem mem_keys_quarantine {ops : List Operation} {n : String} :
    n ∈ (PyDict.ofList (ops.map fun op => (util.trimSelfLink op.targetLink, op))).keys ↔
      ∃ o ∈ ops, util.trimSelfLink o.targetLink = n := by
  simp [PyDict.mem_keys_ofList]

theorem eq_of_mem_reconcile {bulk_op : Operation} {e : Event}
    (h : e ∈ (reconcile lkp util env resume_data bulk_op).events) :
    e = .getInsertOperations bulk_op.operationGroupId ∨ ∃ ns reason, e = .downNodesNotifyJobs ns reason := by
  rcases Trace.mem_events_andThen h with h | h
  · exact .inl (mem_singleton.mp h)
  obtain ⟨⟨code, ops⟩, hb, h⟩ := Trace.mem_events_forEach h
  obtain ⟨o, -, hq⟩ := @quarantineBucket_eq lkp util resume_data code _ (ne_nil_of_mem_groupbyUnsorted hb)
  rw [hq] at h
  split at h
  · exact .inr ⟨_, _, mem_singleton.mp h⟩
  · cases h

theorem reconcile_raised {bulk_op : Operation} {e : PyError}
    (h : (reconcile lkp util env resume_data bulk_op).raised = some e) :
    e = .valueError ∧ ∃ ns reason, .downNodesNotifyJobs ns reason ∈ (reconcile lkp util env resume_data bulk_op).events ∧
      ∃ cmd ∈ downNodesNotifyJobs util ns reason resume_data, cmd.argv lkp.scontrol = none := by
  simp only [reconcile, Trace.ok_andThen] at h ⊢
  obtain ⟨⟨code, ops⟩, hb, hr, hev⟩ := Trace.raised_forEach h
  obtain ⟨o, -, hq⟩ := @quarantineBucket_eq lkp util resume_data code _ (ne_nil_of_mem_groupbyUnsorted hb)
  rw [hq] at hr hev
  split at hr
  · rename_i hc
    obtain ⟨rfl, hcmd⟩ := downNodesNotifyJobsCall_raised hr
    rw [if_pos hc, events_downNodesNotifyJobsCall] at hev
    exact ⟨rfl, _, _, mem_cons_of_mem _ (hev _ (mem_singleton_self _)), hcmd⟩
  · cases hr

theorem reconcile_downed {bulk_op : Operation} (h : (reconcile lkp util env resume_data bulk_op).raised = none)
    (n : String) :
    n ∈ downedNodes (reconcile lkp util env resume_data bulk_op).events ↔
      ∃ o ∈ env.getInsertOperations bulk_op.operationGroupId, failedInsert o = true ∧
        util.trimSelfLink o.targetLink = n := by
  simp only [reconcile, Trace.ok_andThen] at h ⊢
  rw [Trace.forEach_eq_ok (Trace.forEach_raised_eq_none h)]
  simp only [Trace.events_ok, downedNodes_append, downedNodes_flatMap, mem_append, mem_flatMap]
  refine (or_iff_right (by simp [downedNodes, Event.downed])).trans ?_
  constructor
  · rintro ⟨⟨code, ops⟩, hmem, hn⟩
    obtain ⟨o, -, hq⟩ := @quarantineBucket_eq lkp util resume_data code _ (ne_nil_of_mem_groupbyUnsorted hmem)
    rw [hq] at hn
    split at hn
    · rename_i hc
      simp only [events_downNodesNotifyJobsCall, downedNodes, flatMap_cons, flatMap_nil, Event.downed,
        append_nil, mem_keys_quarantine] at hn
      obtain ⟨o, ho, rfl⟩ := hn
      obtain ⟨rfl, -⟩ := mem_groupbyUnsorted hmem
      simp only [separate, mem_filter, decide_eq_true_eq] at ho
      obtain ⟨⟨ho, herr⟩, rfl⟩ := ho
      exact ⟨o, ho, by simp [failedInsert, herr, ← errorCode_eq_iff, hc], rfl⟩
    · simp [downedNodes] at hn
  · rintro ⟨o, ho, hf, rfl⟩
    simp only [failedInsert, Bool.and_eq_true, bne_iff_ne, ne_eq] at hf
    have ho' : o ∈ (separate (fun op => op.error.isSome) (env.getInsertOperations bulk_op.operationGroupId)).2 :=
      mem_filter.mpr ⟨ho, hf.1⟩
    have hmem : (errorCode o, _) ∈ groupbyUnsorted _ errorCode := mem_groupbyUnsorted_of_mem ho'
    obtain ⟨o', -, hq⟩ := @quarantineBucket_eq lkp util resume_data (errorCode o) _ (ne_nil_of_mem_groupbyUnsorted hmem)
    refine ⟨_, hmem, ?_⟩
    rw [hq, if_pos fun h => hf.2 ((errorCode_eq_iff o).mp h)]
    simp only [events_downNodesNotifyJobsCall, downedNodes, flatMap_cons, flatMap_nil, Event.downed, append_nil]
    exact mem_keys_quarantine.mpr ⟨o, mem_filter.mpr ⟨ho', by simp⟩, rfl⟩

theorem quarantineBucket_raised_eq_none {code : String} {ops : List Operation} (hne : ops ≠ [])
    (hsc : Shlex.Unquoted lkp.scontrol.data)
    (hhost : ∀ ns, (∀ n ∈ ns, Shlex.Unquoted n.data) → Shlex.Unquoted (util.toHostlistFast ns).data)
    (hops : ∀ o ∈ ops, Shlex.Unquoted (util.trimSelfLink o.targetLink).data ∧ Shlex.Unquoted (errorMessage o).data) :
    (quarantineBucket lkp util resume_data code ops).raised = none := by
  obtain ⟨o, ho, hq⟩ := @quarantineBucket_eq lkp util resume_data code _ hne
  rw [hq]
  split
  · refine downNodesNotifyJobsCall_raised_eq_none (argv_isSome_of_unquoted hsc (hhost _ fun n hn => ?_) ?_)
    · obtain ⟨o', ho', rfl⟩ := mem_keys_quarantine.mp hn
      exact (hops o' ho').1
    · rw [String.data_append, Shlex.unquoted_append]
      exact ⟨by decide, (hops o ho).2⟩
  · rfl

theorem reconcile_raised_eq_none {bulk_op : Operation} (hsc : Shlex.Unquoted lkp.scontrol.data)
    (hhost : ∀ ns, (∀ n ∈ ns, Shlex.Unquoted n.data) → Shlex.Unquoted (util.toHostlistFast ns).data)
    (hops : ∀ o ∈ env.getInsertOperations bulk_op.operationGroupId,
      Shlex.Unquoted (util.trimSelfLink o.targetLink).data ∧ Shlex.Unquoted (errorMessage o).data) :
    (reconcile lkp util env resume_data bulk_op).raised = none := by
  cases h : (reconcile lkp util env resume_data bulk_op).raised with
  | none => rfl
  | some e =>
    simp only [reconcile, Trace.ok_andThen] at h
    obtain ⟨⟨code, ops⟩, hb, hr, -⟩ := Trace.raised_forEach h
    rw [quarantineBucket_raised_eq_none (ne_nil_of_mem_groupbyUnsorted hb) hsc hhost fun o ho =>
      hops o (mem_filter.mp (mem_of_mem_groupbyUnsorted hb ho).1).1] at hr
    cases hr

end reconcile

section execute
variable {lkp : Lookup} {util : Util} {env : Provider} {grouped_nodes : PyDict String BulkChunk}
  {resume_data : Option ResumeData} {routed : Routing}

theorem isDispatch_of_mem_reconcile {bulk_op : Operation} {e : Event}
    (h : e ∈ (reconcile lkp util env resume_data bulk_op).events) : e.isDispatch = false := by
  rcases eq_of_mem_reconcile h with rfl | ⟨_, _, rfl⟩ <;> rfl

theorem mem_dispatches_of_isDispatch {e : Event}
    (he : e ∈ (executeInserts lkp util env grouped_nodes resume_data routed).events) (hd : e.isDispatch = true) :
    e ∈ routed.biInserts.entries.map fun r => Event.bulkInsert r.1 r.2 := by
  obtain ⟨waits, rec, hev, hw, hrec⟩ := executeInserts_events lkp util env grouped_nodes resume_data routed
  rw [hev] at he
  rcases mem_append.mp he with he | he
  · rcases mem_append.mp he with he | he
    · exact he
    · obtain ⟨_, _, rfl⟩ := mem_map.mp (hw.subset he)
      cases hd
  · obtain ⟨_, _, he⟩ := hrec e he
    rw [isDispatch_of_mem_reconcile he] at hd
    cases hd

theorem mem_dispatchFailedNodes_dispatches (l : List (String × BulkInsertRequest)) (n : String) :
    n ∈ dispatchFailedNodes env (l.map fun r => .bulkInsert r.1 r.2) ↔
      ∃ x ∈ l, (∃ exc, env.bulkInsert x.1 = .error exc) ∧ n ∈ x.2.perInstanceProperties.keys := by
  simp only [dispatchFailedNodes, flatMap_map, mem_flatMap, Event.dispatchFailed]
  refine exists_congr fun x => and_congr_right fun _ => ?_
  cases env.bulkInsert x.1 <;> simp

theorem mem_insertFailedNodes_dispatches (l : List (String × BulkInsertRequest)) (n : String) :
    n ∈ insertFailedNodes util env (l.map fun r => .bulkInsert r.1 r.2) ↔
      ∃ x ∈ l, ∃ op, env.bulkInsert x.1 = .ok op ∧
        ∃ o ∈ insertOperations env op, failedInsert o = true ∧ util.trimSelfLink o.targetLink = n := by
  simp only [insertFailedNodes, flatMap_map, mem_flatMap, Event.insertFailed]
  refine exists_congr fun x => and_congr_right fun _ => ?_
  cases env.bulkInsert x.1 <;> simp [and_assoc]

theorem insertFailedNodes_eq_nil {evs : List Event} (h : ∀ e ∈ evs, e.isDispatch = false) :
    insertFailedNodes util env evs = [] :=
  flatMap_eq_nil_iff.mpr fun e he => by
    cases e with
    | bulkInsert => cases h _ he
    | _ => rfl

theorem dispatchFailedNodes_eq_nil {evs : List Event} (h : ∀ e ∈ evs, e.isDispatch = false) :
    dispatchFailedNodes env evs = [] :=
  flatMap_eq_nil_iff.mpr fun e he => by
    cases e with
    | bulkInsert => cases h _ he
    | _ => rfl

theorem executeInserts_quarantine_of_completed
    (h : (executeInserts lkp util env grouped_nodes resume_data routed).raised = none) :
    dispatchFailedNodes env (executeInserts lkp util env grouped_nodes resume_data routed).events = [] ∧
    ∀ n, n ∈ downedNodes (executeInserts lkp util env grouped_nodes resume_data routed).events ↔
      n ∈ insertFailedNodes util env (executeInserts lkp util env grouped_nodes resume_data routed).events := by
  have hf : failedOps env routed = [] := by
    by_contra hf
    rw [executeInserts_of_failed hf] at h
    cases h
  have ht : routed.tpuStartData = [] := by
    by_contra ht
    rw [executeInserts_of_tpuStartData hf ht] at h
    cases h
  rw [executeInserts_of_dispatched hf ht, Trace.ok_andThen] at h ⊢
  have hrec := Trace.forEach_raised_eq_none h
  rw [Trace.forEach_eq_ok hrec]
  have hwait : ∀ e ∈ (startedOps env routed).map (fun s => Event.waitForOperation s.1), e.isDispatch = false :=
    fun e he => by obtain ⟨_, _, rfl⟩ := mem_map.mp he; rfl
  have hwd : downedNodes ((startedOps env routed).map fun s => Event.waitForOperation s.1) = [] :=
    flatMap_eq_nil_iff.mpr fun e he => by obtain ⟨_, _, rfl⟩ := mem_map.mp he; rfl
  have hnd : ∀ e ∈ ((startedOps env routed).map fun s => (s.1, env.waitForOperation s.2)).flatMap
      (fun b => (reconcile lkp util env resume_data b.2).events), e.isDispatch = false := fun e he =>
    let ⟨_, _, he⟩ := mem_flatMap.mp he; isDispatch_of_mem_reconcile he
  simp only [Trace.events_ok, dispatchFailedNodes_append, insertFailedNodes_append, downedNodes_append,
    dispatchFailedNodes_eq_nil hwait, dispatchFailedNodes_eq_nil hnd, insertFailedNodes_eq_nil hwait,
    insertFailedNodes_eq_nil hnd, hwd, append_nil, nil_append, downedNodes_flatMap]
  refine ⟨eq_nil_iff_forall_not_mem.mpr fun n hn => ?_, fun n => ?_⟩
  · obtain ⟨x, hx, ⟨exc, herr⟩, -⟩ := (mem_dispatchFailedNodes_dispatches _ n).mp hn
    have : (x.1, exc) ∈ failedOps env routed := mem_failedOps.mpr ⟨x.2, hx, herr⟩
    rw [hf] at this
    cases this
  · have hd : downedNodes (routed.biInserts.entries.map fun r => Event.bulkInsert r.1 r.2) = [] :=
      flatMap_eq_nil_iff.mpr fun e he => by obtain ⟨_, _, rfl⟩ := mem_map.mp he; rfl
    rw [hd, nil_append, mem_flatMap, mem_insertFailedNodes_dispatches]
    constructor
    · rintro ⟨b, hb, hn⟩
      obtain ⟨s, hs, rfl⟩ := mem_map.mp hb
      obtain ⟨req, hreq, hok⟩ := mem_startedOps.mp hs
      exact ⟨_, hreq, s.2, hok, (reconcile_downed (hrec _ hb) n).mp hn⟩
    · rintro ⟨⟨g, req⟩, hreq, op, hok, ho⟩
      have hs : (g, op) ∈ startedOps env routed := mem_startedOps.mpr ⟨req, hreq, hok⟩
      have hb := mem_map_of_mem (fun s => (s.1, env.waitForOperation s.2)) hs
      exact ⟨_, hb, (reconcile_downed (hrec _ hb) n).mpr ho⟩

end execute

section run
variable {lkp : Lookup} {util : Util} {env : Provider}

theorem jobCommand_mem_runCommands {rd : ResumeData} {i : Nat} (mk : Nat → String → ScontrolCmd)
    (hmk : ∀ nodes reason rq, mk i rq ∈ downNodesNotifyJobs util nodes reason (some rd) ↔
      rq = Shlex.quote reason ∧ ∃ job ∈ rd.jobs, job.jobId = i ∧ allocMeets job nodes = true)
    (events : List Event) :
    (∃ rq, mk i rq ∈ runCommands util (some rd) events) ↔
      ∃ job ∈ rd.jobs, job.jobId = i ∧ ∃ n ∈ job.nodesAlloc, n ∈ downedNodes events := by
  simp only [runCommands, downedNodes, mem_flatMap]
  constructor
  · rintro ⟨rq, e, he, hc⟩
    cases e with
    | downNodesNotifyJobs nodes reason =>
      obtain ⟨-, job, hj, hid, hm⟩ := (hmk nodes reason rq).mp hc
      obtain ⟨n, hn, hnodes⟩ := allocMeets_iff.mp hm
      exact ⟨job, hj, hid, n, hn, _, he, hnodes⟩
    | _ => simp [Event.commands] at hc
  · rintro ⟨job, hj, hid, n, hn, e, he, hd⟩
    cases e with
    | downNodesNotifyJobs nodes reason =>
      exact ⟨_, _, he, (hmk nodes reason _).mpr ⟨rfl, job, hj, hid, allocMeets_iff.mpr ⟨n, hn, hd⟩⟩⟩
    | _ => simp [Event.downed] at hd

def quotaError : OperationError := ⟨[⟨"QUOTA_EXCEEDED", none⟩], by simp⟩

def quotaInsertProvider : Provider :=
  { acceptingProvider with
    bulkInsert := fun group => .ok ⟨"op", group, "", none⟩
    getInsertOperations := fun gid =>
      if gid = "c-b:job2:0" then [⟨"insert", gid, "zones/z/instances/c-b-0", some quotaError⟩] else [] }

example :
    downedNodes (resumeNodes tpuLookup hostUtil quotaInsertProvider ["c-a-0", "c-b-0"] (some threeJobs)).events =
        ["c-b-0"] ∧
      runCommands hostUtil (some threeJobs)
          (resumeNodes tpuLookup hostUtil quotaInsertProvider ["c-a-0", "c-b-0"] (some threeJobs)).events =
        [.updateNodes "c-b-0" (Shlex.quote "GCP Error: QUOTA_EXCEEDED: no message"),
          .updateJob 2 (Shlex.quote "GCP Error: QUOTA_EXCEEDED: no message"),
          .notify 2 (Shlex.quote "GCP Error: QUOTA_EXCEEDED: no message")] :=
  ⟨rfl, rfl⟩

def partialQuotaProvider : Provider :=
  { acceptingProvider with
    bulkInsert := fun group =>
      if group = "c-a:job1:0" then .error (.httpError "quotaExceeded" []) else .ok ⟨"op", "g", "", none⟩
    getInsertOperations := fun _ => [⟨"insert", "g", "zones/z/instances/c-b-0", some quotaError⟩] }

end run

/-! ### The reason a quarantine gives -/

def DispatchFailureReason (env : Provider) (x : String × BulkInsertRequest) (ns : List String)
    (reason : String) : Prop :=
  ∃ r details, env.bulkInsert x.1 = .error (.httpError r details) ∧
    (∀ n, n ∈ ns ↔ n ∈ x.2.perInstanceProperties.keys) ∧ reason = "GCP Error: " ++ r

def InsertFailureReason (util : Util) (inserts : List Operation) (ns : List String) (reason : String) :
    Prop :=
  ∃ o ∈ inserts, failedInsert o = true ∧ reason = "GCP Error: " ++ errorMessage o ∧
    ∀ n ∈ ns, ∃ o' ∈ inserts, failedInsert o' = true ∧ errorCode o' = errorCode o ∧
      util.trimSelfLink o'.targetLink = n

section reasons
variable {lkp : Lookup} {util : Util} {env : Provider} {resume_data : Option ResumeData}
  {ns : List String} {reason : String}

theorem mem_failure_bucket {inserts : List Operation} {code : String} {o : Operation}
    (hc : code ≠ "RESOURCE_ALREADY_EXISTS")
    (ho : o ∈ ((separate (fun op => op.error.isSome) inserts).2).filter (errorCode · = code)) :
    o ∈ inserts ∧ failedInsert o = true ∧ errorCode o = code := by
  simp only [separate, mem_filter, decide_eq_true_eq] at ho
  obtain ⟨⟨ho, herr⟩, rfl⟩ := ho
  exact ⟨ho, by simp [failedInsert, herr, ← errorCode_eq_iff, hc], rfl⟩

theorem reconcile_reason {bulk_op : Operation}
    (h : Event.downNodesNotifyJobs ns reason ∈ (reconcile lkp util env resume_data bulk_op).events) :
    InsertFailureReason util (env.getInsertOperations bulk_op.operationGroupId) ns reason := by
  rcases Trace.mem_events_andThen h with h | h
  · simp at h
  obtain ⟨⟨code, ops⟩, hb, h⟩ := Trace.mem_events_forEach h
  obtain ⟨o, ho, hq⟩ := @quarantineBucket_eq lkp util resume_data code _ (ne_nil_of_mem_groupbyUnsorted hb)
  rw [hq] at h
  split at h
  · rename_i hc
    simp only [events_downNodesNotifyJobsCall, mem_singleton, Event.downNodesNotifyJobs.injEq] at h
    obtain ⟨rfl, rfl⟩ := h
    obtain ⟨rfl, -⟩ := mem_groupbyUnsorted hb
    obtain ⟨hmem, hf, rfl⟩ := mem_failure_bucket hc ho
    refine ⟨o, hmem, hf, rfl, fun n hn => ?_⟩
    obtain ⟨o', ho', rfl⟩ := mem_keys_quarantine.mp hn
    obtain ⟨ho', hf', hcode⟩ := mem_failure_bucket hc ho'
    exact ⟨o', ho', hf', hcode, rfl⟩
  · cases h

end reasons

end SlurmResume
