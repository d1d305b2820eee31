import SlurmResume.Grouping
import SlurmResume.Request
import SlurmResume.Notify

/-! The provisioning executor `resume_nodes`: each chunk routed to the accelerator path or to a
bulk insert, the dispatch of every bulk insert, the quarantine of the failed dispatches, the
waits, the accelerator starts, and the reconciliation of each finished bulk operation with its
per-instance insert operations. A run is the list of calls it makes to its collaborators and
the exception that ended it, if any; the calls made before an exception stay made.

Two `log.debug` lines build their f-strings whatever the log level, and each calls
`yaml.safe_dump`: of `bulk_ops` after the dispatches, and of `tpu_start_data` after the waits.
The dump raises `RepresenterError` on a value holding an object it has no representer for, a
captured exception or a `util.TPU`, and only its text reaches the log. `util.run` splits each
quarantine command with `shlex.split`, which raises `ValueError` on an open quote. -/

namespace SlurmResume
open List

inductive TpuAction
  | createNode (nodes : List String)
  | startNode (node : String)
  | leaveNode (node : String)

inductive Event
  | bulkInsert (group : String) (request : BulkInsertRequest)
  | downNodesNotifyJobs (nodes : List String) (reason : String)
  | waitForOperation (group : String)
  | startTpu (tpu : String) (node : List String) (action : TpuAction)
  | getInsertOperations (group_id : String)

structure Trace where
  events : List Event
  raised : Option PyError

namespace Trace

def ok (events : List Event) : Trace := ⟨events, none⟩

def raise (e : PyError) : Trace := ⟨[], some e⟩

def andThen (t₁ t₂ : Trace) : Trace :=
  match t₁.raised with
  | some _ => t₁
  | none => ⟨t₁.events ++ t₂.events, t₂.raised⟩

def forEach {α : Type} (f : α → Trace) : List α → Trace
  | [] => ok []
  | x :: xs => (f x).andThen (forEach f xs)

@[simp] theorem events_ok (evs : List Event) : (ok evs).events = evs := rfl

@[simp] theorem raised_ok (evs : List Event) : (ok evs).raised = none := rfl

@[simp] theorem ok_andThen (evs : List Event) (t : Trace) :
    (ok evs).andThen t = ⟨evs ++ t.events, t.raised⟩ := rfl

@[simp] theorem raise_andThen (e : PyError) (t : Trace) : (raise e).andThen t = raise e := rfl

@[simp] theorem forEach_nil {α : Type} (f : α → Trace) : forEach f [] = ok [] := rfl

theorem mem_events_andThen {t₁ t₂ : Trace} {e : Event} (h : e ∈ (t₁.andThen t₂).events) :
    e ∈ t₁.events ∨ e ∈ t₂.events := by
  unfold andThen at h
  split at h
  · exact Or.inl h
  · exact mem_append.mp h

theorem mem_events_forEach {α : Type} {f : α → Trace} {e : Event} :
    ∀ {xs : List α}, e ∈ (forEach f xs).events → ∃ x ∈ xs, e ∈ (f x).events
  | [], h => by simp [ok] at h
  | x :: xs, h => (mem_events_andThen h).elim (fun h => ⟨x, mem_cons_self x xs, h⟩)
      fun h => let ⟨y, hy, he⟩ := mem_events_forEach h; ⟨y, mem_cons_of_mem x hy, he⟩

theorem raised_andThen {t₁ t₂ : Trace} {e : PyError} (h : (t₁.andThen t₂).raised = some e) :
    t₁.raised = some e ∨ t₂.raised = some e := by
  unfold andThen at h
  split at h
  · exact .inl h
  · exact .inr h

theorem raised_forEach {α : Type} {f : α → Trace} {e : PyError} :
    ∀ {xs : List α}, (forEach f xs).raised = some e →
      ∃ x ∈ xs, (f x).raised = some e ∧ ∀ ev ∈ (f x).events, ev ∈ (forEach f xs).events
  | [], h => nomatch h
  | x :: xs, h => by
    simp only [forEach, andThen] at h ⊢
    split at h
    · rename_i hx
      exact ⟨x, mem_cons_self x xs, h, fun _ hev => hev⟩
    · rename_i hx
      obtain ⟨y, hy, hr, hev⟩ := raised_forEach h
      exact ⟨y, mem_cons_of_mem x hy, hr, fun ev he => mem_append_right _ (hev ev he)⟩

theorem raised_andThen_eq_none {t₁ t₂ : Trace} (h : (t₁.andThen t₂).raised = none) :
    t₁.raised = none ∧ t₂.raised = none := by
  cases h₁ : t₁.raised with
  | some e => simp [andThen, h₁] at h
  | none => simp only [andThen, h₁] at h; exact ⟨rfl, h⟩

theorem forEach_raised_eq_none {α : Type} {f : α → Trace} :
    ∀ {xs : List α}, (forEach f xs).raised = none → ∀ x ∈ xs, (f x).raised = none
  | [], _, _, h => nomatch h
  | x :: xs, h, y, hy => by
    obtain ⟨h₁, h₂⟩ := raised_andThen_eq_none h
    rcases mem_cons.mp hy with rfl | hy
    · exact h₁
    · exact forEach_raised_eq_none h₂ y hy

theorem forEach_eq_ok {α : Type} {f : α → Trace} :
    ∀ {xs : List α}, (∀ x ∈ xs, (f x).raised = none) → forEach f xs = ok (xs.flatMap fun x => (f x).events)
  | [], _ => rfl
  | x :: xs, h => by
    rw [forEach, forEach_eq_ok fun y hy => h y (mem_cons_of_mem x hy), andThen,
      h x (mem_cons_self x xs)]
    rfl

end Trace

def startTpu (lkp : Lookup) (env : Provider) (tpu : String) (node : List String) : TpuAction :=
  match node with
  | [node] =>
    if env.tpuNodeExists node then
      if ((lkp.nodesetTpu tpu).map (·.preserveTpu)).getD false then .startNode node
      else .leaveNode node
    else .createNode [node]
  | node => .createNode node

structure Routing where
  tpuStartData : List (String × List String)
  tpuObjs : PyDict String String
  biInserts : PyDict String BulkInsertRequest

def isTpuChunk (lkp : Lookup) (chunk : BulkChunk) : Bool :=
  match chunk.partition with
  | some part => !part.isEmpty && lkp.partitionIsTpu part
  | none => false

def addTpuObject (lkp : Lookup) (tpuObjs : PyDict String String) (chunk : BulkChunk) :
    Except PyError (PyDict String String) :=
  if chunk.pfx ∈ tpuObjs.keys then pure tpuObjs else
  match chunk.nodes with
  | [] => throw .indexError
  | model :: _ => pure (tpuObjs.set chunk.pfx (lkp.nodeNodesetName model))

def routeChunk (lkp : Lookup) (acc : Routing) : String × BulkChunk → Except PyError Routing
  | (group, chunk) =>
    if isTpuChunk lkp chunk then do
      let tpuObjs ← addTpuObject lkp acc.tpuObjs chunk
      match tpuObjs.get? chunk.pfx with
      | none => throw .keyError
      | some tpu => pure { acc with tpuStartData := acc.tpuStartData ++ [(tpu, chunk.nodes)], tpuObjs }
    else do
      let request ← createInstancesRequest lkp chunk.nodes chunk.partition chunk.placementGroup
        chunk.jobId
      pure { acc with biInserts := acc.biInserts.set group request }

def routeChunks (lkp : Lookup) (grouped_nodes : PyDict String BulkChunk) : Except PyError Routing :=
  grouped_nodes.entries.foldlM (routeChunk lkp) ⟨[], .empty, .empty⟩

def getReason : ApiException → Except PyError String
  | .httpError reason _ => pure reason
  | .other _ => throw (.attributeError "_get_reason")

def startedEntry : String × Except ApiException Operation → Option (String × Operation)
  | (group, .ok op) => some (group, op)
  | (_, .error _) => none

def failedEntry : String × Except ApiException Operation → Option (String × ApiException)
  | (group, .error exc) => some (group, exc)
  | (_, .ok _) => none

def bulkOps (env : Provider) (routed : Routing) : List (String × Except ApiException Operation) :=
  routed.biInserts.keys.map fun group => (group, env.bulkInsert group)

def startedOps (env : Provider) (routed : Routing) : List (String × Operation) :=
  (bulkOps env routed).filterMap startedEntry

def failedOps (env : Provider) (routed : Routing) : List (String × ApiException) :=
  (bulkOps env routed).filterMap failedEntry

def safeDump (representable : Bool) : Trace :=
  if representable then .ok [] else .raise .representerError

def downNodesNotifyJobsCall (lkp : Lookup) (util : Util) (resume_data : Option ResumeData)
    (nodes : List String) (reason : String) : Trace :=
  ⟨[.downNodesNotifyJobs nodes reason],
    if (downNodesNotifyJobs util nodes reason resume_data).all fun cmd => (cmd.argv lkp.scontrol).isSome
    then none else some .valueError⟩

def downFailedDispatch (lkp : Lookup) (util : Util) (grouped_nodes : PyDict String BulkChunk)
    (resume_data : Option ResumeData) : String × ApiException → Trace
  | (ident, exc) =>
    match grouped_nodes.get? ident with
    | none => .raise .keyError
    | some chunk =>
      match getReason exc with
      | .error e => .raise e
      | .ok reason => downNodesNotifyJobsCall lkp util resume_data chunk.nodes ("GCP Error: " ++ reason)

def errorCodes (op : Operation) : List String :=
  match op.error with
  | some error => error.errors.map (·.code)
  | none => []

def errorCode (op : Operation) : String := "+".intercalate (errorCodes op)

def errorMessage (op : Operation) : String :=
  "; ".intercalate (((op.error.map (·.errors)).getD []).map fun err =>
    err.code ++ ": " ++ err.message.getD "no message")

def quarantineBucket (lkp : Lookup) (util : Util) (resume_data : Option ResumeData) (code : String)
    (failed_ops : List Operation) : Trace :=
  let failed_nodes := PyDict.ofList (failed_ops.map fun op => (util.trimSelfLink op.targetLink, op))
  match failed_nodes.entries with
  | [] => .raise .stopIteration
  | (_, failed_op) :: _ =>
    if code ≠ "RESOURCE_ALREADY_EXISTS" then
      downNodesNotifyJobsCall lkp util resume_data failed_nodes.keys ("GCP Error: " ++ errorMessage failed_op)
    else .ok []

def reconcile (lkp : Lookup) (util : Util) (env : Provider) (resume_data : Option ResumeData)
    (bulk_op : Operation) : Trace :=
  let group_id := bulk_op.operationGroupId
  let failed_inserts := (separate (fun op => op.error.isSome) (env.getInsertOperations group_id)).2
  (Trace.ok [.getInsertOperations group_id]).andThen
    (Trace.forEach (fun b => quarantineBucket lkp util resume_data b.1 b.2)
      (groupbyUnsorted failed_inserts errorCode))

def executeInserts (lkp : Lookup) (util : Util) (env : Provider) (grouped_nodes : PyDict String BulkChunk)
    (resume_data : Option ResumeData) (routed : Routing) : Trace :=
  let started := startedOps env routed
  let failed := failedOps env routed
  let bulk_operations := started.map fun s => (s.1, env.waitForOperation s.2)
  (Trace.ok (routed.biInserts.entries.map fun r => .bulkInsert r.1 r.2)).andThen <|
  (safeDump failed.isEmpty).andThen <|
  (Trace.forEach (downFailedDispatch lkp util grouped_nodes resume_data) failed).andThen <|
  (Trace.ok (started.map fun s => .waitForOperation s.1)).andThen <|
  (safeDump routed.tpuStartData.isEmpty).andThen <|
  (Trace.ok (routed.tpuStartData.map fun d => .startTpu d.1 d.2 (startTpu lkp env d.1 d.2))).andThen <|
  Trace.forEach (fun b => reconcile lkp util env resume_data b.2) bulk_operations

def resumeNodes (lkp : Lookup) (util : Util) (env : Provider) (nodes : List String)
    (resume_data : Option ResumeData) : Trace :=
  if nodes.isEmpty then .ok [] else
  match groupNodesBulk lkp env (sortedBy lkp.nodePrefix nodes) resume_data with
  | .error e => .raise e
  | .ok grouped_nodes =>
    match routeChunks lkp grouped_nodes with
    | .error e => .raise e
    | .ok routed => executeInserts lkp util env grouped_nodes resume_data routed

/-! ### The routing loop -/

section routing
variable {lkp : Lookup}

theorem routeChunk_ok {acc r : Routing} {group : String} {chunk : BulkChunk}
    (h : routeChunk lkp acc (group, chunk) = .ok r) :
    (isTpuChunk lkp chunk = true ∧ r.biInserts = acc.biInserts ∧
      r.tpuStartData.map Prod.snd = acc.tpuStartData.map Prod.snd ++ [chunk.nodes]) ∨
    (isTpuChunk lkp chunk = false ∧ r.tpuStartData = acc.tpuStartData ∧
      ∃ request, createInstancesRequest lkp chunk.nodes chunk.partition chunk.placementGroup
        chunk.jobId = .ok request ∧ r.biInserts = acc.biInserts.set group request) := by
  dsimp only [routeChunk] at h
  by_cases hc : isTpuChunk lkp chunk
  · rw [if_pos hc] at h
    obtain ⟨tpuObjs, -, ht⟩ := except_bind_eq_ok.mp h
    split at ht
    · cases ht
    · cases ht
      exact Or.inl ⟨hc, rfl, by simp⟩
  · rw [if_neg hc] at h
    obtain ⟨request, hreq, hr⟩ := except_bind_eq_ok.mp h
    cases hr
    exact Or.inr ⟨Bool.eq_false_iff.mpr hc, rfl, request, hreq, rfl⟩

theorem foldlM_routeChunk {es : List (String × BulkChunk)} {acc r : Routing}
    (h : es.foldlM (routeChunk lkp) acc = .ok r) :
    (∀ x ∈ r.biInserts.entries, x ∈ acc.biInserts.entries ∨ ∃ c, (x.1, c) ∈ es ∧
      isTpuChunk lkp c = false ∧
      createInstancesRequest lkp c.nodes c.partition c.placementGroup c.jobId = .ok x.2) ∧
    (∀ k, k ∈ acc.biInserts.keys ∨ (∃ c, (k, c) ∈ es ∧ isTpuChunk lkp c = false) → k ∈ r.biInserts.keys) ∧
    r.tpuStartData.map Prod.snd =
      acc.tpuStartData.map Prod.snd ++ (es.filter (isTpuChunk lkp ·.2)).map (·.2.nodes) := by
  induction es generalizing acc with
  | nil => cases h; simp
  | cons e es ih =>
    obtain ⟨group, chunk⟩ := e
    rw [foldlM_cons] at h
    obtain ⟨acc', he, hrest⟩ := except_bind_eq_ok.mp h
    obtain ⟨ih₁, ih₂, ih₃⟩ := ih hrest
    rcases routeChunk_ok he with ⟨hc, hbi, htpu⟩ | ⟨hc, htpu, request, hreq, hbi⟩
    · refine ⟨fun x hx => ?_, fun k hk => ih₂ k ?_, by simp [ih₃, htpu, hc]⟩
      · rcases ih₁ x hx with hx | ⟨c, hc', h'⟩
        · exact Or.inl (hbi ▸ hx)
        · exact Or.inr ⟨c, mem_cons_of_mem _ hc', h'⟩
      · rcases hk with hk | ⟨c, hkc, hc'⟩
        · exact Or.inl (hbi ▸ hk)
        · rcases mem_cons.mp hkc with hkc | hkc
          · cases hkc; simp [hc] at hc'
          · exact Or.inr ⟨c, hkc, hc'⟩
    · refine ⟨fun x hx => ?_, fun k hk => ?_, by simp [ih₃, htpu, hc]⟩
      · rcases ih₁ x hx with hx | ⟨c, hc', h'⟩
        · rcases PyDict.mem_entries_set (hbi ▸ hx) with rfl | hx
          · exact Or.inr ⟨chunk, mem_cons_self _ _, hc, hreq⟩
          · exact Or.inl hx
        · exact Or.inr ⟨c, mem_cons_of_mem _ hc', h'⟩
      · rcases hk with hk | ⟨c, hkc, hc'⟩
        · exact ih₂ k (Or.inl (hbi ▸ PyDict.mem_keys_set.mpr (Or.inr hk)))
        · rcases mem_cons.mp hkc with hkc | hkc
          · exact ih₂ k (Or.inl (hbi ▸ PyDict.mem_keys_set.mpr (Or.inl (congrArg Prod.fst hkc))))
          · exact ih₂ k (Or.inr ⟨c, hkc, hc'⟩)

end routing

/-! ### The executor -/

section execute
variable {lkp : Lookup} {util : Util} {env : Provider} {grouped_nodes : PyDict String BulkChunk}
  {resume_data : Option ResumeData} {routed : Routing}

theorem failedEntry_eq_some {y : String × Except ApiException Operation} {x : String × ApiException} :
    failedEntry y = some x ↔ y.1 = x.1 ∧ y.2 = .error x.2 := by
  obtain ⟨g, r⟩ := y
  cases r <;> simp [failedEntry, Prod.ext_iff, eq_comm]

theorem startedEntry_eq_some {y : String × Except ApiException Operation} {x : String × Operation} :
    startedEntry y = some x ↔ y.1 = x.1 ∧ y.2 = .ok x.2 := by
  obtain ⟨g, r⟩ := y
  cases r <;> simp [startedEntry, Prod.ext_iff, eq_comm]

@[simp] theorem events_downNodesNotifyJobsCall (nodes : List String) (reason : String) :
    (downNodesNotifyJobsCall lkp util resume_data nodes reason).events = [.downNodesNotifyJobs nodes reason] :=
  rfl

theorem downNodesNotifyJobsCall_raised {nodes : List String} {reason : String} {e : PyError}
    (h : (downNodesNotifyJobsCall lkp util resume_data nodes reason).raised = some e) :
    e = .valueError ∧ ∃ cmd ∈ downNodesNotifyJobs util nodes reason resume_data, cmd.argv lkp.scontrol = none := by
  simp only [downNodesNotifyJobsCall] at h
  split at h
  · cases h
  · rename_i hall
    cases h
    simpa using hall

theorem downNodesNotifyJobsCall_raised_eq_none {nodes : List String} {reason : String}
    (h : ∀ cmd ∈ downNodesNotifyJobs util nodes reason resume_data, (cmd.argv lkp.scontrol).isSome) :
    (downNodesNotifyJobsCall lkp util resume_data nodes reason).raised = none := by
  simp only [downNodesNotifyJobsCall, all_eq_true.mpr h, if_true]

theorem mem_failedOps {x : String × ApiException} :
    x ∈ failedOps env routed ↔ ∃ req, (x.1, req) ∈ routed.biInserts.entries ∧ env.bulkInsert x.1 = .error x.2 := by
  simp only [failedOps, bulkOps, PyDict.keys, map_map, mem_filterMap, mem_map, failedEntry_eq_some]
  constructor
  · rintro ⟨_, ⟨⟨g, req⟩, hreq, rfl⟩, rfl, herr⟩
    exact ⟨req, hreq, herr⟩
  · rintro ⟨req, hreq, herr⟩
    exact ⟨_, ⟨_, hreq, rfl⟩, rfl, herr⟩

theorem mem_startedOps {x : String × Operation} :
    x ∈ startedOps env routed ↔ ∃ req, (x.1, req) ∈ routed.biInserts.entries ∧ env.bulkInsert x.1 = .ok x.2 := by
  simp only [startedOps, bulkOps, PyDict.keys, map_map, mem_filterMap, mem_map, startedEntry_eq_some]
  constructor
  · rintro ⟨_, ⟨⟨g, req⟩, hreq, rfl⟩, rfl, hok⟩
    exact ⟨req, hreq, hok⟩
  · rintro ⟨req, hreq, hok⟩
    exact ⟨_, ⟨_, hreq, rfl⟩, rfl, hok⟩

@[simp] theorem events_safeDump (representable : Bool) : (safeDump representable).events = [] := by
  cases representable <;> rfl

theorem safeDump_true_andThen (t : Trace) : (safeDump true).andThen t = t := rfl

theorem safeDump_false_andThen (t : Trace) : (safeDump false).andThen t = .raise .representerError := rfl

theorem executeInserts_of_failed (hf : failedOps env routed ≠ []) :
    executeInserts lkp util env grouped_nodes resume_data routed =
      ⟨routed.biInserts.entries.map fun r => .bulkInsert r.1 r.2, some .representerError⟩ := by
  have hf' : (failedOps env routed).isEmpty = false := by simpa using hf
  simp only [executeInserts, hf', safeDump_false_andThen, Trace.ok_andThen]
  simp [Trace.raise]

theorem executeInserts_of_tpuStartData (hf : failedOps env routed = []) (ht : routed.tpuStartData ≠ []) :
    executeInserts lkp util env grouped_nodes resume_data routed =
      ⟨routed.biInserts.entries.map (fun r => .bulkInsert r.1 r.2) ++
        (startedOps env routed).map (fun s => .waitForOperation s.1), some .representerError⟩ := by
  have ht' : routed.tpuStartData.isEmpty = false := by simpa using ht
  simp only [executeInserts, hf, ht', isEmpty_nil, Trace.forEach_nil, safeDump_true_andThen,
    safeDump_false_andThen, Trace.ok_andThen]
  simp [Trace.raise]

theorem executeInserts_of_dispatched (hf : failedOps env routed = []) (ht : routed.tpuStartData = []) :
    executeInserts lkp util env grouped_nodes resume_data routed =
      (Trace.ok (routed.biInserts.entries.map (fun r => .bulkInsert r.1 r.2) ++
        (startedOps env routed).map (fun s => .waitForOperation s.1))).andThen
      (Trace.forEach (fun b => reconcile lkp util env resume_data b.2)
        ((startedOps env routed).map fun s => (s.1, env.waitForOperation s.2))) := by
  simp only [executeInserts, hf, ht, isEmpty_nil, Trace.forEach_nil, safeDump_true_andThen,
    Trace.ok_andThen, map_nil, nil_append, append_assoc]

theorem executeInserts_events (lkp : Lookup) (util : Util) (env : Provider)
    (grouped_nodes : PyDict String BulkChunk) (resume_data : Option ResumeData) (routed : Routing) :
    ∃ waits rec, (executeInserts lkp util env grouped_nodes resume_data routed).events =
        routed.biInserts.entries.map (fun r => .bulkInsert r.1 r.2) ++ waits ++ rec ∧
      waits <+ (startedOps env routed).map (fun s => .waitForOperation s.1) ∧
      ∀ e ∈ rec, ∃ s ∈ startedOps env routed,
        e ∈ (reconcile lkp util env resume_data (env.waitForOperation s.2)).events := by
  by_cases hf : failedOps env routed = []
  · by_cases ht : routed.tpuStartData = []
    · refine ⟨_, (Trace.forEach (fun b => reconcile lkp util env resume_data b.2)
        ((startedOps env routed).map fun s => (s.1, env.waitForOperation s.2))).events, ?_, Sublist.refl _,
        fun e he => ?_⟩
      · rw [executeInserts_of_dispatched hf ht, Trace.ok_andThen]
      · obtain ⟨_, hb, he⟩ := Trace.mem_events_forEach he
        obtain ⟨s, hs, rfl⟩ := mem_map.mp hb
        exact ⟨s, hs, he⟩
    · refine ⟨(startedOps env routed).map (fun s => .waitForOperation s.1), [], ?_, Sublist.refl _,
        fun _ h => nomatch h⟩
      rw [executeInserts_of_tpuStartData hf ht, append_nil]
  · refine ⟨[], [], ?_, nil_sublist _, fun _ h => nomatch h⟩
    rw [executeInserts_of_failed hf, append_nil, append_nil]

theorem executeInserts_raised {e : PyError}
    (h : (executeInserts lkp util env grouped_nodes resume_data routed).raised = some e) :
    e = .representerError ∧ (failedOps env routed ≠ [] ∨ routed.tpuStartData ≠ []) ∨
      failedOps env routed = [] ∧ routed.tpuStartData = [] ∧
        ∃ s ∈ startedOps env routed, (reconcile lkp util env resume_data (env.waitForOperation s.2)).raised = some e ∧
          ∀ ev ∈ (reconcile lkp util env resume_data (env.waitForOperation s.2)).events,
            ev ∈ (executeInserts lkp util env grouped_nodes resume_data routed).events := by
  by_cases hf : failedOps env routed = []
  · by_cases ht : routed.tpuStartData = []
    · rw [executeInserts_of_dispatched hf ht, Trace.ok_andThen] at h ⊢
      obtain ⟨_, hb, hr, hev⟩ := Trace.raised_forEach h
      obtain ⟨s, hs, rfl⟩ := mem_map.mp hb
      exact .inr ⟨hf, ht, s, hs, hr, fun ev he => mem_append_right _ (hev ev he)⟩
    · rw [executeInserts_of_tpuStartData hf ht] at h
      exact .inl ⟨(Option.some.inj h).symm, .inr ht⟩
  · rw [executeInserts_of_failed hf] at h
    exact .inl ⟨(Option.some.inj h).symm, .inl hf⟩

end execute

/-! ### The shape of a run -/

section run
variable {lkp : Lookup} {util : Util} {env : Provider} {nodes : List String}
  {resume_data : Option ResumeData}

theorem resumeNodes_of_routed {grouped_nodes : PyDict String BulkChunk} {routed : Routing}
    (hne : nodes ≠ []) (hg : groupNodesBulk lkp env (sortedBy lkp.nodePrefix nodes) resume_data = .ok grouped_nodes)
    (hr : routeChunks lkp grouped_nodes = .ok routed) :
    resumeNodes lkp util env nodes resume_data = executeInserts lkp util env grouped_nodes resume_data routed := by
  have : nodes.isEmpty = false := by simpa using hne
  simp only [resumeNodes, this, hg, hr]
  rfl

theorem resumeNodes_cases :
    (resumeNodes lkp util env nodes resume_data).events = [] ∨
    ∃ grouped_nodes routed, nodes ≠ [] ∧
      groupNodesBulk lkp env (sortedBy lkp.nodePrefix nodes) resume_data = .ok grouped_nodes ∧
      routeChunks lkp grouped_nodes = .ok routed ∧
      resumeNodes lkp util env nodes resume_data = executeInserts lkp util env grouped_nodes resume_data routed := by
  by_cases hne : nodes = []
  · subst hne
    exact .inl rfl
  cases hg : groupNodesBulk lkp env (sortedBy lkp.nodePrefix nodes) resume_data with
  | error e => exact .inl (by simp [resumeNodes, hne, hg, Trace.raise])
  | ok grouped_nodes =>
    cases hr : routeChunks lkp grouped_nodes with
    | error e => exact .inl (by simp [resumeNodes, hne, hg, hr, Trace.raise])
    | ok routed => exact .inr ⟨grouped_nodes, routed, hne, rfl, hr, resumeNodes_of_routed hne hg hr⟩

end run

/-! ### Runs on a cluster with an accelerator nodeset -/

def tpuLookup : Lookup where
  slurmClusterName := "c"
  scontrol := "scontrol"
  nodePrefix := fun n => String.mk (n.toList.take 3)
  prefixNodeset := fun p => String.mk (p.toList.drop 2)
  nodeset := fun ns => if ns = "t" then ⟨none, false, "", [], [], none⟩
    else ⟨some "tmpl", false, "n2-standard-4", [], [], some "ANY"⟩
  nodesetTpu := fun ns => if ns = "t" then some ⟨1, false⟩ else none
  partitions := fun p => if p = "tp" then ⟨[], ["t"], false⟩ else ⟨["a", "b"], [], false⟩
  nodeRegion := fun _ => "r"

/-- The accelerator node of a resume without job data lands in the `TPU_None` chunk, whose
partition is `None`: the routing test fails, a bulk-insert request is built and dispatched for
it, and `start_tpu` is never called. -/
theorem resumeNodes_jobless_tpu_bulkInsert :
    tpuLookup.nodeIsTpu "c-t-0" = true ∧
    ∃ request, createInstancesRequest tpuLookup ["c-t-0"] none none none = .ok request ∧
      resumeNodes tpuLookup hostUtil acceptingProvider ["c-t-0"] none =
        .ok [.bulkInsert "c-t:0" request, .waitForOperation "c-t:0", .getInsertOperations "g"] :=
  ⟨rfl, _, rfl, rfl⟩

def threeJobs : ResumeData := ⟨[⟨1, "p", ["c-a-0"]⟩, ⟨2, "p", ["c-b-0"]⟩, ⟨3, "tp", ["c-t-0"]⟩]⟩

def timeoutProvider : Provider :=
  { acceptingProvider with
    bulkInsert := fun group =>
      if group = "c-a:job1:0" then .error (.other "timeout") else .ok ⟨"op", "g", "", none⟩ }

end SlurmResume
