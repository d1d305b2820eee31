import SlurmResume.Config
import SlurmResume.Python.Format

/-! Placement policies: the machine-family check, `create_nodeset_placement_groups` with its
concurrent creation requests, `create_placement_groups` over the nodesets of a node list, and
the mapping the two return whenever they return. Placement groups are keyed by name, and the
nodes without a policy by `None`. A request result passes when it is an operation or an
`HttpError` whose error details all have the reason `alreadyExists`; otherwise reading
`error_details` off another exception raises `AttributeError`, or unpacking a failed request's
exception into a pair raises `TypeError`. -/

namespace SlurmResume
open List

def invalidTypes : List String := ["e2", "t2d", "n1", "t2a", "m1", "m2", "m3"]

def machineFamily (mt : String) : String := String.mk (mt.toList.takeWhile (· ≠ '-'))

def validPlacementNodes (lkp : Lookup) (nodelist : List String) : Bool :=
  nodelist.all fun node => machineFamily (lkp.nodeNodeset node).machineType ∉ invalidTypes

def createPlacementRequest (pg_name region : String) : PlacementRequest := ⟨pg_name, region⟩

abbrev PgMap := PyDict (Option String) (List String)

def noPg (node_list : List String) : PgMap := PyDict.ofList [(none, node_list)]

@[simp] theorem entries_noPg (node_list : List String) :
    (noPg node_list).entries = [(none, node_list)] := rfl

def placementGroupName (lkp : Lookup) (nodeset_name : String) (jobId i : Nat) : String :=
  lkp.slurmClusterName ++ "-slurmgcp-managed-" ++ nodeset_name ++ "-" ++ toString jobId ++ "-" ++
    toString i

theorem placementGroupName_inj {lkp : Lookup} {ns ns' : String} {jobId i i' : Nat}
    (h : placementGroupName lkp ns jobId i = placementGroupName lkp ns' jobId i') : ns = ns' ∧ i = i' := by
  have h := congrArg String.data h
  simp only [placementGroupName, String.data_append, append_assoc] at h
  have hdash : Char.isDigit '-' = false := by decide
  have h' : (ns.data ++ ['-'] ++ (toString jobId).data) ++ '-' :: (toString i).data =
      (ns'.data ++ ['-'] ++ (toString jobId).data) ++ '-' :: (toString i').data := by
    simpa only [append_assoc, singleton_append] using append_cancel_left (append_cancel_left h)
  obtain ⟨hns, hi⟩ := append_cons_eq_of_not_mem_right (not_mem_toString hdash) (not_mem_toString hdash) h'
  exact ⟨String.ext (append_cancel_right (append_cancel_right hns)), toString_data_inj.mp hi⟩

def placementSlices (lkp : Lookup) (model : String) (node_list : List String) (jobId : Nat) :
    PyDict String (List String) :=
  PyDict.ofList ((chunked node_list PLACEMENT_MAX_CNT).enum.map fun p =>
    (placementGroupName lkp (lkp.nodeNodesetName model) jobId p.1, p.2))

inductive PlacementOutcome
  | submitted
  | redundant
  | failed
deriving DecidableEq

def classifyResult : Except ApiException Operation → Except PyError PlacementOutcome
  | .ok _ => pure .submitted
  | .error (.httpError _ error_details) =>
    pure (if error_details.all (· = some "alreadyExists") then .redundant else .failed)
  | .error (.other _) => throw (.attributeError "error_details")

def submitPlacementRequests (env : Provider) (region : String)
    (groups : PyDict String (List String)) : Except PyError Unit := do
  let ops := groups.keys.map fun group => env.placementInsert (createPlacementRequest group region)
  let outcomes ← ops.mapM classifyResult
  if PlacementOutcome.failed ∈ outcomes then throw (.typeError "cannot unpack non-iterable exception")

def createNodesetPlacementGroups (lkp : Lookup) (env : Provider) (node_list : List String)
    (jobId : Nat) : Except PyError PgMap :=
  match node_list with
  | [] | [_] => pure (noPg node_list)
  | model :: other :: rest =>
    if lkp.nodeEnablePlacement model && validPlacementNodes lkp (model :: other :: rest) then do
      let groups := placementSlices lkp model (model :: other :: rest) jobId
      submitPlacementRequests env (lkp.nodeRegion model) groups
      pure groups.someKeys
    else pure (noPg node_list)

def createPlacementGroups (lkp : Lookup) (env : Provider) (node_list : List String) (jobId : Nat) :
    Except PyError PgMap :=
  (lkp.nodesetMap node_list).foldlM
    (fun pgs p => pgs.update <$> createNodesetPlacementGroups lkp env p.2 jobId) PyDict.empty

/-! ### The mapping returned -/

def nodesetPlacementPlan (lkp : Lookup) (node_list : List String) (jobId : Nat) : PgMap :=
  match node_list with
  | [] | [_] => noPg node_list
  | model :: other :: rest =>
    if lkp.nodeEnablePlacement model && validPlacementNodes lkp (model :: other :: rest) then
      (placementSlices lkp model (model :: other :: rest) jobId).someKeys
    else noPg node_list

def placementPlan (lkp : Lookup) (node_list : List String) (jobId : Nat) : PgMap :=
  (lkp.nodesetMap node_list).foldl
    (fun pgs p => pgs.update (nodesetPlacementPlan lkp p.2 jobId)) PyDict.empty

def PlacementAccepted : Except ApiException Operation → Prop
  | .ok _ => True
  | .error (.httpError _ error_details) => ∀ r ∈ error_details, r = some "alreadyExists"
  | .error (.other _) => False

def nodesetPlacementRequests (lkp : Lookup) (node_list : List String) (jobId : Nat) :
    List PlacementRequest :=
  match node_list with
  | [] | [_] => []
  | model :: other :: rest =>
    if lkp.nodeEnablePlacement model && validPlacementNodes lkp (model :: other :: rest) then
      (placementSlices lkp model (model :: other :: rest) jobId).keys.map fun group =>
        createPlacementRequest group (lkp.nodeRegion model)
    else []

def placementRequests (lkp : Lookup) (node_list : List String) (jobId : Nat) : List PlacementRequest :=
  (lkp.nodesetMap node_list).flatMap fun p => nodesetPlacementRequests lkp p.2 jobId

def placementErrors : List PyError :=
  [.attributeError "error_details", .typeError "cannot unpack non-iterable exception"]

variable {lkp : Lookup} {env : Provider}

theorem classifyResult_of_accepted {r : Except ApiException Operation} (h : PlacementAccepted r) :
    ∃ o, classifyResult r = .ok o ∧ o ≠ .failed := by
  match r, h with
  | .ok _, _ => exact ⟨_, rfl, by decide⟩
  | .error (.httpError _ d), h =>
    have hall : d.all (· = some "alreadyExists") = true := by simpa using h
    exact ⟨_, by simp only [classifyResult, hall, if_true]; rfl, by decide⟩

theorem mapM_classifyResult_of_accepted :
    ∀ {rs : List (Except ApiException Operation)}, (∀ r ∈ rs, PlacementAccepted r) →
      ∃ outs, rs.mapM classifyResult = .ok outs ∧ PlacementOutcome.failed ∉ outs
  | [], _ => ⟨[], rfl, not_mem_nil _⟩
  | r :: rs, h => by
    obtain ⟨o, ho, hne⟩ := classifyResult_of_accepted (h r (mem_cons_self _ _))
    obtain ⟨outs, hs, hn⟩ := mapM_classifyResult_of_accepted fun r' hr => h r' (mem_cons_of_mem _ hr)
    refine ⟨o :: outs, ?_, by simp [hne.symm, hn]⟩
    simp only [mapM_cons, ho, hs]
    rfl

theorem accepted_of_classifyResult {r : Except ApiException Operation} {o : PlacementOutcome}
    (h : classifyResult r = .ok o) (ho : o ≠ .failed) : PlacementAccepted r := by
  match r, h with
  | .ok _, _ => trivial
  | .error (.httpError _ d), h =>
    by_cases hall : d.all (· = some "alreadyExists") = true
    · simpa using hall
    · simp only [classifyResult, hall] at h
      exact absurd (Except.ok.inj h).symm ho

theorem classifyResult_error {r : Except ApiException Operation} {e : PyError}
    (h : classifyResult r = .error e) : e = .attributeError "error_details" := by
  match r, h with
  | .error (.other _), h => exact (Except.error.inj h).symm

theorem submitPlacementRequests_eq_ok_iff {region : String} {groups : PyDict String (List String)} :
    submitPlacementRequests env region groups = .ok () ↔
      ∀ group ∈ groups.keys, PlacementAccepted (env.placementInsert (createPlacementRequest group region)) := by
  constructor
  · intro h group hg
    obtain ⟨outs, hs, h⟩ := except_bind_eq_ok.mp h
    have hn : PlacementOutcome.failed ∉ outs := fun hf => by simp [hf] at h
    obtain ⟨o, ho, hc⟩ := mapM_except_ok hs _ (mem_map_of_mem _ hg)
    exact accepted_of_classifyResult hc (ne_of_mem_of_not_mem ho hn)
  · intro h
    obtain ⟨outs, hs, hn⟩ := mapM_classifyResult_of_accepted (forall_mem_map.mpr h)
    simp only [submitPlacementRequests, hs]
    exact if_neg hn

theorem submitPlacementRequests_error {region : String} {groups : PyDict String (List String)}
    {e : PyError} (h : submitPlacementRequests env region groups = .error e) : e ∈ placementErrors := by
  rcases except_bind_eq_error.mp h with h | ⟨outs, -, h⟩
  · obtain ⟨r, -, hr⟩ := mapM_except_error h
    simp [classifyResult_error hr, placementErrors]
  · split at h
    · cases h
      simp [placementErrors]
    · cases h

theorem createNodesetPlacementGroups_ok_eq {L : List String} {jobId : Nat} {pgs : PgMap}
    (h : createNodesetPlacementGroups lkp env L jobId = .ok pgs) :
    pgs = nodesetPlacementPlan lkp L jobId := by
  match L, h with
  | [], h | [_], h => cases h; rfl
  | model :: other :: rest, h =>
    simp only [createNodesetPlacementGroups, nodesetPlacementPlan] at h ⊢
    by_cases hc : (lkp.nodeEnablePlacement model && validPlacementNodes lkp (model :: other :: rest))
    · rw [if_pos hc] at h ⊢
      cases hs : submitPlacementRequests env (lkp.nodeRegion model)
        (placementSlices lkp model (model :: other :: rest) jobId) with
      | error e => simp [hs] at h
      | ok u => simp only [hs] at h; cases h; rfl
    · rw [if_neg hc] at h ⊢
      cases h; rfl

theorem createNodesetPlacementGroups_eq_ok_iff (L : List String) (jobId : Nat) :
    createNodesetPlacementGroups lkp env L jobId = .ok (nodesetPlacementPlan lkp L jobId) ↔
      ∀ req ∈ nodesetPlacementRequests lkp L jobId, PlacementAccepted (env.placementInsert req) := by
  match L with
  | [] | [_] => exact iff_of_true rfl fun _ h => nomatch h
  | model :: other :: rest =>
    simp only [createNodesetPlacementGroups, nodesetPlacementPlan, nodesetPlacementRequests]
    split
    · rw [forall_mem_map, ← submitPlacementRequests_eq_ok_iff]
      cases submitPlacementRequests env (lkp.nodeRegion model)
        (placementSlices lkp model (model :: other :: rest) jobId) <;> simp [Bind.bind, Except.bind, pure, Except.pure]
    · exact iff_of_true rfl fun _ h => nomatch h

theorem createNodesetPlacementGroups_error {L : List String} {jobId : Nat} {e : PyError}
    (h : createNodesetPlacementGroups lkp env L jobId = .error e) : e ∈ placementErrors := by
  match L, h with
  | [], h | [_], h => cases h
  | model :: other :: rest, h =>
    simp only [createNodesetPlacementGroups] at h
    split at h
    · rcases except_bind_eq_error.mp h with h | ⟨_, -, h⟩
      · exact submitPlacementRequests_error h
      · cases h
    · cases h

theorem createPlacementGroups_ok_eq {L : List String} {jobId : Nat} {pgs : PgMap}
    (h : createPlacementGroups lkp env L jobId = .ok pgs) : pgs = placementPlan lkp L jobId :=
  foldlM_except_ok_eq (fun b p r hr => by
    cases hc : createNodesetPlacementGroups lkp env p.2 jobId with
    | error e => simp [hc] at hr
    | ok g =>
      simp only [hc] at hr
      cases hr
      rw [createNodesetPlacementGroups_ok_eq hc]) _ _ _ h

theorem createPlacementGroups_eq_ok_iff (L : List String) (jobId : Nat) :
    createPlacementGroups lkp env L jobId = .ok (placementPlan lkp L jobId) ↔
      ∀ req ∈ placementRequests lkp L jobId, PlacementAccepted (env.placementInsert req) := by
  rw [placementRequests, forall_mem_flatMap]
  constructor
  · intro h p hp
    obtain ⟨_, _, hc⟩ := foldlM_except_ok_pass h p hp
    obtain ⟨g, hg, -⟩ := except_map_eq_ok.mp hc
    obtain rfl := createNodesetPlacementGroups_ok_eq hg
    exact (createNodesetPlacementGroups_eq_ok_iff p.2 jobId).mp hg
  · intro h
    exact foldlM_except_eq_ok (fun b p hp => by
      rw [(createNodesetPlacementGroups_eq_ok_iff p.2 jobId).mpr (h p hp)]; rfl) _

theorem createPlacementGroups_of_accepted (L : List String) (jobId : Nat)
    (h : ∀ req, PlacementAccepted (env.placementInsert req)) :
    createPlacementGroups lkp env L jobId = .ok (placementPlan lkp L jobId) :=
  (createPlacementGroups_eq_ok_iff L jobId).mpr fun _ _ => h _

theorem createPlacementGroups_error {L : List String} {jobId : Nat} {e : PyError}
    (h : createPlacementGroups lkp env L jobId = .error e) : e ∈ placementErrors :=
  let ⟨_, _, _, hp⟩ := foldlM_except_error h
  createNodesetPlacementGroups_error (except_map_eq_error.mp hp)

def acceptingProvider : Provider where
  placementInsert := fun _ => .ok ⟨"op", "", "", none⟩
  bulkInsert := fun _ => .ok ⟨"op", "g", "", none⟩
  waitForOperation := id
  getInsertOperations := fun _ => []
  tpuNodeExists := fun _ => false

def quotaProvider : Provider :=
  { acceptingProvider with
    placementInsert := fun _ => .error (.httpError "quotaExceeded" [some "quotaExceeded"]) }

def placementLookup : Lookup where
  slurmClusterName := "c"
  scontrol := "scontrol"
  nodePrefix := fun n => String.mk (n.toList.take 3)
  prefixNodeset := fun p => String.mk (p.toList.drop 2)
  nodeset := fun _ => ⟨some "tmpl", true, "c2-standard-4", [], [], some "ANY"⟩
  nodesetTpu := fun _ => none
  partitions := fun _ => ⟨["a"], [], false⟩
  nodeRegion := fun _ => "r"

/-- A refused placement request makes `create_nodeset_placement_groups` raise a `TypeError`
where it would have returned one placement group of both nodes. -/
theorem createNodesetPlacementGroups_raises :
    createNodesetPlacementGroups placementLookup quotaProvider ["c-a-0", "c-a-1"] 0 =
      .error (.typeError "cannot unpack non-iterable exception") ∧
    nodesetPlacementPlan placementLookup ["c-a-0", "c-a-1"] 0 =
      PyDict.ofList [(some "c-slurmgcp-managed-a-0-0", ["c-a-0", "c-a-1"])] :=
  ⟨rfl, rfl⟩

/-! ### What a placement group holds -/

structure PlacementSlice (lkp : Lookup) (nodes : List String) : Prop where
  length_le : nodes.length ≤ PLACEMENT_MAX_CNT
  source : ∃ L : List String, 2 ≤ L.length ∧ validPlacementNodes lkp L = true ∧ nodes ⊆ L ∧
    ∃ ns, ∀ n ∈ L, lkp.nodeNodesetName n = ns ∧ lkp.nodeEnablePlacement n = true

theorem PlacementSlice.mono {nodes nodes' : List String} (h : PlacementSlice lkp nodes)
    (h' : nodes' <+~ nodes) : PlacementSlice lkp nodes' :=
  let ⟨L, h2, hv, hs, hn⟩ := h.source
  ⟨h'.length_le.trans h.length_le, L, h2, hv, h'.subset.trans hs, hn⟩

theorem mem_placementSlices {model : String} {L : List String} {jobId : Nat} {pg : String}
    {nodes : List String} (h : (pg, nodes) ∈ (placementSlices lkp model L jobId).entries) :
    nodes ∈ chunked L PLACEMENT_MAX_CNT := by
  obtain ⟨p, hp, he⟩ := mem_map.mp ((PyDict.entries_ofList_subperm _).subset h)
  cases he
  exact snd_mem_of_mem_enum hp

theorem placementSlice_of_mem_nodesetPlacementPlan {L : List String} {ns : String} {jobId : Nat}
    {pg : String} {nodes : List String} (hL : ∀ n ∈ L, lkp.nodeNodesetName n = ns)
    (h : (some pg, nodes) ∈ (nodesetPlacementPlan lkp L jobId).entries) : PlacementSlice lkp nodes := by
  match L, hL, h with
  | [], _, h | [_], _, h => simp [nodesetPlacementPlan] at h
  | model :: other :: rest, hL, h =>
    simp only [nodesetPlacementPlan] at h
    by_cases hc : (lkp.nodeEnablePlacement model && validPlacementNodes lkp (model :: other :: rest))
    · rw [if_pos hc] at h
      obtain ⟨⟨pg', nodes'⟩, hmem, he⟩ := mem_map.mp h
      cases he
      obtain ⟨-, hlen, hsub⟩ := mem_chunked (mem_placementSlices hmem)
      simp only [Bool.and_eq_true] at hc
      refine ⟨hlen, model :: other :: rest, by simp, hc.2, hsub.subset, ns, fun n hn => ⟨hL n hn, ?_⟩⟩
      rw [lkp.nodeEnablePlacement_eq_of_nodeset_name ((hL n hn).trans (hL model (mem_cons_self _ _)).symm)]
      exact hc.1
    · rw [if_neg hc] at h
      simp at h

theorem mem_placementPlan {L : List String} {jobId : Nat} {e : Option String × List String}
    (h : e ∈ (placementPlan lkp L jobId).entries) :
    ∃ p ∈ lkp.nodesetMap L, e ∈ (nodesetPlacementPlan lkp p.2 jobId).entries := by
  simpa using (PyDict.entries_foldl_update_subperm _ _ _).subset h

theorem placementSlice_of_mem_placementPlan {L : List String} {jobId : Nat} {pg : String}
    {nodes : List String} (h : (some pg, nodes) ∈ (placementPlan lkp L jobId).entries) :
    PlacementSlice lkp nodes := by
  obtain ⟨p, hp, hmem⟩ := mem_placementPlan h
  exact placementSlice_of_mem_nodesetPlacementPlan (fun n hn => (mem_of_mem_groupbyUnsorted hp hn).2) hmem

theorem name_of_mem_nodesetPlacementPlan {L : List String} {jobId : Nat} {pg : String}
    {nodes : List String} (h : (some pg, nodes) ∈ (nodesetPlacementPlan lkp L jobId).entries) :
    ∃ model ∈ L, ∃ i, pg = placementGroupName lkp (lkp.nodeNodesetName model) jobId i := by
  match L, h with
  | [], h | [_], h => simp [nodesetPlacementPlan] at h
  | model :: other :: rest, h =>
    simp only [nodesetPlacementPlan] at h
    split at h
    · obtain ⟨⟨pg', nodes'⟩, hmem, he⟩ := mem_map.mp h
      cases he
      obtain ⟨p, -, he⟩ := mem_map.mp ((PyDict.entries_ofList_subperm _).subset hmem)
      cases he
      exact ⟨model, mem_cons_self _ _, _, rfl⟩
    · simp at h

theorem name_of_mem_placementPlan {L : List String} {jobId : Nat} {pg : String} {nodes : List String}
    (h : (some pg, nodes) ∈ (placementPlan lkp L jobId).entries) :
    ∃ model ∈ L, ∃ i, pg = placementGroupName lkp (lkp.nodeNodesetName model) jobId i := by
  obtain ⟨p, hp, hmem⟩ := mem_placementPlan h
  obtain ⟨model, hmodel, i, rfl⟩ := name_of_mem_nodesetPlacementPlan hmem
  exact ⟨model, (mem_of_mem_groupbyUnsorted hp hmodel).1, i, rfl⟩

theorem flatMap_nodesetPlacementPlan (L : List String) (jobId : Nat) :
    (nodesetPlacementPlan lkp L jobId).entries.flatMap Prod.snd = L := by
  match L with
  | [] | [_] => simp [nodesetPlacementPlan]
  | model :: other :: rest =>
    simp only [nodesetPlacementPlan]
    split
    · have hk : (((chunked (model :: other :: rest) PLACEMENT_MAX_CNT).enum.map fun p =>
          (placementGroupName lkp (lkp.nodeNodesetName model) jobId p.1, p.2)).map Prod.fst).Nodup := by
        have : ((chunked (model :: other :: rest) PLACEMENT_MAX_CNT).enum.map fun p =>
            (placementGroupName lkp (lkp.nodeNodesetName model) jobId p.1, p.2)).map Prod.fst =
            ((chunked (model :: other :: rest) PLACEMENT_MAX_CNT).enum.map Prod.fst).map
              (placementGroupName lkp (lkp.nodeNodesetName model) jobId) := by
          simp only [map_map, Function.comp_def]
        rw [this, enum_map_fst]
        exact (nodup_range _).map fun i i' h => (placementGroupName_inj h).2
      simp only [PyDict.someKeys, placementSlices, PyDict.entries_ofList_of_nodup hk, flatMap_map]
      rw [flatMap_snd_enum, flatten_chunked _ (by decide)]
    · simp

theorem flatMap_placementPlan_subperm (L : List String) (jobId : Nat) :
    (placementPlan lkp L jobId).entries.flatMap Prod.snd <+~ L := by
  refine (Subperm.flatMap_of Prod.snd (PyDict.entries_foldl_update_subperm _ _ _)).trans ?_
  rw [PyDict.entries_empty, nil_append, flatMap_assoc]
  exact (subperm_flatMap_congr fun p _ => (Perm.of_eq (flatMap_nodesetPlacementPlan p.2 jobId)).subperm).trans
    flatMap_groupbyUnsorted_subperm

/-! ### When the placement groups partition a node list -/

def OneNoPolicyBucket (lkp : Lookup) (L : List String) (jobId : Nat) : Prop :=
  ∀ p ∈ lkp.nodesetMap L, ∀ p' ∈ lkp.nodesetMap L, none ∈ (nodesetPlacementPlan lkp p.2 jobId).keys →
    none ∈ (nodesetPlacementPlan lkp p'.2 jobId).keys → p = p'

instance (lkp : Lookup) (L : List String) (jobId : Nat) : Decidable (OneNoPolicyBucket lkp L jobId) :=
  inferInstanceAs (Decidable (∀ p ∈ lkp.nodesetMap L, ∀ p' ∈ lkp.nodesetMap L,
    none ∈ (nodesetPlacementPlan lkp p.2 jobId).keys → none ∈ (nodesetPlacementPlan lkp p'.2 jobId).keys → p = p'))

theorem named_key_not_mem_of_ne {L : List String} {jobId : Nat} {p b : String × List String}
    (hp : p ∈ lkp.nodesetMap L) (hb : b ∈ lkp.nodesetMap L) (hne : b.1 ≠ p.1) {pg : String}
    {v : List String} (h : (some pg, v) ∈ (nodesetPlacementPlan lkp p.2 jobId).entries) :
    some pg ∉ (nodesetPlacementPlan lkp b.2 jobId).keys := fun hk => by
  obtain ⟨⟨k, v'⟩, hv', rfl⟩ := mem_map.mp hk
  obtain ⟨m, hm, i, rfl⟩ := name_of_mem_nodesetPlacementPlan h
  obtain ⟨m', hm', i', heq⟩ := name_of_mem_nodesetPlacementPlan hv'
  exact hne (calc b.1 = lkp.nodeNodesetName m' := (mem_of_mem_groupbyUnsorted hb hm').2.symm
    _ = lkp.nodeNodesetName m := (placementGroupName_inj heq).1.symm
    _ = p.1 := (mem_of_mem_groupbyUnsorted hp hm).2)

theorem mem_flatMap_placementPlan {L : List String} {jobId : Nat}
    (hone : OneNoPolicyBucket lkp L jobId) {x : String} (hx : x ∈ L) :
    x ∈ (placementPlan lkp L jobId).entries.flatMap Prod.snd := by
  have hp := @mem_groupbyUnsorted_of_mem _ _ _ L lkp.nodeNodesetName x hx
  obtain ⟨l₁, l₂, hsplit⟩ := append_of_mem hp
  have hxp : x ∈ (nodesetPlacementPlan lkp (L.filter (lkp.nodeNodesetName · = lkp.nodeNodesetName x))
      jobId).entries.flatMap Prod.snd := by
    rw [flatMap_nodesetPlacementPlan]
    exact mem_filter.mpr ⟨hx, by simp⟩
  obtain ⟨⟨k, v⟩, he, hxe⟩ := mem_flatMap.mp hxp
  refine mem_flatMap.mpr ⟨_, ?_, hxe⟩
  rw [placementPlan, Lookup.nodesetMap, hsplit, foldl_append, foldl_cons]
  refine PyDict.mem_foldl_update _ l₂ _ (PyDict.mem_entries_update_iff.mpr (Or.inl he)) fun b hb hk => ?_
  have hb' : b ∈ groupbyUnsorted L lkp.nodeNodesetName := hsplit ▸ mem_append_right _ (mem_cons_of_mem _ hb)
  have hne : b.1 ≠ lkp.nodeNodesetName x := fun h => by
    have hkeys := hsplit ▸
      (nodup_keys_groupbyUnsorted : ((groupbyUnsorted L lkp.nodeNodesetName).map Prod.fst).Nodup)
    simp only [map_append, map_cons, nodup_append, nodup_cons] at hkeys
    exact hkeys.2.1.1 (h ▸ mem_map_of_mem Prod.fst hb)
  cases k with
  | none => exact hne (congrArg Prod.fst (hone _ hp _ hb' (mem_map_of_mem Prod.fst he) hk)).symm
  | some pg => exact named_key_not_mem_of_ne hp hb' hne he hk

/-- When at most one nodeset of a duplicate-free node list answers the no-policy bucket, the
placement groups `create_placement_groups` returns partition the list: every node lies in
exactly one of them. -/
theorem createPlacementGroups_partitions {L : List String} (hL : L.Nodup) {jobId : Nat}
    (hone : OneNoPolicyBucket lkp L jobId) {pgs : PgMap}
    (h : createPlacementGroups lkp env L jobId = .ok pgs) : pgs.entries.flatMap Prod.snd ~ L := by
  rw [createPlacementGroups_ok_eq h]
  exact (flatMap_placementPlan_subperm L jobId).antisymm (hL.subperm fun x hx => mem_flatMap_placementPlan hone hx)

theorem createPlacementGroups_partitions_mixed :
    ["c-a-0", "c-a-1", "c-b-0"].Nodup ∧
    OneNoPolicyBucket placementLookup ["c-a-0", "c-a-1", "c-b-0"] 0 ∧
    createPlacementGroups placementLookup acceptingProvider ["c-a-0", "c-a-1", "c-b-0"] 0 =
      .ok (placementPlan placementLookup ["c-a-0", "c-a-1", "c-b-0"] 0) ∧
    (placementPlan placementLookup ["c-a-0", "c-a-1", "c-b-0"] 0).entries.flatMap Prod.snd ~
      ["c-a-0", "c-a-1", "c-b-0"] :=
  ⟨by decide, by decide, rfl, @createPlacementGroups_partitions placementLookup acceptingProvider
    ["c-a-0", "c-a-1", "c-b-0"] (by decide) 0 (by decide) _ rfl⟩

/-! ### When a placement request is refused -/

/-- `create_placement_groups` returns its placement groups exactly when every placement-policy
request of its nodesets passes; otherwise it raises, and only the exceptions a refused request
raises. -/
theorem createPlacementGroups_outcome (L : List String) (jobId : Nat) :
    (createPlacementGroups lkp env L jobId = .ok (placementPlan lkp L jobId) ↔
      ∀ req ∈ placementRequests lkp L jobId, PlacementAccepted (env.placementInsert req)) ∧
    ∀ e, createPlacementGroups lkp env L jobId = .error e → e ∈ placementErrors :=
  ⟨createPlacementGroups_eq_ok_iff L jobId, fun _ => createPlacementGroups_error⟩

theorem createPlacementGroups_outcome_quota :
    createPlacementGroups placementLookup quotaProvider ["c-a-0", "c-a-1"] 0 =
      .error (.typeError "cannot unpack non-iterable exception") ∧
    PyError.typeError "cannot unpack non-iterable exception" ∈ placementErrors :=
  ⟨rfl, (@createPlacementGroups_outcome placementLookup quotaProvider ["c-a-0", "c-a-1"] 0).2 _ rfl⟩

end SlurmResume
