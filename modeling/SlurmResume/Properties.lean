import Mathlib.Data.List.Infix
import SlurmResume.Python.NSDict
import SlurmResume.Config

/-! The `instanceProperties` of a bulk-insert request, as `instance_properties` builds them: the
job labels on the instance and on its persistent disks, the placement group, the reservation
affinity, the maintenance interval and the flexible-start scheduling of `update_props_dws`, with
the nodeset's own `instance_properties` merged on top by addict's recursive `update`.

Each block of the builder is a run of attribute assignments, kept here as the list of its paths
and values in program order, so the properties are one `setPaths` over the blocks' lists followed
by the override. The value a field ends with is then read off the last assignment to it or to a
dict above it (`Json.getPath_setPaths`). In the disk loop a disk without `initializeParams` reads
a detached empty dict, so it counts as a local SSD and is left as it is; a disk whose
`initializeParams` or labels are not dicts makes the loop raise `AttributeError`. -/

namespace SlurmResume
open List

def truthy : Option String → Bool
  | some s => !s.isEmpty
  | none => false

def jobLabels (lkp : Lookup) (partition_name : Option String) (jobId : Option Nat) :
    Option (List (String × Json)) :=
  match jobId, partition_name with
  | some jobId, some part =>
    if (lkp.partitions part).enableJobExclusive then some [("slurm_job_id", .num jobId)] else none
  | _, _ => none

abbrev Assignment := List String × Json

/-! ### The builder -/

def dwsFlexDuration (plk : PropertiesLookup) (dwsFlex : DwsFlex) (jobId : Option Nat) : Nat :=
  let max_duration := dwsFlex.maxRunDuration
  match dwsFlex.useJobDuration, jobId.bind plk.job with
  | true, some { duration := some duration } =>
    if 0 < duration then
      if 30 ≤ duration ∧ duration ≤ 2 * 7 * 24 * 3600 then duration else max_duration
    else max_duration
  | _, _ => max_duration

def dwsAssignments (plk : PropertiesLookup) (dwsFlex : DwsFlex) (jobId : Option Nat) :
    List Assignment :=
  [(["scheduling", "onHostMaintenance"], .str "TERMINATE"),
   (["scheduling", "instanceTerminationAction"], .str "DELETE"),
   (["reservationAffinity", "consumeReservationType"], .str "NO_RESERVATION"),
   (["scheduling", "maxRunDuration", "seconds"], .num (dwsFlexDuration plk dwsFlex jobId))]

def updatePropsDws (plk : PropertiesLookup) (props : Json) (dwsFlex : DwsFlex)
    (jobId : Option Nat) : Option Json :=
  props.setPaths (dwsAssignments plk dwsFlex jobId)

def labelsJson (labels : List (String × String)) : List (String × Json) :=
  labels.map fun l => (l.1, .str l.2)

def isLocalSsd : Option Json → Bool
  | none => true
  | some (.str s) => s == "local-ssd"
  | some _ => false

def labelDisk (labels : List (String × Json)) (disk : Json) : Option Json := do
  let initializeParams := (disk.get? "initializeParams").getD (.obj [])
  if !disk.isObj || !initializeParams.isObj then none
  else if isLocalSsd (initializeParams.get? "diskType") then pure disk
  else
    let diskLabels ← ((initializeParams.get? "labels").getD (.obj [])).update labels
    disk.setPath ["initializeParams", "labels"] diskLabels

def labelsAssignments (plk : PropertiesLookup) (template : Option String) :
    Option (List (String × Json)) → Option (List Assignment)
  | some labels@(_ :: _) => do
    let templateInfo := plk.templateInfo template
    let disks ← templateInfo.disks.mapM (labelDisk labels)
    pure [(["labels"], .obj (PyDict.ofList (labelsJson templateInfo.labels ++ labels)).entries),
      (["disks"], .arr disks)]
  | _ => pure []

def placementAssignments : Option String → List Assignment
  | some placementGroup =>
    if placementGroup.isEmpty then []
    else [(["scheduling", "onHostMaintenance"], .str "TERMINATE"),
      (["resourcePolicies"], .arr [.str placementGroup])]
  | none => []

def reservationAssignments (universeDomain : String) : Option Reservation → List Assignment
  | some reservation =>
    (["reservationAffinity"], .obj [("consumeReservationType", .str "SPECIFIC_RESERVATION"),
      ("key", .str ("compute." ++ universeDomain ++ "/reservation-name")),
      ("values", .arr [.str reservation.bulkInsertName])]) ::
    ((if reservation.deploymentType = some "DENSE" then
        [(["scheduling", "provisioning_model"], .str "RESERVATION_BOUND")] else []) ++
      if reservation.policies.isEmpty then [(["resourcePolicies"], .arr [])]
      else [(["scheduling", "onHostMaintenance"], .str "TERMINATE"),
        (["resourcePolicies"], .arr (reservation.policies.map .str))])
  | none => []

def maintenanceAssignments : Option String → List Assignment
  | some maintenanceInterval =>
    if maintenanceInterval.isEmpty then []
    else [(["scheduling", "maintenanceInterval"], .str maintenanceInterval)]
  | none => []

def instanceProperties (lkp : Lookup) (plk : PropertiesLookup) (nodeset : NodesetProperties)
    (model : String) (placementGroup : Option String) (labels : Option (List (String × Json)))
    (jobId : Option Nat) : Option Json := do
  let template := (lkp.nodeNodeset model).instanceTemplate
  let props ← (Json.obj []).setPaths (← labelsAssignments plk template labels)
  let props ← props.setPaths (placementAssignments placementGroup)
  let props ← props.setPaths (reservationAssignments plk.universeDomain (plk.nodesetReservation nodeset))
  let props ← props.setPaths (maintenanceAssignments nodeset.maintenanceInterval)
  let props ← if nodeset.dwsFlex.enabled then updatePropsDws plk props nodeset.dwsFlex jobId
    else pure props
  props.update (nodeset.instanceProperties.getD [])

def bodyInstanceProperties (lkp : Lookup) (plk : PropertiesLookup) (nodes : List String)
    (partition_name placementGroup : Option String) (jobId : Option Nat) : Option Json :=
  match nodes with
  | [] => none
  | model :: _ =>
    instanceProperties lkp plk (plk.nodesetProperties (lkp.nodeNodesetName model)) model
      placementGroup (jobLabels lkp partition_name jobId) jobId

def NodesetProperties.override (nodeset : NodesetProperties) (k : String) : Option Json :=
  ((nodeset.instanceProperties.getD []).reverse.find? (·.1 = k)).map Prod.snd

/-! ### The builder as one run of assignments -/

def computedAssignments (plk : PropertiesLookup) (nodeset : NodesetProperties)
    (placementGroup : Option String) (jobId : Option Nat) : List Assignment :=
  placementAssignments placementGroup ++
    reservationAssignments plk.universeDomain (plk.nodesetReservation nodeset) ++
    maintenanceAssignments nodeset.maintenanceInterval ++
    if nodeset.dwsFlex.enabled then dwsAssignments plk nodeset.dwsFlex jobId else []

def computedPaths : List (List String) :=
  [["scheduling", "onHostMaintenance"], ["resourcePolicies"], ["scheduling", "provisioning_model"],
    ["scheduling", "maintenanceInterval"], ["scheduling", "instanceTerminationAction"],
    ["reservationAffinity", "consumeReservationType"], ["scheduling", "maxRunDuration", "seconds"],
    ["reservationAffinity"]]

def builderPaths : List (List String) := ["labels"] :: ["disks"] :: computedPaths

def builderDicts : List (List String) :=
  [[], ["scheduling"], ["scheduling", "maxRunDuration"], ["reservationAffinity"]]

theorem builderPaths_inits : ∀ p ∈ builderPaths, ∀ r ∈ p.inits, r ≠ p → r ∈ builderDicts := by
  decide

theorem builderPaths_prefix_builderDicts :
    ∀ p ∈ builderPaths, ∀ r ∈ builderDicts, p <+: r → p = ["reservationAffinity"] ∧ r = p := by
  decide

def lastValue (e : List (String × Json)) (k : String) : Option Json :=
  (e.reverse.find? (·.1 = k)).map Prod.snd

def labellable (disk : Json) : Bool :=
  disk.isObj && match disk.get? "initializeParams" with
    | none => true
    | some p => p.isObj && (isLocalSsd (p.get? "diskType") || ((p.get? "labels").map Json.isObj).getD true)

def diskLoopError (disks : List Json) : PyError :=
  .attributeError <| match disks.find? (!labellable ·) with
    | some disk =>
      if !disk.isObj then "initializeParams"
      else if !((disk.get? "initializeParams").getD (.obj [])).isObj then "get" else "update"
    | none => "update"

theorem mapM_eq_none_iff {α β : Type} (f : α → Option β) :
    ∀ l : List α, l.mapM f = none ↔ ∃ x ∈ l, f x = none
  | [] => by rw [mapM_nil]; simp
  | a :: l => by
    rw [mapM_cons]
    cases ha : f a with
    | none => exact iff_of_true rfl ⟨a, mem_cons_self _ _, ha⟩
    | some b =>
      have ih := mapM_eq_none_iff f l
      cases hl : l.mapM f with
      | none => exact iff_of_true rfl (by obtain ⟨x, hx, hfx⟩ := ih.mp hl; exact ⟨x, mem_cons_of_mem _ hx, hfx⟩)
      | some bs =>
        refine iff_of_false (by simp [hl]) fun ⟨x, hx, hfx⟩ => ?_
        rcases mem_cons.mp hx with rfl | hx
        · simp [ha] at hfx
        · exact Option.noConfusion (hl.symm.trans (ih.mpr ⟨x, hx, hfx⟩))

theorem exists_of_mem_mapM {α β : Type} {f : α → Option β} :
    ∀ {l : List α} {l' : List β}, l.mapM f = some l' → ∀ y ∈ l', ∃ x ∈ l, f x = some y
  | [], _, h, _, hy => by cases h; cases hy
  | a :: l, l', h, y, hy => by
    simp only [mapM_cons, Option.pure_def, Option.bind_eq_bind, Option.bind_eq_some,
      Option.some.injEq] at h
    obtain ⟨b, hb, bs, hbs, rfl⟩ := h
    rcases mem_cons.mp hy with rfl | hy
    · exact ⟨a, mem_cons_self _ _, hb⟩
    · obtain ⟨x, hx, hfx⟩ := exists_of_mem_mapM hbs y hy
      exact ⟨x, mem_cons_of_mem _ hx, hfx⟩

theorem getPath_initializeParams (disk : Json) (k : String) :
    disk.getPath ["initializeParams", k] = ((disk.get? "initializeParams").getD (.obj [])).get? k := by
  cases h : disk.get? "initializeParams" with
  | none => simp only [Json.getPath, h, Option.none_bind, Option.getD_none]; rfl
  | some c => simp [Json.getPath, h]

theorem labelDisk_labels {labels : List (String × Json)} (hl : ∀ p ∈ labels, p.2.isObj = false)
    {disk d : Json} (h : labelDisk labels disk = some d) :
    isLocalSsd (d.getPath ["initializeParams", "diskType"]) = true ∨
      ∀ k ∈ labels.map Prod.fst, d.getPath ["initializeParams", "labels", k] = lastValue labels k := by
  simp only [labelDisk] at h
  split_ifs at h with hobj hssd
  · cases h
    exact .inl (by rwa [getPath_initializeParams])
  · obtain ⟨dl, hupd, hd⟩ := Option.bind_eq_some.mp h
    refine .inr fun k hk => ?_
    obtain ⟨p, hp, rfl⟩ := mem_map.mp hk
    obtain ⟨q, hq⟩ : ∃ q, labels.reverse.find? (·.1 = p.1) = some q :=
      Option.isSome_iff_exists.mp (find?_isSome.mpr ⟨p, mem_reverse.mpr hp, by simp⟩)
    rw [show ["initializeParams", "labels", p.1] = ["initializeParams", "labels"] ++ [p.1] from rfl,
      Json.getPath_setPath_append hd, Json.getPath_singleton, Json.get?_update_of_leaves hupd hl,
      lastValue, hq]
    rfl

theorem labelDisk_isSome (labels : List (String × Json)) (disk : Json) :
    (labelDisk labels disk).isSome = labellable disk := by
  cases disk with
  | obj fields =>
    cases hip : (Json.obj fields).get? "initializeParams" with
    | none =>
      simp only [labelDisk, labellable, hip, Option.getD_none]
      simp [Json.isObj, isLocalSsd, Json.get?]
    | some ip =>
      cases ip with
      | obj pf =>
        have hset : ∀ l : Json, l.isObj = true → ((l.update labels).bind fun dl =>
            (Json.obj fields).setPath ["initializeParams", "labels"] dl).isSome = true := fun l hl => by
          obtain ⟨dl, hdl, -⟩ := Json.update_isSome hl labels
          obtain ⟨d, hd⟩ := @Json.setPath_isSome (.obj fields) dl ["initializeParams", "labels"]
            ⟨rfl, by simp [hip, Json.isObj], trivial⟩
          simp [hdl, hd]
        simp only [labelDisk, labellable, hip, Option.getD_some, Json.isObj, Bool.not_true,
          Bool.or_false, Bool.true_and, Option.bind_eq_bind]
        cases isLocalSsd ((Json.obj pf).get? "diskType")
        · cases hlab : (Json.obj pf).get? "labels" with
          | none => simpa using hset (.obj []) rfl
          | some l =>
            cases hl : l.isObj
            · simp [Json.update_eq_none hl, hl]
            · simpa [hl] using hset l hl
        · rfl
      | _ => simp [labelDisk, labellable, hip, Json.isObj]
  | _ => rfl

theorem not_mem_of_override_eq_none {nodeset : NodesetProperties} {k : String}
    (h : nodeset.override k = none) : k ∉ (nodeset.instanceProperties.getD []).map Prod.fst := by
  intro hk
  obtain ⟨p, hp, rfl⟩ := mem_map.mp hk
  simp only [NodesetProperties.override, Option.map_eq_none', find?_eq_none, mem_reverse,
    decide_eq_true_eq] at h
  exact h p hp rfl

section
variable {lkp : Lookup} {plk : PropertiesLookup} {nodeset : NodesetProperties} {model : String}
  {placementGroup : Option String} {labels : Option (List (String × Json))} {jobId : Option Nat}
  {template : Option String} {ls : List Assignment} {props : Json}

theorem instanceProperties_eq :
    instanceProperties lkp plk nodeset model placementGroup labels jobId =
      (labelsAssignments plk (lkp.nodeNodeset model).instanceTemplate labels).bind fun ls =>
        ((Json.obj []).setPaths (ls ++ computedAssignments plk nodeset placementGroup jobId)).bind
          (·.update (nodeset.instanceProperties.getD [])) := by
  cases h : nodeset.dwsFlex.enabled <;>
    simp [instanceProperties, computedAssignments, Json.setPaths_append, updatePropsDws, h,
      Option.bind_assoc]

theorem instanceProperties_some
    (h : instanceProperties lkp plk nodeset model placementGroup labels jobId = some props) :
    ∃ ls p₀, labelsAssignments plk (lkp.nodeNodeset model).instanceTemplate labels = some ls ∧
      (Json.obj []).setPaths (ls ++ computedAssignments plk nodeset placementGroup jobId) = some p₀ ∧
      p₀.update (nodeset.instanceProperties.getD []) = some props := by
  rw [instanceProperties_eq] at h
  obtain ⟨ls, hls, h⟩ := Option.bind_eq_some.mp h
  obtain ⟨p₀, hp₀, hupd⟩ := Option.bind_eq_some.mp h
  exact ⟨ls, p₀, hls, hp₀, hupd⟩

theorem labelsAssignments_of_ne_nil {labels : List (String × Json)} (hne : labels ≠ []) :
    labelsAssignments plk template (some labels) =
      ((plk.templateInfo template).disks.mapM (labelDisk labels) : Option (List Json)).map fun disks =>
        [(["labels"], .obj (PyDict.ofList (labelsJson (plk.templateInfo template).labels ++ labels)).entries),
          (["disks"], .arr disks)] := by
  obtain ⟨l, labels, rfl⟩ := exists_cons_of_ne_nil hne
  simp only [labelsAssignments]
  cases ((plk.templateInfo template).disks.mapM (labelDisk (l :: labels)) : Option (List Json)) <;> rfl

theorem labelsAssignments_paths (h : labelsAssignments plk template labels = some ls) :
    ∀ w ∈ ls, w.1 = ["labels"] ∨ w.1 = ["disks"] := by
  unfold labelsAssignments at h
  split at h
  · obtain ⟨disks, -, h⟩ := Option.bind_eq_some.mp h
    cases h
    simp
  · cases h
    simp

theorem computedAssignments_paths : ∀ w ∈ computedAssignments plk nodeset placementGroup jobId,
    w.1 ∈ computedPaths ∧ (w.1 = ["reservationAffinity"] → w.2.isObj = true) := by
  simp only [computedAssignments, forall_mem_append]
  refine ⟨⟨⟨?placement, ?reservation⟩, ?maintenance⟩, ?dws⟩
  case placement =>
    unfold placementAssignments
    split
    · split <;> simp [computedPaths]
    · simp
  case reservation =>
    unfold reservationAssignments
    split
    · split_ifs <;> simp [computedPaths, Json.isObj]
    · simp
  case maintenance =>
    unfold maintenanceAssignments
    split
    · split <;> simp [computedPaths]
    · simp
  case dws => split <;> simp [dwsAssignments, computedPaths]

theorem assignments_paths (hls : labelsAssignments plk template labels = some ls) :
    ∀ w ∈ ls ++ computedAssignments plk nodeset placementGroup jobId,
      w.1 ∈ builderPaths ∧ (w.1 = ["reservationAffinity"] → w.2.isObj = true) := by
  simp only [forall_mem_append]
  refine ⟨fun w hw => ?_, fun w hw => ?_⟩
  · rcases labelsAssignments_paths hls w hw with h | h <;> simp [h, builderPaths]
  · obtain ⟨hp, hobj⟩ := computedAssignments_paths w hw
    exact ⟨mem_cons_of_mem _ (mem_cons_of_mem _ hp), hobj⟩

theorem setPaths_assignments_isSome (hls : labelsAssignments plk template labels = some ls) :
    ∃ p₀, (Json.obj []).setPaths (ls ++ computedAssignments plk nodeset placementGroup jobId) =
      some p₀ ∧ p₀.isObj = true := by
  have hpaths : ∀ w ∈ ls ++ computedAssignments plk nodeset placementGroup jobId, _ :=
    assignments_paths hls
  obtain ⟨p₀, hp₀⟩ := @Json.setPaths_isSome (.obj []) _ builderDicts
    (by simp [builderDicts, Json.getPath, Json.get?, Json.isObj])
    (fun w hw r hr hne => builderPaths_inits _ (hpaths w hw).1 r ((mem_inits _ _).mpr hr) hne)
    fun w hw r hr hwr c hc => by
      obtain ⟨hra, rfl⟩ := builderPaths_prefix_builderDicts _ (hpaths w hw).1 r hr hwr
      simp only [drop_length, Json.getPath_nil, Option.some.injEq] at hc
      exact hc ▸ (hpaths w hw).2 hra
  refine ⟨p₀, hp₀, @Json.isObj_setPaths (.obj []) p₀ _ rfl (fun w hw hnil => ?_) hp₀⟩
  have := (hpaths w hw).1
  simp [hnil, builderPaths, computedPaths] at this

theorem getPath_instanceProperties_of_assignments
    (h : instanceProperties lkp plk nodeset model placementGroup labels jobId = some props)
    (hls : labelsAssignments plk (lkp.nodeNodeset model).instanceTemplate labels = some ls)
    {k : String} {ks : List String} (ho : nodeset.override k = none)
    (hq : ∀ p ∈ builderPaths, k :: ks <+: p → k :: ks = p) :
    props.getPath (k :: ks) = ((ls ++ computedAssignments plk nodeset placementGroup jobId).reverse.find?
      (·.1 <+: k :: ks)).bind fun w => w.2.getPath ((k :: ks).drop w.1.length) := by
  obtain ⟨ls', p₀, hls', hp₀, hupd⟩ := instanceProperties_some h
  obtain rfl := Option.some.inj (hls.symm.trans hls')
  have hpaths : ∀ w ∈ ls ++ computedAssignments plk nodeset placementGroup jobId, _ :=
    assignments_paths hls
  have hover : props.getPath (k :: ks) = p₀.getPath (k :: ks) := by
    simp only [Json.getPath, Json.get?_update_of_not_mem hupd (not_mem_of_override_eq_none ho)]
  rw [hover, Json.getPath_setPaths hp₀ fun w hw hp => hq _ (hpaths w hw).1 hp]
  cases (ls ++ computedAssignments plk nodeset placementGroup jobId).reverse.find? (·.1 <+: k :: ks) <;>
    simp [Json.getPath, Json.get?]

theorem getPath_instanceProperties
    (h : instanceProperties lkp plk nodeset model placementGroup labels jobId = some props)
    {k : String} {ks : List String} (ho : nodeset.override k = none) (hk : k ≠ "labels" ∧ k ≠ "disks")
    (hq : ∀ p ∈ builderPaths, k :: ks <+: p → k :: ks = p) :
    props.getPath (k :: ks) = ((computedAssignments plk nodeset placementGroup jobId).reverse.find?
      (·.1 <+: k :: ks)).bind fun w => w.2.getPath ((k :: ks).drop w.1.length) := by
  obtain ⟨ls, -, hls, -, -⟩ := instanceProperties_some h
  have hls' : ls.reverse.find? (·.1 <+: k :: ks) = none := find?_eq_none.mpr fun w hw => by
    rcases labelsAssignments_paths hls w (mem_reverse.mp hw) with h | h <;>
      simp [h, hk.1.symm, hk.2.symm]
  rw [getPath_instanceProperties_of_assignments h hls ho hq, reverse_append, find?_append, hls',
    Option.or_none]

theorem find?_reverse_eq_none_of_paths {ws : List Assignment} {q : List String}
    (ps : List (List String)) (hw : ∀ w ∈ ws, w.1 ∈ ps) (hq : ∀ p ∈ ps, ¬ p <+: q) :
    ws.reverse.find? (·.1 <+: q) = none :=
  find?_eq_none.mpr fun w hw' h => hq _ (hw w (mem_reverse.mp hw')) (by simpa using h)

theorem find?_placementAssignments_eq_none {q : List String}
    (hq : ∀ p ∈ [["scheduling", "onHostMaintenance"], ["resourcePolicies"]], ¬ p <+: q) :
    (placementAssignments placementGroup).reverse.find? (·.1 <+: q) = none := by
  refine find?_reverse_eq_none_of_paths _ ?_ hq
  unfold placementAssignments
  split
  · split <;> simp
  · simp

theorem find?_reservationAssignments_eq_none {universeDomain : String}
    {reservation : Option Reservation} {q : List String}
    (hq : ∀ p ∈ [["reservationAffinity"], ["scheduling", "provisioning_model"],
      ["scheduling", "onHostMaintenance"], ["resourcePolicies"]], ¬ p <+: q) :
    (reservationAssignments universeDomain reservation).reverse.find? (·.1 <+: q) = none := by
  refine find?_reverse_eq_none_of_paths _ ?_ hq
  unfold reservationAssignments
  split
  · split_ifs <;> simp
  · simp

theorem find?_maintenanceAssignments_eq_none {maintenanceInterval : Option String} {q : List String}
    (hq : ∀ p ∈ [["scheduling", "maintenanceInterval"]], ¬ p <+: q) :
    (maintenanceAssignments maintenanceInterval).reverse.find? (·.1 <+: q) = none := by
  refine find?_reverse_eq_none_of_paths _ ?_ hq
  unfold maintenanceAssignments
  split
  · split <;> simp
  · simp

theorem find?_computedAssignments_eq_none {q : List String} (hq : ∀ p ∈ computedPaths, ¬ p <+: q) :
    (computedAssignments plk nodeset placementGroup jobId).reverse.find? (·.1 <+: q) = none :=
  find?_eq_none.mpr fun w hw h => hq _ (computedAssignments_paths w (mem_reverse.mp hw)).1 (by simpa using h)

theorem labelsAssignments_eq_none_iff : labelsAssignments plk template labels = none ↔
    ∃ ls, labels = some ls ∧ ls ≠ [] ∧ ∃ disk ∈ (plk.templateInfo template).disks, labellable disk = false := by
  rcases labels with _ | _ | ⟨l, ls⟩
  · simp [labelsAssignments]
  · simp [labelsAssignments]
  · have key : ∀ disk, labelDisk (l :: ls) disk = none ↔ labellable disk = false :=
      fun disk => by rw [← labelDisk_isSome (l :: ls) disk]; cases labelDisk (l :: ls) disk <;> simp
    rw [labelsAssignments_of_ne_nil (cons_ne_nil l ls), Option.map_eq_none', mapM_eq_none_iff]
    simp [key]

theorem lastValue_append (a b : List (String × Json)) (k : String) :
    lastValue (a ++ b) k = (lastValue b k).or (lastValue a k) := by
  simp only [lastValue, reverse_append, find?_append]
  cases b.reverse.find? (·.1 = k) <;> rfl

theorem get?_obj_ofList (l : List (String × Json)) (k : String) :
    (Json.obj (PyDict.ofList l).entries).get? k = lastValue l k :=
  PyDict.get?_ofList l k

theorem labels_getPath_instanceProperties
    (h : instanceProperties lkp plk nodeset model placementGroup labels jobId = some props)
    {ls : List (String × Json)} (hl : labels = some ls) (hne : ls ≠ [])
    (ho : nodeset.override "labels" = none) (k : String) :
    props.getPath ["labels", k] = (lastValue ls k).or
      (lastValue (labelsJson (plk.templateInfo (lkp.nodeNodeset model).instanceTemplate).labels) k) := by
  obtain ⟨ls', -, hls, -, -⟩ := instanceProperties_some h
  subst hl
  obtain ⟨disks, -, rfl⟩ := Option.map_eq_some'.mp ((labelsAssignments_of_ne_nil hne).symm.trans hls)
  rw [getPath_instanceProperties_of_assignments h hls ho (by simp [builderPaths, computedPaths]),
    reverse_append, find?_append, find?_computedAssignments_eq_none (by simp [computedPaths]),
    Option.none_or]
  simp [get?_obj_ofList, lastValue_append]

theorem disks_instanceProperties
    (h : instanceProperties lkp plk nodeset model placementGroup labels jobId = some props)
    {ls : List (String × Json)} (hl : labels = some ls) (hne : ls ≠ [])
    (hleaves : ∀ p ∈ ls, p.2.isObj = false) (ho : nodeset.override "disks" = none) :
    ∃ disks, props.get? "disks" = some (.arr disks) ∧ ∀ d ∈ disks,
      isLocalSsd (d.getPath ["initializeParams", "diskType"]) = true ∨
        ∀ k ∈ ls.map Prod.fst, d.getPath ["initializeParams", "labels", k] = lastValue ls k := by
  obtain ⟨ls', -, hls, -, -⟩ := instanceProperties_some h
  subst hl
  obtain ⟨disks, hdisks, rfl⟩ :=
    Option.map_eq_some'.mp ((labelsAssignments_of_ne_nil hne).symm.trans hls)
  refine ⟨disks, ?_, fun d hd => ?_⟩
  · rw [← Json.getPath_singleton, getPath_instanceProperties_of_assignments h hls ho (by decide),
      reverse_append, find?_append, find?_computedAssignments_eq_none (by decide)]
    simp
  · obtain ⟨disk, -, hdisk⟩ := exists_of_mem_mapM hdisks d hd
    exact labelDisk_labels hleaves hdisk

def exclusiveConfig : Lookup where
  slurmClusterName := "c"
  scontrol := "scontrol"
  nodePrefix _ := "c-n"
  prefixNodeset _ := "n"
  nodeset _ := ⟨some "tmpl", true, "m", ["z"], [], none⟩
  nodesetTpu _ := none
  partitions _ := ⟨["n"], [], true⟩
  nodeRegion _ := "r"

def flexNodeset : NodesetProperties :=
  ⟨some "PERIODIC", ⟨true, 3600, true⟩, some [("canIpForward", .str "true")]⟩

def denseLookup : PropertiesLookup where
  nodesetProperties _ := flexNodeset
  nodesetReservation _ := some ⟨"res-1", some "DENSE", ["compact-1"]⟩
  templateInfo _ := ⟨[("env", "prod")],
    [.obj [("initializeParams", .obj [("diskType", .str "pd-ssd")])],
      .obj [("initializeParams", .obj [("diskType", .str "local-ssd")])]]⟩
  job _ := some ⟨some 7200⟩
  universeDomain := "googleapis.com"

theorem instanceProperties_isSome (hls : labelsAssignments plk (lkp.nodeNodeset model).instanceTemplate labels = some ls) :
    ∃ props, instanceProperties lkp plk nodeset model placementGroup labels jobId = some props := by
  obtain ⟨p₀, hp₀, hobj⟩ : ∃ p₀, (Json.obj []).setPaths
      (ls ++ computedAssignments plk nodeset placementGroup jobId) = some p₀ ∧ p₀.isObj = true :=
    setPaths_assignments_isSome hls
  obtain ⟨props, hprops, -⟩ := Json.update_isSome hobj (nodeset.instanceProperties.getD [])
  exact ⟨props, by simp [instanceProperties_eq, hls, hp₀, hprops]⟩

/-- The builder raises exactly when it is given labels and a disk of the template cannot be
labelled; the blocks after the labels and the override never raise. -/
theorem instanceProperties_eq_none_iff :
    instanceProperties lkp plk nodeset model placementGroup labels jobId = none ↔
      ∃ ls, labels = some ls ∧ ls ≠ [] ∧
        ∃ disk ∈ (plk.templateInfo (lkp.nodeNodeset model).instanceTemplate).disks,
          labellable disk = false := by
  rw [← labelsAssignments_eq_none_iff]
  cases hls : labelsAssignments plk (lkp.nodeNodeset model).instanceTemplate labels with
  | none => simp [instanceProperties_eq, hls]
  | some ls =>
    obtain ⟨props, hprops⟩ : ∃ props, instanceProperties lkp plk nodeset model placementGroup labels jobId =
      some props := instanceProperties_isSome hls
    simp [hprops]

/-- The resource policies: a reservation's own policies, none when it has none, in place of the
placement group. -/
theorem resourcePolicies_instanceProperties
    (h : instanceProperties lkp plk nodeset model placementGroup labels jobId = some props)
    (ho : nodeset.override "resourcePolicies" = none) :
    props.get? "resourcePolicies" = match plk.nodesetReservation nodeset with
      | some reservation => some (.arr (reservation.policies.map .str))
      | none => (placementGroup.filter (!·.isEmpty)).map fun pg => .arr [.str pg] := by
  rw [← Json.getPath_singleton, getPath_instanceProperties h ho (by decide) (by decide),
    computedAssignments]
  clear h ho
  simp (disch := decide) only [reverse_append, find?_append, find?_maintenanceAssignments_eq_none]
  cases placementGroup <;> cases plk.nodesetReservation nodeset <;>
    simp [placementAssignments, reservationAssignments, dwsAssignments,
      apply_ite reverse, apply_ite (find? _)] <;>
    split_ifs <;> simp_all [Option.filter]

theorem resourcePolicies_dense_reservation :
    ∃ props, instanceProperties exclusiveConfig denseLookup flexNodeset "c-n-0" (some "pg-1") none
        (some 7) = some props ∧
      props.get? "resourcePolicies" = some (.arr [.str "compact-1"]) :=
  ⟨_, rfl, @resourcePolicies_instanceProperties exclusiveConfig denseLookup flexNodeset "c-n-0"
    (some "pg-1") none (some 7) _ rfl rfl⟩

/-- Instances terminate on host maintenance when a placement group, a reservation with policies
or flexible start asks for it; an override of `scheduling` replaces the whole dict. -/
theorem onHostMaintenance_instanceProperties
    (h : instanceProperties lkp plk nodeset model placementGroup labels jobId = some props)
    (ho : nodeset.override "scheduling" = none) :
    props.getPath ["scheduling", "onHostMaintenance"] =
      if truthy placementGroup || (plk.nodesetReservation nodeset).any (!·.policies.isEmpty) ||
          nodeset.dwsFlex.enabled then some (.str "TERMINATE") else none := by
  rw [getPath_instanceProperties h ho (by decide) (by decide), computedAssignments]
  clear h ho
  simp (disch := decide) only [reverse_append, find?_append, find?_maintenanceAssignments_eq_none]
  cases placementGroup <;> cases plk.nodesetReservation nodeset <;>
    simp [placementAssignments, reservationAssignments, dwsAssignments, truthy, apply_ite reverse,
      apply_ite (find? _)] <;>
    split_ifs <;> simp_all

theorem onHostMaintenance_placementGroup :
    ∃ props, instanceProperties exclusiveConfig denseLookup flexNodeset "c-n-0" (some "pg-1") none
        (some 7) = some props ∧
      props.getPath ["scheduling", "onHostMaintenance"] = some (.str "TERMINATE") :=
  ⟨_, rfl, @onHostMaintenance_instanceProperties exclusiveConfig denseLookup flexNodeset "c-n-0"
    (some "pg-1") none (some 7) _ rfl rfl⟩

/-- Flexible start consumes no reservation even when the nodeset has one, whose name stays in the
affinity's values; otherwise a reservation is consumed specifically. -/
theorem reservationAffinity_instanceProperties
    (h : instanceProperties lkp plk nodeset model placementGroup labels jobId = some props)
    (ho : nodeset.override "reservationAffinity" = none) :
    props.getPath ["reservationAffinity", "consumeReservationType"] =
        (if nodeset.dwsFlex.enabled then some (.str "NO_RESERVATION")
          else (plk.nodesetReservation nodeset).map fun _ => .str "SPECIFIC_RESERVATION") ∧
      props.getPath ["reservationAffinity", "values"] =
        (plk.nodesetReservation nodeset).map fun reservation => .arr [.str reservation.bulkInsertName] := by
  rw [getPath_instanceProperties h ho (by decide) (by decide),
    getPath_instanceProperties h ho (by decide) (by decide), computedAssignments]
  clear h ho
  simp (disch := decide) only [reverse_append, find?_append, find?_maintenanceAssignments_eq_none,
    find?_placementAssignments_eq_none]
  cases plk.nodesetReservation nodeset <;>
    simp [reservationAssignments, dwsAssignments, apply_ite reverse, apply_ite (find? _)] <;>
    split_ifs <;> simp_all [Json.get?]

theorem reservationAffinity_flex_with_reservation :
    ∃ props, instanceProperties exclusiveConfig denseLookup flexNodeset "c-n-0" none none
        (some 7) = some props ∧
      props.getPath ["reservationAffinity", "consumeReservationType"] = some (.str "NO_RESERVATION") ∧
      props.getPath ["reservationAffinity", "values"] = some (.arr [.str "res-1"]) :=
  ⟨_, rfl, @reservationAffinity_instanceProperties exclusiveConfig denseLookup flexNodeset "c-n-0"
    none none (some 7) _ rfl rfl⟩

/-- On a job-exclusive partition the request labels its instances with the job id, over any
template label of that key, and so every disk of theirs that is not a local SSD. -/
theorem bodyInstanceProperties_job_labels {nodes : List String} {part : String} {j : Nat}
    (hex : (lkp.partitions part).enableJobExclusive = true)
    (h : bodyInstanceProperties lkp plk (model :: nodes) (some part) placementGroup (some j) = some props)
    (hl : (plk.nodesetProperties (lkp.nodeNodesetName model)).override "labels" = none)
    (hd : (plk.nodesetProperties (lkp.nodeNodesetName model)).override "disks" = none) :
    props.getPath ["labels", "slurm_job_id"] = some (.num j) ∧
      ∃ disks, props.get? "disks" = some (.arr disks) ∧ ∀ d ∈ disks,
        isLocalSsd (d.getPath ["initializeParams", "diskType"]) = true ∨
          d.getPath ["initializeParams", "labels", "slurm_job_id"] = some (.num j) := by
  have hjob : jobLabels lkp (some part) (some j) = some [("slurm_job_id", .num j)] := by
    simp [jobLabels, hex]
  simp only [bodyInstanceProperties] at h
  refine ⟨?_, ?_⟩
  · rw [labels_getPath_instanceProperties h hjob (cons_ne_nil _ _) hl]
    simp [lastValue]
  · obtain ⟨disks, hdisks, hd'⟩ :=
      disks_instanceProperties h hjob (cons_ne_nil _ _) (by simp [Json.isObj]) hd
    refine ⟨disks, hdisks, fun d hd => (hd' d hd).imp_right fun hk => ?_⟩
    rw [hk "slurm_job_id" (by simp)]
    simp [lastValue]

theorem bodyInstanceProperties_job_labels_dense :
    (exclusiveConfig.partitions "p").enableJobExclusive = true ∧
      ∃ props, bodyInstanceProperties exclusiveConfig denseLookup ["c-n-0"] (some "p") none (some 7) =
          some props ∧
        props.getPath ["labels", "slurm_job_id"] = some (.num 7) ∧
        ∃ disks, props.get? "disks" = some (.arr disks) ∧ ∀ d ∈ disks,
          isLocalSsd (d.getPath ["initializeParams", "diskType"]) = true ∨
            d.getPath ["initializeParams", "labels", "slurm_job_id"] = some (.num 7) :=
  ⟨rfl, _, rfl, @bodyInstanceProperties_job_labels exclusiveConfig denseLookup "c-n-0" none _ [] "p" 7
    rfl rfl rfl rfl⟩
end

end SlurmResume
