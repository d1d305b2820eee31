import SlurmResume.Config
import SlurmResume.Python.Shlex
import SlurmResume.Python.Format

/-! The scheduler commands `down_nodes_notify_jobs` runs to quarantine nodes, which jobs it
notifies, and what the POSIX lexer of `util.run` makes of each command line. A command carries
the reason as `shlex.quote` writes it; its line is the f-string after `lookup().scontrol`, and
what `run` executes is that line split by `shlex.split`. The job commands wrap the quoted reason
in a second pair of single quotes. -/

namespace SlurmResume
open List

inductive ScontrolCmd
  | updateNodes (nodelist reason_quoted : String)
  | updateJob (jobId : Nat) (reason_quoted : String)
  | notify (jobId : Nat) (reason_quoted : String)
deriving DecidableEq

namespace ScontrolCmd

def render (scontrol : String) : ScontrolCmd → String
  | updateNodes nodelist rq => scontrol ++ " update nodename=" ++ nodelist ++ " state=down reason=" ++ rq
  | updateJob jobId rq =>
    scontrol ++ " update jobid=" ++ toString jobId ++ " admincomment=" ++ Shlex.sqStr ++ rq ++ Shlex.sqStr
  | notify jobId rq => scontrol ++ " notify " ++ toString jobId ++ " " ++ Shlex.sqStr ++ rq ++ Shlex.sqStr

def argv (scontrol : String) (cmd : ScontrolCmd) : Option (List String) :=
  Shlex.split (cmd.render scontrol)

end ScontrolCmd

def allocMeets (job : ResumeJobData) (nodes : List String) : Bool := job.nodesAlloc.any (· ∈ nodes)

def downNodesNotifyJobs (util : Util) (nodes : List String) (reason : String)
    (resume_data : Option ResumeData) : List ScontrolCmd :=
  let nodelist := util.toHostlistFast nodes
  let reason_quoted := Shlex.quote reason
  .updateNodes nodelist reason_quoted ::
    match resume_data with
    | none => []
    | some resume_data =>
      (resume_data.jobs.filter fun job => allocMeets job nodes).flatMap fun job =>
        [.updateJob job.jobId reason_quoted, .notify job.jobId reason_quoted]

section
variable {util : Util} {nodes : List String} {reason : String}

theorem allocMeets_iff {job : ResumeJobData} : allocMeets job nodes = true ↔ ∃ n ∈ job.nodesAlloc, n ∈ nodes := by
  simp [allocMeets]

theorem updateJob_mem_downNodesNotifyJobs {rd : ResumeData} {i : Nat} {rq : String} :
    .updateJob i rq ∈ downNodesNotifyJobs util nodes reason (some rd) ↔
      rq = Shlex.quote reason ∧ ∃ job ∈ rd.jobs, job.jobId = i ∧ allocMeets job nodes = true := by
  simp only [downNodesNotifyJobs, mem_cons, reduceCtorEq, false_or, mem_flatMap, mem_filter]
  constructor
  · rintro ⟨job, ⟨hj, hm⟩, h⟩
    simp only [mem_cons, ScontrolCmd.updateJob.injEq, reduceCtorEq, mem_nil_iff, or_false] at h
    exact ⟨h.2, job, hj, h.1.symm, hm⟩
  · rintro ⟨rfl, job, hj, rfl, hm⟩
    exact ⟨job, ⟨hj, hm⟩, by simp⟩

theorem notify_mem_downNodesNotifyJobs {rd : ResumeData} {i : Nat} {rq : String} :
    .notify i rq ∈ downNodesNotifyJobs util nodes reason (some rd) ↔
      rq = Shlex.quote reason ∧ ∃ job ∈ rd.jobs, job.jobId = i ∧ allocMeets job nodes = true := by
  simp only [downNodesNotifyJobs, mem_cons, reduceCtorEq, false_or, mem_flatMap, mem_filter]
  constructor
  · rintro ⟨job, ⟨hj, hm⟩, h⟩
    simp only [mem_cons, ScontrolCmd.notify.injEq, reduceCtorEq, mem_nil_iff, false_or, or_false] at h
    exact ⟨h.2, job, hj, h.1.symm, hm⟩
  · rintro ⟨rfl, job, hj, rfl, hm⟩
    exact ⟨job, ⟨hj, hm⟩, by simp⟩

theorem downNodesNotifyJobs_none :
    downNodesNotifyJobs util nodes reason none =
      [.updateNodes (util.toHostlistFast nodes) (Shlex.quote reason)] := rfl

end

/-- The node command: the client, its verb and node list, and `reason=` with the reason read
back whole, for every reason. -/
theorem argv_updateNodes {scontrol nodelist : String} (hsc : Shlex.Plain scontrol.toList)
    (hsc0 : scontrol.toList ≠ []) (hnl : Shlex.Plain nodelist.toList) (reason : String) :
    (ScontrolCmd.updateNodes nodelist (Shlex.quote reason)).argv scontrol =
      some [scontrol, "update", "nodename=" ++ nodelist, "state=down", "reason=" ++ reason] := by
  have hws : ∀ w ∈ [scontrol, "update", "nodename=" ++ nodelist, "state=down"],
      Shlex.Plain w.toList ∧ w.toList ≠ [] := by
    simp only [mem_cons, mem_nil_iff, or_false, forall_eq_or_imp, forall_eq]
    refine ⟨⟨hsc, hsc0⟩, by decide, ⟨?_, by simp⟩, by decide⟩
    exact Shlex.plain_append.mpr ⟨by decide, hnl⟩
  have := @Shlex.splitFrom_words_quoteChars _ "reason=" reason hws (by decide) (by decide)
  rw [ScontrolCmd.argv, Shlex.split]
  refine Eq.trans ?_ this
  congr 1
  simp [ScontrolCmd.render, Shlex.quote, String.toList]

theorem argv_updateNodes_quoted_reason :
    Shlex.Plain "scontrol".toList ∧ "scontrol".toList ≠ [] ∧ Shlex.Plain "c-a-[0-1]".toList ∧
    (ScontrolCmd.updateNodes "c-a-[0-1]" (Shlex.quote ("GCP Error: it" ++ Shlex.sqStr ++ "s gone"))).argv
        "scontrol" =
      some ["scontrol", "update", "nodename=c-a-[0-1]", "state=down",
        "reason=" ++ ("GCP Error: it" ++ Shlex.sqStr ++ "s gone")] :=
  ⟨by decide, by decide, by decide, argv_updateNodes (by decide) (by decide) (by decide) _⟩

theorem unquoted_toString (n : Nat) : Shlex.Unquoted (toString n).data := fun _ hc =>
  ⟨fun h => not_mem_toString (by decide) (h ▸ hc), fun h => not_mem_toString (by decide) (h ▸ hc),
    fun h => not_mem_toString (by decide) (h ▸ hc)⟩

theorem argv_isSome_of_unquoted {scontrol : String} {util : Util} {nodes : List String} {reason : String}
    {resume_data : Option ResumeData} (hsc : Shlex.Unquoted scontrol.data)
    (hnl : Shlex.Unquoted (util.toHostlistFast nodes).data) (hr : Shlex.Unquoted reason.data) :
    ∀ cmd ∈ downNodesNotifyJobs util nodes reason resume_data, (cmd.argv scontrol).isSome := by
  have hjob : ∀ (w w' : String) (i : Nat), Shlex.Unquoted w.data → Shlex.Unquoted w'.data →
      (Shlex.splitFrom ((scontrol ++ w ++ toString i ++ w').data ++
        (Shlex.sq :: Shlex.quoteChars reason.data ++ [Shlex.sq])) .blank [] false).isSome := fun w w' i hw hw' =>
    (Shlex.Lexes.unquoted_append (by simp only [String.data_append, Shlex.unquoted_append]; exact
      ⟨⟨⟨hsc, hw⟩, unquoted_toString i⟩, hw'⟩) (Shlex.lexes_sq_quoteChars_sq hr)).1
  have hnode : Shlex.Unquoted (scontrol ++ " update nodename=" ++ util.toHostlistFast nodes ++
      " state=down reason=").data := by
    simp only [String.data_append, Shlex.unquoted_append]
    exact ⟨⟨⟨hsc, by decide⟩, hnl⟩, by decide⟩
  intro cmd hcmd
  simp only [downNodesNotifyJobs, mem_cons] at hcmd
  rcases hcmd with rfl | hcmd
  · simpa [ScontrolCmd.argv, Shlex.split, ScontrolCmd.render, String.data_append] using
      (Shlex.Lexes.unquoted_append hnode (Shlex.lexes_quoteChars hr)).1
  · cases resume_data with
    | none => cases hcmd
    | some rd =>
      obtain ⟨job, -, hj⟩ := mem_flatMap.mp hcmd
      simp only [mem_cons, mem_nil_iff, or_false] at hj
      rcases hj with rfl | rfl
      · simpa [ScontrolCmd.argv, Shlex.split, ScontrolCmd.render, String.data_append] using
          hjob " update jobid=" " admincomment=" job.jobId (by decide) (by decide)
      · simpa [ScontrolCmd.argv, Shlex.split, ScontrolCmd.render, String.data_append] using
          hjob " notify " " " job.jobId (by decide) (by decide)

def hostUtil : Util where
  toHostlistFast := fun nodes => ",".intercalate nodes
  trimSelfLink := fun link => String.mk (link.toList.reverse.takeWhile (· ≠ '/')).reverse

/-- The reason is single-quoted twice in the job commands, so a reason with a blank splits into
several words of the job update and the notify: no word is the reason, and it is not the last
word of the notify. -/
theorem downNodesNotifyJobs_splits_reason :
    (downNodesNotifyJobs hostUtil ["c-a-0"] "GCP Error: x" (some ⟨[⟨1, "p", ["c-a-0"]⟩]⟩)).map
        (·.argv "scontrol") =
      [some ["scontrol", "update", "nodename=c-a-0", "state=down", "reason=GCP Error: x"],
       some ["scontrol", "update", "jobid=1", "admincomment=GCP", "Error:", "x"],
       some ["scontrol", "notify", "1", "GCP", "Error:", "x"]] := by
  rfl

end SlurmResume
