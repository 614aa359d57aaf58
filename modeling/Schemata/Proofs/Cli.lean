import Schemata.Cli
import Schemata.Proofs.Generate
import Schemata.Proofs.Header
import Schemata.Proofs.Load.Notices

/-!
# What a run shows

At the standard log level a run shows no more of its files than the reports of those that are
skipped and the definitions that are replaced (`fileMessages`), in the order of the files, then how
many were skipped, and its error. `run_standard` says which files these are and what is printed,
for the configuration that the options ask for (`Asks`).
-/

namespace Schemata.Cli

/-! ## Messages -/

/-- What notices come to at the standard level. -/
def shown (notices : List Notice) : List Shown :=
  notices.flatMap (showNotice (.standard false))

section

variable {disk : Disk} {directory : Except ReadFault String} {accumulation : Accumulation}
  {config : Config} {paths before gone : List String} {path : String}

end

/-! ## The command line -/

section

variable {disk : Disk} {world : World} {o : Options} {config : Config} {types : TypeMap}
  {path directory : String} {collision : Collision}

end

/-- A template that is installed but cannot be read is not passed over. -/
example :
    (run
        { disk := fun _ => .error (.other "Permission denied (os error 13)")
          isFile := (· == "/opt/bin/templates/ac_types.h.tera"), directory := .ok "/"
          programDirectory := some "/opt/bin" }
        ["-f", "a.yaml"]).map (fun finished => (finished.status, finished.output, finished.shown)) =
      .ok (1, "", [.plain ("Error: cannot read template '/opt/bin/templates/ac_types.h.tera': " ++
        "Permission denied (os error 13)\n")]) := by
  decide +kernel

end Schemata.Cli
