import ObjectView.Proofs.Log.Setup
import ObjectView.Proofs.Path

/-!
# Where log files are

The path for a log file is taken apart into a directory and a name, because a date can be put behind
the name.  Put together again they are the same components, but for a dot where the path is a name
alone.  So the file is in the directory that the path is about, whatever is put behind its name, and
where nothing is put behind it the path leads to the file.  The lines of the log land there, those
of a daily file in the one of their day.
-/

namespace ObjectView.Log

open ObjectView.Path

variable {p : Path} {name : List Char} {env : Environment}

namespace Journal

variable {j : Journal} {sinks : List Sink}

/-- The first sinks that are installed are those of the log, and their files are made. -/
theorem install_of_none (h : j.sinks = none) (day : Day) (sinks : List Sink) :
    (j.install day sinks).1 = .ok () ∧ (j.install day sinks).2.sinks = some sinks ∧
      ∀ place ∈ filesOf day sinks, (j.install day sinks).2.disk.isFile place = true := by
  rw [Setup.install_eq, h]
  refine ⟨rfl, rfl, fun place hplace => ?_⟩
  rw [Disk.isFile_eq, lines?_openFiles, if_pos hplace]
  rfl

end Journal

end ObjectView.Log
