import TimingScript.Exit
import TimingScript.Settings.Mapping

/-! # Commands — jobs as they are run

    The settings of a job are the mapping that their document holds. -/

namespace TimingScript

/-- Carries out a job. -/
def Job.run (job : Job) (files : Files) : JobReport :=
  job.runWith Settings.read files

end TimingScript
