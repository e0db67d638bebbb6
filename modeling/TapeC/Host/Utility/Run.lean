import TapeC.Host.Utility.Cat
import TapeC.Host.Utility.Count
import TapeC.Host.Utility.Exchange
import TapeC.Host.Utility.Head
import TapeC.Host.Utility.Print

/-!
# What system programs do

The work of each program of the system but the shell, whose scripts are run elsewhere.
-/

namespace TapeC.Utility

/-- What a program does in its process. -/
def work : Utility → Running Nat
  | .cat => Cat.run
  | .head => Head.run
  | .wc => Count.run
  | .tr => Exchange.run
  | .printf => Print.runFormat
  | .echo => Print.runEcho
  | .succeed => return 0
  | .fail | .shell => return 1

/-- Runs a program in a process. -/
def run (u : Utility) (p : Process) (k : Kernel) : WaitStatus × Kernel :=
  let (code, k) := Running.finish u.work p k
  (.exited code, k)

end TapeC.Utility
