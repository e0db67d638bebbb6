import TapeC.Text.Utf8

/-!
# System programs

The programs that a bare machine comes with, as far as formatter scripts use them.
-/

namespace TapeC

inductive Utility where
  | shell
  | cat
  | head
  | wc
  | tr
  | printf
  | echo
  | succeed
  | fail
deriving DecidableEq

namespace Utility

def all : List Utility := [.shell, .cat, .head, .wc, .tr, .printf, .echo, .succeed, .fail]

def name : Utility → String
  | .shell => "sh"
  | .cat => "cat"
  | .head => "head"
  | .wc => "wc"
  | .tr => "tr"
  | .printf => "printf"
  | .echo => "echo"
  | .succeed => "true"
  | .fail => "false"

/-- What lies at the place of a program, up to the first byte that shows that it is no text. -/
def image : Bytes := [0x7F, 0x45, 0x4C, 0x46, 0xFF]

end Utility

end TapeC
