import TapeC.Text.Split
import TapeC.Text.Utf8

/-!
# Paths

A path is any sequence of bytes; it need not be text. It is shown by its lossy reading, and it is
resolved name by name, as split at the slashes. Empty names are passed over, and a slash at the
end asks for a directory, which is what the name `.` after it asks for too.
-/

namespace TapeC

structure Path where
  bytes : Bytes
deriving DecidableEq, Inhabited

namespace Path

def ofText (s : String) : Path := ⟨Utf8.encode s⟩

/-- The path as it is shown. -/
def display (p : Path) : String := Utf8.decodeLossy p.bytes

/-! ## The extension of the generated program -/

def cExtension : String := ".c"

/-- The path is shown with the extension `.c`. A name that is nothing but the extension counts. -/
def hasCExtension (p : Path) : Bool := cExtension.toList.isSuffixOf p.display.toList

/-- The path with the extension `.c`, which is appended if the path is shown without it. -/
def withCExtension (p : Path) : Path :=
  if p.hasCExtension then p else ⟨p.bytes ++ Utf8.encode cExtension⟩

/-! ## Names -/

def slash : UInt8 := 0x2F

/-- The name that stands for the directory itself. -/
def here : Bytes := [0x2E]

/-- The name that stands for the directory above. -/
def above : Bytes := [0x2E, 0x2E]

def isAbsolute (p : Path) : Bool := p.bytes.head? == some slash

/-- The names that lead to the path's place, from the first on. -/
def names (p : Path) : List Bytes :=
  (Text.split slash p.bytes).filter (· ≠ []) ++ if p.bytes.getLast? = some slash then [here] else []

/-- Names with slashes between them. -/
def ofNames (names : List Bytes) : Path := ⟨[slash].intercalate names⟩

end Path

end TapeC
