import TapeC.Host.Error
import TapeC.Host.Path
import TapeC.Host.Utility

/-!
# File trees

A file tree says what lies at each place, a place being the list of names that lead to it from
the root. Paths are resolved by the rules of the operating system: each name is looked up in a
directory, `.` stays there and `..` goes up, and only the last name may be free. `put` is the one
operation that changes a tree; `node?_put` says that it changes one place.
-/

namespace TapeC

/-- The names that lead from the root to a place. -/
abbrev Place := List Bytes

inductive Node where
  | directory
  | file (content : Bytes) (executable : Bool)
  /-- a program that comes with the system -/
  | utility (u : Utility)
deriving DecidableEq

/-- What lies where, and the place that relative paths start from. -/
structure Tree where
  base : Place
  nodes : List (Place × Node)

namespace Tree

/-- What lies at a place. The root is always there. -/
def node? (t : Tree) (place : Place) : Option Node :=
  if place = [] then some .directory else t.nodes.lookup place

/-- Puts a node at a place, instead of what lay there. -/
def put (t : Tree) (place : Place) (node : Node) : Tree :=
  { t with nodes := (place, node) :: t.nodes.filter (·.1 != place) }

theorem lookup_filter_bne {α β : Type} [BEq α] [LawfulBEq α] {a b : α} (h : a ≠ b)
    (xs : List (α × β)) : (xs.filter (·.1 != b)).lookup a = xs.lookup a := by
  induction xs with
  | nil => rfl
  | cons x xs ih =>
    obtain ⟨k, v⟩ := x
    by_cases hk : k = b
    · subst hk
      have hak : (a == k) = false := beq_false_of_ne h
      simp [List.lookup_cons, hak, ih]
    · have hkb : (k != b) = true := bne_iff_ne.2 hk
      simp only [List.filter_cons, hkb, ite_true, List.lookup_cons, ih]

/-- A node is put at one place and nowhere else. -/
theorem node?_put {t : Tree} {place : Place} (h : place ≠ []) (node : Node) (other : Place) :
    (t.put place node).node? other = if other = place then some node else t.node? other := by
  unfold node? put
  by_cases ho : other = place
  · subst ho
    simp [h]
  · have hop : (other == place) = false := beq_false_of_ne ho
    simp only [List.lookup_cons, hop, lookup_filter_bne ho, if_neg ho]

/-! ## Resolving paths -/

/-- The greatest number of bytes in a name. -/
def maxName : Nat := 255

/-- The greatest number of bytes in a path. -/
def maxPath : Nat := 4095

/-- The place that a name leads to. Only a directory has names in it. -/
def enter (t : Tree) (place : Place) (name : Bytes) : Except HostError Place :=
  match t.node? place with
  | none => .error .notFound
  | some .directory =>
    if name = Path.here then .ok place
    else if name = Path.above then .ok place.dropLast
    else if maxName < name.length then .error .nameTooLong
    else .ok (place ++ [name])
  | some _ => .error .notADirectory

/-- The place that a path leads to. There may be nothing at it yet, but it is in a directory. -/
def resolve (t : Tree) (p : Path) : Except HostError Place :=
  if (0 : UInt8) ∈ p.bytes then .error .zeroInPath
  else if maxPath < p.bytes.length then .error .nameTooLong
  else if p.bytes = [] then .error .notFound
  else p.names.foldlM t.enter (if p.isAbsolute then [] else t.base)

/-! ## Reading and writing -/

/-- The bytes of the file at a path. -/
def read (t : Tree) (p : Path) : Except HostError Bytes := do
  match t.node? (← t.resolve p) with
  | none => .error .notFound
  | some .directory => .error .isADirectory
  | some (.file content _) => .ok content
  | some (.utility _) => .ok Utility.image

/-- The place that a write to a path goes to: that of a file, or a free one. -/
def target (t : Tree) (p : Path) : Except HostError Place := do
  let place ← t.resolve p
  match t.node? place with
  | some .directory => .error .isADirectory
  | _ => .ok place

/-- The node that a write leaves at a place: the content is replaced as a whole, and a file that
was there keeps its permission. -/
def written (t : Tree) (place : Place) (content : Bytes) : Node :=
  match t.node? place with
  | some (.file _ executable) => .file content executable
  | _ => .file content false

/-- Writes a file, as a whole or, where its path cannot be opened, not at all. -/
def write (t : Tree) (p : Path) (content : Bytes) : Except HostError Tree := do
  let place ← t.target p
  .ok (t.put place (t.written place content))

/-- Makes what lies at a place a file, if it is none, and writes after its content. -/
def append (t : Tree) (place : Place) (content : Bytes) : Tree :=
  let before : Bytes :=
    match t.node? place with
    | some (.file before _) => before
    | _ => []
  t.put place (t.written place (before ++ content))

/-! ## Building and comparing trees -/

/-- The place that names lead to from another one, whatever lies on the way. -/
def placeFrom (place : Place) (names : List Bytes) : Place :=
  names.foldl (fun p name =>
    if name = Path.here then p else if name = Path.above then p.dropLast else p ++ [name]) place

/-- Makes the directories that lead from the base to a place, and the node at it. -/
def plant (t : Tree) (names : List Bytes) (node : Node) : Tree :=
  let place := placeFrom t.base names
  let parents := (List.range place.length).tail.map place.take
  (parents.foldl (fun t d => if t.node? d = none then t.put d .directory else t) t).put place node

/-- The place of a device. -/
def devicePlace (name : String) : Place := [Utf8.encode "dev", Utf8.encode name]

/-- Directories that a machine has besides those of its programs. -/
def usualDirectories : List String :=
  ["boot", "etc", "home", "lib", "media", "mnt", "opt", "proc", "root", "run", "sbin", "srv", "sys",
    "var"]

/-- The tree of a bare machine, with its programs and the empty standard input, and an empty
directory that relative paths start from. -/
def bare : Tree :=
  let root : Tree := ⟨[], []⟩
  let name (s : String) : Bytes := Utf8.encode s
  let usual := usualDirectories.foldl (fun t d => t.plant [name d] .directory) root
  let devices := ["null", "stdin"].foldl
    (fun t d => t.plant (devicePlace d) (.file [] false)) usual
  let tools := Utility.all.foldl
    (fun t u => (t.plant [name "bin", name u.name] (.utility u)).plant
      [name "usr", name "bin", name u.name] (.utility u)) devices
  { tools.plant [name "tmp", name "work"] .directory with base := [name "tmp", name "work"] }

/-- The names that lead from the base to a place below it. -/
def below? (t : Tree) (place : Place) : Option (List Bytes) :=
  if t.base.isPrefixOf place then some (place.drop t.base.length) else none

/-- Byte texts in the order of their first different byte; a beginning comes before the whole. -/
def bytesLe : Bytes → Bytes → Bool
  | [], _ => true
  | _ :: _, [] => false
  | a :: as, b :: bs => if a = b then bytesLe as bs else a < b

def content? : Node → Option Bytes
  | .file content _ => some content
  | _ => none

/-- The files below the base that are new or whose content differs from what it was in `before`,
by their names in order. -/
def changes (before after : Tree) : List (Path × Bytes) :=
  let changed := after.nodes.filterMap fun (place, node) => do
    let names ← after.below? place
    let content ← content? node
    if (before.node? place).bind content? = some content then none
    else some (Path.ofNames names, content)
  changed.mergeSort fun a b => bytesLe a.1.bytes b.1.bytes

end Tree

end TapeC
