/-
# Smoke.Layers — the binary of a layered image, as the release check finds it

`finalBinary` reads the entries of each layer in turn, keeps the last binary that
a layer brings, and forgets it when a later layer hides it.  `changeOf` says what
an entry means in a stack of layers, so that `overlay` of the same entries is the
file system of the container.
-/
import InverterGateway.Theory.Fallible
import InverterGateway.Theory.Fields
import InverterGateway.Theory.Overlay

namespace InverterGateway.Smoke

open InverterGateway.Theory

set_option autoImplicit false

/-! ## The entries of a layer -/

/-- The type flag of an entry: `other` stands for links, devices and pipes. -/
inductive EntryKind where
  | regular
  | directory
  | other
  deriving DecidableEq

structure TarEntry where
  name : String
  kind : EntryKind
  size : Int
  mode : Nat
  sparse : Bool
  data : List UInt8
  deriving DecidableEq

/-- What is reported of a binary. -/
structure Binary where
  size : Int
  sha256 : String
  mode : Nat
  deriving DecidableEq

def target : String := "usr/local/bin/inverter-gateway"

def ancestors : List String := ["usr", "usr/local", "usr/local/bin"]

def maxNative : Nat := 128 * 1024 ^ 2

def maxRootfs : Nat := 1024 ^ 3

/-- `need`. -/
def need (ok : Bool) (message : String) : Except String Unit :=
  if ok then .ok () else .error message

/-! ## Names -/

/-- Every leading `./` removed. -/
def stripDots : List Char → List Char
  | '.' :: '/' :: rest => stripDots rest
  | cs => cs

/-- `str.rpartition`: what is before and after the last separator. -/
def rpartition (s : String) (c : Char) : String × String :=
  match Text.splitFirst c s.toList.reverse with
  | some (leaf, parent) => (String.ofList parent.reverse, String.ofList leaf.reverse)
  | none => ("", s)

/-- `safe_member`. -/
def safeMember (entry : TarEntry) : Except String String := do
  let name := String.ofList (stripDots entry.name.toList)
  let name := if entry.kind = .directory then Text.trimEndMatches name '/' else name
  need (name ≠ "" && !Text.startsWith name "/" && !Text.containsChar name (Char.ofNat 92) &&
    !Text.containsChar name (Char.ofNat 0) &&
    (Text.split name '/').all fun p => !(["", ".", ".."].contains p)) "Unsafe tar member"
  need (!entry.sparse) "Sparse tar entry rejected"
  return name

/-- `elf_header`. -/
def elfHeader (raw : List UInt8) : Except String Unit :=
  need (64 ≤ raw.length && raw.take 7 = [0x7f, 0x45, 0x4c, 0x46, 2, 1, 1] &&
    (raw.drop 18).take 2 = [0x3e, 0]) "Expected Linux amd64 ELF64"

/-! ## The scan -/

/-- What is known after some entries of a layer; `total` counts earlier layers too. -/
structure LayerScan where
  count : Nat
  seen : List String
  total : Nat
  replacement : Option Binary
  removesLower : Bool

section Scan

variable (sha : List UInt8 → String)

/-- The binary of an entry named as the target. -/
def targetBinary (e : TarEntry) : Except String Binary := do
  need (e.kind = .regular && 64 ≤ e.size && e.size ≤ maxNative)
    "Target binary must be bounded regular ELF"
  let data := e.data.take (maxNative + 1)
  need (data.length = e.size) "Truncated target binary"
  elfHeader data
  return ⟨e.size, sha data, e.mode⟩

/-- The path that a whiteout entry removes from lower layers. -/
def removedBy (parent leaf : String) : String :=
  if leaf = ".wh..wh..opq" then parent
  else (if parent = "" then "" else parent ++ "/") ++ String.ofList (leaf.toList.drop 4)

/-- One entry of a layer. -/
def scanEntry (acc : LayerScan) (e : TarEntry) : Except String LayerScan := do
  need (acc.count < 100000) "Too many layer entries"
  let acc := { acc with count := acc.count + 1 }
  if e.kind = .directory ∧ (e.name = "." ∨ e.name = "./") then return acc
  else do
    let n ← safeMember e
    need (!acc.seen.contains n) "Duplicate layer member"
    let acc := { acc with seen := n :: acc.seen, total := acc.total + e.size.toNat }
    need (acc.total ≤ maxRootfs) "Layer member bytes exceed bound"
    let (parent, leaf) := rpartition n '/'
    if Text.startsWith leaf ".wh." then do
      need (e.kind = .regular && e.size = 0) "Invalid whiteout entry"
      let removed := removedBy parent leaf
      if removed = target ∨ removed ∈ ancestors ∨ removed = "" then
        return { acc with removesLower := true }
      else return acc
    else do
      need (!(ancestors.contains n && e.kind ≠ .directory)) "Target ancestor is not a real directory"
      if n = target then do
        let binary ← targetBinary sha e
        return { acc with replacement := some binary }
      else return acc

def scanLayer (total : Nat) (layer : List TarEntry) : Except String LayerScan :=
  layer.foldlM (scanEntry sha) ⟨0, [], total, none, false⟩

/-- One layer: what it brings replaces the binary, and what it hides is forgotten. -/
def scanImage (acc : Option Binary × Nat) (layer : List TarEntry) :
    Except String (Option Binary × Nat) := do
  let scan ← scanLayer sha acc.2 layer
  let binary :=
    match scan.replacement with
    | some binary => some binary
    | none => if scan.removesLower then none else acc.1
  return (binary, scan.total)

/-- `final_binary`. -/
def finalBinary (layers : List (List TarEntry)) : Except String Binary := do
  let (binary, _) ← layers.foldlM (scanImage sha) (none, 0)
  match binary with
  | some binary =>
      if binary.mode &&& 0o111 ≠ 0 then return binary
      else .error "Executable target missing after layer whiteouts"
  | none => .error "Executable target missing after layer whiteouts"

end Scan

/-! ## The file system of the layers -/

/-- The levels of a path, without empty ones and dots. -/
def pathOf (name : String) : List String :=
  (Text.split name '/').filter fun level => !(["", "."].contains level)

/-- What an entry changes. -/
def changeOf (e : TarEntry) : Overlay.Change String TarEntry :=
  match (pathOf e.name).getLast? with
  | some leaf =>
      if leaf = ".wh..wh..opq" then .cleared (pathOf e.name).dropLast
      else if Text.startsWith leaf ".wh." then
        .whiteout ((pathOf e.name).dropLast ++ [String.ofList (leaf.toList.drop 4)])
      else .node (pathOf e.name) (if e.kind = .directory then .directory else .file e)
  | none => .node (pathOf e.name) (if e.kind = .directory then .directory else .file e)

def fileSystem (layers : List (List TarEntry)) : Overlay.Tree String TarEntry :=
  Overlay.overlay (layers.map fun layer => layer.map changeOf)

def targetPath : List String := ["usr", "local", "bin", "inverter-gateway"]

end InverterGateway.Smoke
