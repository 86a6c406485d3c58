/-
# Theory.Overlay — file systems stacked from layers of changes

A layer is a list of changes: nodes at paths, whiteouts of one path, and cleared
directories, whose earlier contents are gone.  Whiteouts and cleared directories
act on lower layers only, wherever they stand in their own, and make nothing
themselves: `apply` hides what they name and then puts the nodes in their order,
as an archive is extracted.  A node makes the paths above it directories and
replaces what is at its path; only a directory leaves what is below.
`overlay_isTree` keeps every stack a tree.
-/
import Mathlib.Data.List.Infix

namespace InverterGateway.Theory.Overlay

set_option autoImplicit false

variable {α F : Type}

/-- A directory, or anything else at a path. -/
inductive Node (F : Type) where
  | directory
  | file (file : F)

def Node.isFile : Node F → Bool
  | .directory => false
  | .file _ => true

/-- One record of a layer. -/
inductive Change (α F : Type) where
  | node (path : List α) (node : Node F)
  | whiteout (path : List α)
  | cleared (directory : List α)

/-- A file system: what is at each path. -/
def Tree (α F : Type) : Type := List α → Option (Node F)

/-- Nothing below a path but below directories. -/
def Tree.IsTree (tree : Tree α F) : Prop :=
  ∀ path rest, rest ≠ [] → tree (path ++ rest) ≠ none → tree path = some .directory

theorem prefix_ne_append {start path rest : List α} (inside : start <+: path) (some : rest ≠ []) :
    start ≠ path ++ rest := by
  intro same
  have lengths := inside.length_le
  rw [same, List.length_append] at lengths
  exact some (List.eq_nil_of_length_eq_zero (by omega))

section Layers

variable [DecidableEq α]

/-- Whether a record hides a path of lower layers. -/
def Change.hides (path : List α) : Change α F → Bool
  | .node _ _ => false
  | .whiteout path' => path'.isPrefixOf path
  | .cleared directory => directory.isPrefixOf path && directory != path

/-- What a layer leaves to see of the tree below it. -/
def hide (lower : Tree α F) (layer : List (Change α F)) : Tree α F := fun path =>
  if layer.any (Change.hides path) then none else lower path

/-- What a record puts at a path, if anything: the node of the record
itself, a directory above that, and nothing below a file. -/
def Change.gives (path : List α) : Change α F → Option (Option (Node F))
  | .node path' made =>
      if path' = path then some (some made)
      else if path.isPrefixOf path' then some (some .directory)
      else if path'.isPrefixOf path && made.isFile then some none
      else none
  | _ => none

/-- One record put on a tree. -/
def put (tree : Tree α F) (change : Change α F) : Tree α F := fun path =>
  (change.gives path).getD (tree path)

/-- A layer put on a tree. -/
def apply (lower : Tree α F) (layer : List (Change α F)) : Tree α F :=
  layer.foldl put (hide lower layer)

/-- The layers from the lowest on. -/
def overlay (layers : List (List (Change α F))) : Tree α F :=
  layers.foldl apply fun _ => none

/-- The last layer is put on the stack of the others. -/
theorem overlay_concat (layers : List (List (Change α F))) (layer : List (Change α F)) :
    overlay (layers ++ [layer]) = apply (overlay layers) layer :=
  List.foldl_append

/-! ## Records at one path -/

theorem hide_shown {lower : Tree α F} {layer : List (Change α F)} {path : List α}
    (shown : ∀ change ∈ layer, change.hides path = false) : hide lower layer path = lower path := by
  refine if_neg fun hidden => ?_
  obtain ⟨change, listed, hides⟩ := List.any_eq_true.1 hidden
  rw [shown change listed] at hides
  cases hides

theorem put_given {tree : Tree α F} {change : Change α F} {path : List α} {answer : Option (Node F)}
    (given : change.gives path = some answer) : put tree change path = answer := by
  rw [put, given, Option.getD_some]

theorem put_silent {tree : Tree α F} {change : Change α F} {path : List α}
    (silent : change.gives path = none) : put tree change path = tree path := by
  rw [put, silent, Option.getD_none]

theorem gives_here (path : List α) (node : Node F) :
    (Change.node path node).gives path = some (some node) := if_pos rfl

theorem gives_above {path below : List α} (above : path <+: below) (proper : below ≠ path)
    (node : Node F) : (Change.node below node).gives path = some (some .directory) := by
  rw [Change.gives, if_neg proper, if_pos (List.isPrefixOf_iff_prefix.2 above)]

theorem gives_below {path above : List α} (below : above <+: path) (proper : above ≠ path)
    {node : Node F} (file : node.isFile = true) :
    (Change.node above node).gives path = some none := by
  have longer : ¬ path.isPrefixOf above = true := fun back =>
    proper (below.eq_of_length_le (List.isPrefixOf_iff_prefix.1 back).length_le)
  rw [Change.gives, if_neg proper, if_neg longer, if_pos]
  rw [file, Bool.and_true, List.isPrefixOf_iff_prefix]
  exact below

theorem gives_apart {path other : List α} {node : Node F} (above : ¬ path <+: other)
    (below : ¬ (other <+: path ∧ node.isFile = true)) :
    (Change.node other node).gives path = none := by
  have different : other ≠ path := fun same => above (by rw [same])
  have inside : ¬ path.isPrefixOf other = true := fun inside =>
    above (List.isPrefixOf_iff_prefix.1 inside)
  rw [Change.gives, if_neg different, if_neg inside, if_neg]
  rwa [Bool.and_eq_true, List.isPrefixOf_iff_prefix]

/-! ## Stacks are trees -/

/-- What is hidden at a path is hidden below it. -/
theorem hide_isTree {lower : Tree α F} (tree : lower.IsTree) (layer : List (Change α F)) :
    (hide lower layer).IsTree := by
  intro path rest some found
  rw [hide] at found
  split at found
  · exact absurd rfl found
  · rename_i shown
    refine (if_neg fun hidden => shown ?_).trans (tree path rest some found)
    obtain ⟨change, listed, hides⟩ := List.any_eq_true.1 hidden
    refine List.any_eq_true.2 ⟨change, listed, ?_⟩
    cases change with
    | node path' node => cases hides
    | whiteout path' =>
        rw [Change.hides, List.isPrefixOf_iff_prefix] at hides ⊢
        exact hides.trans (List.prefix_append _ _)
    | cleared directory =>
        rw [Change.hides, Bool.and_eq_true, List.isPrefixOf_iff_prefix, bne_iff_ne] at hides ⊢
        exact ⟨hides.1.trans (List.prefix_append _ _), prefix_ne_append hides.1 some⟩

/-- **A record on a tree is a tree.** -/
theorem put_isTree {tree : Tree α F} (isTree : tree.IsTree) (change : Change α F) :
    (put tree change).IsTree := by
  intro path rest some found
  cases change with
  | whiteout path' => exact isTree path rest some found
  | cleared directory => exact isTree path rest some found
  | node path' node =>
      -- below a file that is put nothing is left
      have emptied : path' <+: path → node.isFile = true → False := by
        intro inside file
        have start : path' <+: path ++ rest := inside.trans (List.prefix_append _ _)
        exact found (put_given (gives_below start (prefix_ne_append inside some) file))
      by_cases above : path <+: path'
      · by_cases here : path' = path
        · subst here
          cases node with
          | directory => exact put_given (gives_here _ _)
          | file file => exact (emptied List.prefix_rfl rfl).elim
        · exact put_given (gives_above above here node)
      · have silent : (Change.node path' node).gives path = none :=
          gives_apart above fun covered => emptied covered.1 covered.2
        have silent' : (Change.node path' node).gives (path ++ rest) = none := by
          refine gives_apart (fun inside => above ((List.prefix_append _ _).trans inside)) ?_
          rintro ⟨inside, file⟩
          rcases List.prefix_or_prefix_of_prefix inside (List.prefix_append path rest) with up | down
          · exact emptied up file
          · exact above down
        rw [put_silent silent'] at found
        rw [put_silent silent]
        exact isTree path rest some found

/-- **A layer on a tree is a tree.** -/
theorem apply_isTree {lower : Tree α F} (tree : lower.IsTree) (layer : List (Change α F)) :
    (apply lower layer).IsTree := by
  refine List.foldlRecOn layer put (motive := Tree.IsTree) (hide_isTree tree layer) ?_
  exact fun _ isTree change _ => put_isTree isTree change

/-- **Every stack of layers is a tree.** -/
theorem overlay_isTree (layers : List (List (Change α F))) : (overlay layers).IsTree := by
  have empty : Tree.IsTree fun _ : List α => (none : Option (Node F)) :=
    fun _ _ _ found => absurd rfl found
  refine List.foldlRecOn layers apply (motive := Tree.IsTree) empty ?_
  exact fun _ tree layer _ => apply_isTree tree layer

end Layers

end InverterGateway.Theory.Overlay
