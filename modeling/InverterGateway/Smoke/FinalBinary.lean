/-
# Smoke.FinalBinary — when the reported binary is the one the container runs

`ScanFacts` says what a scan of a layer has learned about the entries read so
far, and `entries_target` what these entries leave at the target.  The fold over
the layers then follows the file system there: it knows the file, unless a later
entry below the target has made it a directory.
-/
import InverterGateway.Smoke.Layers

namespace InverterGateway.Smoke

open InverterGateway.Theory

set_option autoImplicit false

/-! ## Names and paths -/

/-- The levels of a character list. -/
theorem pathOf_ofList (cs : List Char) : pathOf (String.ofList cs) =
    ((cs.splitOn '/').map String.ofList).filter fun level => !(["", "."].contains level) := by
  rw [pathOf, Text.split, String.toList_ofList]

/-- A separator separates the levels of both sides. -/
theorem pathOf_sep (left right : List Char) : pathOf (String.ofList (left ++ '/' :: right)) =
    pathOf (String.ofList left) ++ pathOf (String.ofList right) := by
  simp only [pathOf_ofList, List.splitOn_append_cons_self, List.map_append, List.filter_append]

theorem pathOf_empty : pathOf "" = [] := by decide

theorem pathOf_dot : pathOf "." = [] := by decide

theorem pathOf_stripDots : ∀ cs : List Char,
    pathOf (String.ofList (stripDots cs)) = pathOf (String.ofList cs) := by
  intro cs
  fun_induction stripDots cs with
  | case1 rest ih =>
      have dot : pathOf (String.ofList ('.' :: '/' :: rest)) =
          pathOf (String.ofList ['.']) ++ pathOf (String.ofList rest) := pathOf_sep ['.'] rest
      rw [ih, dot]
      exact (congrArg (· ++ pathOf (String.ofList rest)) pathOf_dot).symm
  | case2 cs _ => rfl

theorem pathOf_trim (name : String) : pathOf (Text.trimEndMatches name '/') = pathOf name := by
  have general : ∀ (k : Nat) (cs : List Char),
      pathOf (String.ofList (cs ++ List.replicate k '/')) = pathOf (String.ofList cs) := by
    intro k
    induction k with
    | zero => intro cs; rw [List.replicate_zero, List.append_nil]
    | succ k ih =>
        intro cs
        have first : pathOf (String.ofList (cs ++ ['/'])) = pathOf (String.ofList cs) := by
          have parts := pathOf_sep cs []
          rw [parts]
          exact (congrArg (pathOf (String.ofList cs) ++ ·) pathOf_empty).trans (List.append_nil _)
        rw [List.replicate_succ, ← List.singleton_append, ← List.append_assoc, ih, first]
  obtain ⟨k, whole⟩ : ∃ k, name.toList =
      (name.toList.reverse.dropWhile (· == '/')).reverse ++ List.replicate k '/' := by
    have parts := List.takeWhile_append_dropWhile (p := (· == '/')) (l := name.toList.reverse)
    have slashes : ∀ c ∈ (name.toList.reverse.takeWhile (· == '/')).reverse, c = '/' := by
      intro c found
      have slash := List.mem_takeWhile_imp (List.mem_reverse.1 found)
      exact beq_iff_eq.1 slash
    refine ⟨(name.toList.reverse.takeWhile (· == '/')).reverse.length, ?_⟩
    rw [← List.eq_replicate_of_mem slashes, ← List.reverse_append, parts, List.reverse_reverse]
  have split := general k (name.toList.reverse.dropWhile (· == '/')).reverse
  rw [← whole, String.ofList_toList] at split
  exact split.symm

/-- A name of plain levels only. -/
def Plain (n : String) : Prop := ∀ level ∈ Text.split n '/', level ∉ ["", ".", ".."]

theorem need_eq_ok {ok : Bool} {message : String} {u : Unit} :
    need ok message = .ok u ↔ ok = true := by
  unfold need
  cases ok <;> simp

theorem safeMember_eq_ok {e : TarEntry} {n : String} (safe : safeMember e = .ok n) :
    Plain n ∧ pathOf n = pathOf e.name := by
  simp only [safeMember, bind_eq_ok, need_eq_ok] at safe
  obtain ⟨-, plain, -, -, same⟩ := safe
  cases same
  refine ⟨?_, ?_⟩
  · simp only [Bool.and_eq_true] at plain
    intro level listed bad
    have good := List.all_eq_true.1 plain.2 level listed
    rw [List.contains_iff_mem.2 bad] at good
    cases good
  · have stripped := pathOf_stripDots e.name.toList
    rw [String.ofList_toList] at stripped
    split
    · rw [pathOf_trim, stripped]
    · exact stripped

/-- The levels of a plain name are its path. -/
theorem Plain.pathOf {n : String} (plain : Plain n) : pathOf n = Text.split n '/' := by
  refine List.filter_eq_self.2 fun level listed => ?_
  rw [Bool.not_eq_true']
  refine Bool.eq_false_iff.2 fun bad => plain level listed ?_
  have member := List.contains_iff_mem.1 bad
  rcases List.mem_cons.1 member with rfl | dot
  · exact List.mem_cons_self
  · rw [List.mem_singleton.1 dot]
    exact List.mem_cons_of_mem _ List.mem_cons_self

/-- A plain name is its path joined. -/
theorem Plain.joinAt {n : String} (plain : Plain n) : Text.joinAt '/' (Smoke.pathOf n) = n := by
  rw [plain.pathOf, Text.joinAt_split]

/-- The last level of a plain name and the directory that holds it. -/
theorem Plain.rpartition {n parent leaf : String} (plain : Plain n)
    (parts : rpartition n '/' = (parent, leaf)) :
    Smoke.pathOf n = Smoke.pathOf parent ++ [leaf] ∧
      Text.joinAt '/' (Smoke.pathOf parent) = parent := by
  unfold Smoke.rpartition at parts
  split at parts
  · rename_i leaf' parent' found
    cases parts
    obtain ⟨whole, fresh⟩ := Text.splitFirst_eq_some.1 found
    have name : n.toList = parent'.reverse ++ '/' :: leaf'.reverse := by
      rw [← List.reverse_reverse n.toList, whole, List.reverse_append, List.reverse_cons,
        List.append_assoc, List.singleton_append]
    have split : Text.split n '/' =
        Text.split (String.ofList parent'.reverse) '/' ++ [String.ofList leaf'.reverse] := by
      have alone : List.splitOn '/' leaf'.reverse = [leaf'.reverse] :=
        List.splitOn_eq_singleton (by rwa [List.mem_reverse])
      rw [Text.split, name, List.splitOn_append_cons_self, alone, List.map_append, List.map_singleton,
        Text.split, String.toList_ofList]
    have above : Plain (String.ofList parent'.reverse) := by
      intro level listed
      exact plain level (by rw [split]; exact List.mem_append_left _ listed)
    exact ⟨by rw [plain.pathOf, split, above.pathOf], above.joinAt⟩
  · rename_i unsplit
    cases parts
    have absent : '/' ∉ n.toList := by
      have fresh := Text.splitFirst_eq_none.1 unsplit
      rwa [List.mem_reverse] at fresh
    refine ⟨?_, by decide⟩
    rw [plain.pathOf, Text.split_of_not_mem absent, pathOf_empty, List.nil_append]

/-! ## What a scan has learned -/

/-- The entry is, as the container would see it, the reported binary. -/
structure Reports (sha : List UInt8 → String) (e : TarEntry) (binary : Binary) : Prop where
  regular : e.kind = .regular
  size : binary.size = e.size
  whole : (e.data.length : Int) = e.size
  sha256 : binary.sha256 = sha e.data
  mode : binary.mode = e.mode
  elf : elfHeader e.data = .ok ()

theorem targetBinary_eq_ok {sha : List UInt8 → String} {e : TarEntry} {binary : Binary}
    (read : targetBinary sha e = .ok binary) : Reports sha e binary := by
  simp only [targetBinary, bind_eq_ok, need_eq_ok, Bool.and_eq_true, decide_eq_true_eq] at read
  obtain ⟨-, ⟨⟨regular, -⟩, most⟩, -, whole, u, elf, same⟩ := read
  cases same
  have all : e.data.take (maxNative + 1) = e.data := by
    refine List.take_of_length_le ?_
    rw [List.length_take] at whole
    omega
  rw [all] at whole elf
  exact ⟨regular, rfl, whole, by rw [all], rfl, elf⟩

/-- An entry that names the target. -/
def names (e : TarEntry) : Bool := pathOf e.name = targetPath

/-- A whiteout entry, by its last level. -/
def isMarker (leaf : String) : Bool := Text.startsWith leaf ".wh."

/-- The paths of the directories that hold the target. -/
def abovePaths : List (List String) :=
  [[], ["usr"], ["usr", "local"], ["usr", "local", "bin"]]

/-- What holds of a scan and of the entries it has read. -/
structure ScanFacts (sha : List UInt8 → String) (read : List TarEntry) (scan : LayerScan) :
    Prop where
  seen : ∀ e ∈ read, names e = true → target ∈ scan.seen
  brought : ∀ binary, scan.replacement = some binary →
    (∃ e ∈ read, names e = true) ∧ ∀ e ∈ read, names e = true → Reports sha e binary
  absent : scan.replacement = none → ∀ e ∈ read, names e = false
  real : ∀ e ∈ read, ∀ f, ∀ path ∈ abovePaths, changeOf e ≠ .node path (.file f)
  shown : scan.removesLower = false → ∀ e ∈ read, (changeOf e).hides targetPath = false

/-- **What one entry does to a scan**: a root entry is skipped, a whiteout may
hide the target, the target brings a binary, and any other entry of an ancestor
is a directory. -/
theorem scanEntry_cases {sha : List UInt8 → String} {acc next : LayerScan} {e : TarEntry}
    (step : scanEntry sha acc e = .ok next) :
    (e.kind = .directory ∧ pathOf e.name = [] ∧ next.seen = acc.seen ∧
      next.replacement = acc.replacement ∧ next.removesLower = acc.removesLower) ∨
    ∃ n parent leaf, Plain n ∧ pathOf n = pathOf e.name ∧ rpartition n '/' = (parent, leaf) ∧
      n ∉ acc.seen ∧ next.seen = n :: acc.seen ∧
      ((isMarker leaf = true ∧ next.replacement = acc.replacement ∧
          (next.removesLower = false → acc.removesLower = false ∧
            ¬(removedBy parent leaf = target ∨ removedBy parent leaf ∈ ancestors ∨
              removedBy parent leaf = ""))) ∨
        (isMarker leaf = false ∧ (n ∈ ancestors → e.kind = .directory) ∧
          next.removesLower = acc.removesLower ∧
          (n = target → ∃ binary, next.replacement = some binary ∧ Reports sha e binary) ∧
          (n ≠ target → next.replacement = acc.replacement))) := by
  simp only [scanEntry, bind_eq_ok, need_eq_ok] at step
  obtain ⟨-, -, step⟩ := step
  split at step
  · rename_i root
    cases step
    refine Or.inl ⟨root.1, ?_, rfl, rfl, rfl⟩
    rcases root.2 with dot | dot
    · rw [dot]
      decide
    · rw [dot]
      decide
  · simp only [bind_eq_ok, need_eq_ok] at step
    obtain ⟨n, safe, -, fresh, -, -, step⟩ := step
    obtain ⟨plain, path⟩ := safeMember_eq_ok safe
    have unseen : n ∉ acc.seen := by
      intro member
      rw [List.contains_iff_mem.2 member] at fresh
      cases fresh
    cases parts : rpartition n '/' with
    | mk parent leaf =>
        rw [parts] at step
        refine Or.inr ⟨n, parent, leaf, plain, path, parts, unseen, ?_⟩
        split at step
        · rename_i marker
          simp only [bind_eq_ok, need_eq_ok] at step
          obtain ⟨-, -, step⟩ := step
          split at step
          · cases step
            exact ⟨rfl, Or.inl ⟨marker, rfl, fun kept => by cases kept⟩⟩
          · rename_i elsewhere
            cases step
            exact ⟨rfl, Or.inl ⟨marker, rfl, fun kept => ⟨kept, elsewhere⟩⟩⟩
        · rename_i ordinary
          simp only [bind_eq_ok, need_eq_ok] at step
          obtain ⟨-, real, step⟩ := step
          have directory : n ∈ ancestors → e.kind = .directory := by
            intro ancestor
            rw [List.contains_iff_mem.2 ancestor, Bool.true_and, Bool.not_eq_true',
              decide_eq_false_iff_not, not_not] at real
            exact real
          split at step
          · rename_i named
            simp only [bind_eq_ok] at step
            obtain ⟨binary, read, step⟩ := step
            cases step
            exact ⟨rfl, Or.inr ⟨Bool.eq_false_iff.2 ordinary, directory, rfl,
              fun _ => ⟨binary, rfl, targetBinary_eq_ok read⟩, fun other => absurd named other⟩⟩
          · rename_i other
            cases step
            exact ⟨rfl, Or.inr ⟨Bool.eq_false_iff.2 ordinary, directory, rfl,
              fun named => absurd named other, fun _ => rfl⟩⟩

/-! ## What an entry changes -/

theorem changeOf_marker {e : TarEntry} {directory : List String} {leaf : String}
    (path : pathOf e.name = directory ++ [leaf]) (marker : isMarker leaf = true) :
    changeOf e = if leaf = ".wh..wh..opq" then .cleared directory
      else .whiteout (directory ++ [String.ofList (leaf.toList.drop 4)]) := by
  have marked : Text.startsWith leaf ".wh." = true := marker
  unfold changeOf
  rw [path, List.getLast?_append_of_ne_nil _ (List.cons_ne_nil _ _), List.getLast?_singleton]
  simp only [List.dropLast_concat, marked, if_true]

theorem changeOf_ordinary {e : TarEntry} {directory : List String} {leaf : String}
    (path : pathOf e.name = directory ++ [leaf]) (ordinary : isMarker leaf = false) :
    changeOf e = .node (pathOf e.name) (if e.kind = .directory then .directory else .file e) := by
  have unmarked : Text.startsWith leaf ".wh." = false := ordinary
  have other : leaf ≠ ".wh..wh..opq" := by
    rintro rfl
    rw [isMarker] at ordinary
    exact absurd ordinary (by decide)
  unfold changeOf
  rw [path, List.getLast?_append_of_ne_nil _ (List.cons_ne_nil _ _), List.getLast?_singleton]
  simp only [other, unmarked, if_false, Bool.false_eq_true]

theorem changeOf_root {e : TarEntry} (path : pathOf e.name = []) (directory : e.kind = .directory) :
    changeOf e = .node [] .directory := by
  unfold changeOf
  rw [path, List.getLast?_nil, directory]
  rfl

theorem mem_abovePaths {path : List String} (above : path <+: targetPath)
    (proper : path ≠ targetPath) : path ∈ abovePaths := by
  rw [← List.mem_inits] at above
  have cases : ∀ path ∈ targetPath.inits, path ≠ targetPath → path ∈ abovePaths := by
    decide +kernel
  exact cases path above proper

/-- Below the root these are the ancestors. -/
theorem joinAt_abovePaths {path : List String} (above : path ∈ abovePaths) (some : path ≠ []) :
    Text.joinAt '/' path ∈ ancestors := by
  have cases : ∀ path ∈ abovePaths, path ≠ [] → Text.joinAt '/' path ∈ ancestors := by
    decide +kernel
  exact cases path above some

/-- The paths that hold the target, itself included, and the name of each. -/
theorem prefix_target {path : List String} (above : path <+: targetPath) :
    path = [] ∨ Text.joinAt '/' path ∈ ancestors ∨ path = targetPath := by
  by_cases root : path = []
  · exact Or.inl root
  · by_cases same : path = targetPath
    · exact Or.inr (Or.inr same)
    · exact Or.inr (Or.inl (joinAt_abovePaths (mem_abovePaths above same) root))

/-- A whiteout that would hide the target is noticed. -/
theorem removedBy_of_hides {e : TarEntry} {n parent leaf : String} (plain : Plain n)
    (path : pathOf n = pathOf e.name) (parts : rpartition n '/' = (parent, leaf))
    (marker : isMarker leaf = true) (hides : (changeOf e).hides targetPath = true) :
    removedBy parent leaf = target ∨ removedBy parent leaf ∈ ancestors ∨
      removedBy parent leaf = "" := by
  obtain ⟨levels, above⟩ := plain.rpartition parts
  rw [changeOf_marker (path ▸ levels) marker] at hides
  split at hides
  · rename_i cleared
    have removed : removedBy parent leaf = parent := if_pos cleared
    rw [Overlay.Change.hides, Bool.and_eq_true, List.isPrefixOf_iff_prefix, bne_iff_ne] at hides
    rw [removed]
    rcases prefix_target hides.1 with root | ancestor | same
    · rw [root] at above
      exact Or.inr (Or.inr (above.symm.trans (by decide)))
    · exact Or.inr (Or.inl (above ▸ ancestor))
    · exact absurd same hides.2
  · rename_i plainMarker
    have removed : removedBy parent leaf =
        Text.joinAt '/' (pathOf parent ++ [String.ofList (leaf.toList.drop 4)]) := by
      have slash : "/" = String.singleton '/' := by decide
      rw [removedBy, if_neg plainMarker, Text.joinAt_concat, above, ← slash]
      by_cases root : pathOf parent = []
      · have empty : parent = "" := by
          rw [← above, root]
          decide
        rw [if_pos root, if_pos empty]
      · have some : parent ≠ "" := by
          rintro rfl
          exact root pathOf_empty
        rw [if_neg root, if_neg some]
    rw [Overlay.Change.hides, List.isPrefixOf_iff_prefix] at hides
    rw [removed]
    rcases prefix_target hides with root | ancestor | same
    · exact absurd root (List.append_ne_nil_of_right_ne_nil _ (List.cons_ne_nil _ _))
    · exact Or.inr (Or.inl ancestor)
    · rw [same]
      exact Or.inl (by decide)

/-! ## The scan of a layer -/

theorem names_iff {e : TarEntry} {n : String} (plain : Plain n) (path : pathOf n = pathOf e.name) :
    names e = true ↔ n = target := by
  rw [names, decide_eq_true_eq, ← path]
  constructor
  · intro same
    rw [← plain.joinAt, same]
    decide
  · rintro rfl
    decide

theorem forall_mem_concat {α : Type} {P : α → Prop} {xs : List α} {x : α}
    (earlier : ∀ y ∈ xs, P y) (last : P x) : ∀ y ∈ xs ++ [x], P y :=
  List.forall_mem_append.2 ⟨earlier, List.forall_mem_singleton.2 last⟩

/-- An entry that does not name the target leaves what is known of those that do. -/
theorem ScanFacts.brought_concat {sha : List UInt8 → String} {read : List TarEntry}
    {acc next : LayerScan} {e : TarEntry} (facts : ScanFacts sha read acc)
    (unnamed : names e = false) (same : next.replacement = acc.replacement) :
    (∀ binary, next.replacement = some binary → (∃ f ∈ read ++ [e], names f = true) ∧
      ∀ f ∈ read ++ [e], names f = true → Reports sha f binary) ∧
    (next.replacement = none → ∀ f ∈ read ++ [e], names f = false) := by
  rw [same]
  refine ⟨fun binary shown => ?_, fun none => forall_mem_concat (facts.absent none) unnamed⟩
  obtain ⟨⟨f, listed, named⟩, reports⟩ := facts.brought binary shown
  refine ⟨⟨f, List.mem_append_left _ listed, named⟩, forall_mem_concat reports ?_⟩
  intro naming
  cases unnamed.symm.trans naming

theorem ScanFacts.step {sha : List UInt8 → String} {read : List TarEntry} {acc next : LayerScan}
    {e : TarEntry} (facts : ScanFacts sha read acc) (step : scanEntry sha acc e = .ok next) :
    ScanFacts sha (read ++ [e]) next := by
  rcases scanEntry_cases step with ⟨directory, path, seen, replacement, lower⟩ |
      ⟨n, parent, leaf, plain, path, parts, unseen, seen, outcome⟩
  · have unnamed : names e = false := by
      rw [names, path]
      decide
    have change := changeOf_root path directory
    obtain ⟨brought, absent⟩ := facts.brought_concat unnamed replacement
    refine ⟨?_, brought, absent, ?_, ?_⟩
    · rw [seen]
      refine forall_mem_concat facts.seen fun naming => ?_
      cases unnamed.symm.trans naming
    · refine forall_mem_concat facts.real fun file start above same => ?_
      rw [change] at same
      cases same
    · intro kept
      refine forall_mem_concat (facts.shown (lower ▸ kept)) ?_
      rw [change]
      rfl
  · obtain ⟨levels, above⟩ := plain.rpartition parts
    have named := names_iff plain path
    have keep : ∀ f ∈ read ++ [e], names f = true → target ∈ next.seen := by
      rw [seen]
      refine forall_mem_concat ?_ fun naming => ?_
      · exact fun f listed naming => List.mem_cons_of_mem _ (facts.seen f listed naming)
      · rw [named.1 naming]
        exact List.mem_cons_self
    rcases outcome with ⟨marker, replacement, lower⟩ | ⟨ordinary, directory, lower, here, other⟩
    · have change := changeOf_marker (path ▸ levels) marker
      have unnamed : names e = false := by
        rw [Bool.eq_false_iff, Ne, names, decide_eq_true_eq, ← path, levels]
        intro same
        have last := congrArg List.getLast? same
        rw [List.getLast?_append_of_ne_nil _ (List.cons_ne_nil _ _), List.getLast?_singleton] at last
        cases last
        exact absurd marker (by decide)
      obtain ⟨brought, absent⟩ := facts.brought_concat unnamed replacement
      refine ⟨keep, brought, absent, ?_, ?_⟩
      · refine forall_mem_concat facts.real fun file start above same => ?_
        rw [change] at same
        split at same
        · cases same
        · cases same
      · intro kept
        obtain ⟨before, elsewhere⟩ := lower kept
        refine forall_mem_concat (facts.shown before) (Bool.eq_false_iff.2 fun hides => ?_)
        exact elsewhere (removedBy_of_hides plain path parts marker hides)
    · have change := changeOf_ordinary (path ▸ levels) ordinary
      have unnamed : n ≠ target → names e = false := fun targeted =>
        Bool.eq_false_iff.2 fun naming => targeted (named.1 naming)
      refine ⟨keep, ?_, ?_, ?_, ?_⟩
      · by_cases targeted : n = target
        · intro binary shown
          obtain ⟨brought, known, reports⟩ := here targeted
          cases known.symm.trans shown
          refine ⟨⟨e, List.mem_concat_self, named.2 targeted⟩, forall_mem_concat ?_ fun _ => reports⟩
          -- an earlier entry of the target would have been a duplicate
          exact fun f earlier naming => absurd (targeted ▸ facts.seen f earlier naming) unseen
        · exact (facts.brought_concat (unnamed targeted) (other targeted)).1
      · by_cases targeted : n = target
        · intro none
          obtain ⟨brought, known, -⟩ := here targeted
          rw [known] at none
          cases none
        · exact (facts.brought_concat (unnamed targeted) (other targeted)).2
      · refine forall_mem_concat facts.real fun file start above same => ?_
        rw [change] at same
        injection same with levelsHere nodeHere
        have ancestor : n ∈ ancestors := by
          have joined : Text.joinAt '/' start = n := by rw [← levelsHere, ← path, plain.joinAt]
          have some : start ≠ [] := by
            rw [← levelsHere, ← path, levels]
            exact List.append_ne_nil_of_right_ne_nil _ (List.cons_ne_nil _ _)
          rw [← joined]
          exact joinAt_abovePaths above some
        rw [if_pos (directory ancestor)] at nodeHere
        cases nodeHere
      · intro kept
        refine forall_mem_concat (facts.shown (lower ▸ kept)) ?_
        rw [change]
        rfl

theorem scanLayer_facts {sha : List UInt8 → String} {total : Nat} {layer : List TarEntry}
    {scan : LayerScan} (ran : scanLayer sha total layer = .ok scan) : ScanFacts sha layer scan := by
  refine foldlM_invariant (ScanFacts sha) (fun _ _ _ _ facts step => facts.step step) ?_ ran
  refine ⟨?_, ?_, ?_, ?_, ?_⟩
  · intro e listed
    cases listed
  · intro binary brought
    cases brought
  · intro _ e listed
    cases listed
  · intro e listed
    cases listed
  · intro _ e listed
    cases listed

/-! ## A layer at the target -/

/-- An entry that puts something below the target: a marker puts nothing anywhere. -/
def liesBelow (e : TarEntry) : Bool :=
  targetPath.isPrefixOf (pathOf e.name) && pathOf e.name != targetPath &&
    !isMarker ((pathOf e.name).getLastD "")

/-- Some entry names the target, and no entry after it lies below. -/
def Brings (entries : List TarEntry) : Prop :=
  ∃ before e after, entries = before ++ e :: after ∧ names e = true ∧
    ∀ f ∈ after, liesBelow f = false

/-- Some entry of the stack names the target, and none after it lies below, in its own
layer or in a later one. -/
def Uncovered (layers : List (List TarEntry)) : Prop := Brings layers.flatten

theorem Brings.named {entries : List TarEntry} (brings : Brings entries) :
    ∃ e ∈ entries, names e = true := by
  obtain ⟨before, e, after, whole, named, -⟩ := brings
  exact ⟨e, by rw [whole]; exact List.mem_append_right _ List.mem_cons_self, named⟩

/-- What is appended brings the target, or leaves what was brought in sight. -/
theorem brings_append {earlier later : List TarEntry} :
    Brings (earlier ++ later) ↔
      Brings later ∨ (∀ f ∈ later, liesBelow f = false) ∧ Brings earlier := by
  constructor
  · rintro ⟨before, e, after, whole, named, bare⟩
    rcases List.append_eq_append_iff.1 whole with ⟨middle, -, split⟩ | ⟨middle, split, rest⟩
    · exact Or.inl ⟨middle, e, after, split, named, bare⟩
    · cases middle with
      | nil => exact Or.inl ⟨[], e, after, rest.symm, named, bare⟩
      | cons first middle =>
          injection rest with same tail
          subst same tail
          refine Or.inr ⟨fun f listed => bare f (List.mem_append_right _ listed), before, e, middle,
            split, named, fun f listed => bare f (List.mem_append_left _ listed)⟩
  · rintro (⟨before, e, after, whole, named, bare⟩ | ⟨bare, before, e, after, whole, named, bare'⟩)
    · exact ⟨earlier ++ before, e, after, by rw [whole, List.append_assoc], named, bare⟩
    · refine ⟨before, e, after ++ later, ?_, named, ?_⟩
      · rw [whole, List.append_assoc, List.cons_append]
      · intro f listed
        rcases List.mem_append.1 listed with inside | last
        · exact bare' f inside
        · exact bare f last

theorem brings_concat {entries : List TarEntry} {f : TarEntry} :
    Brings (entries ++ [f]) ↔ names f = true ∨ liesBelow f = false ∧ Brings entries := by
  have single : Brings [f] ↔ names f = true := by
    constructor
    · intro brings
      obtain ⟨e, listed, named⟩ := brings.named
      rwa [← List.mem_singleton.1 listed]
    · exact fun named => ⟨[], f, [], rfl, named, fun _ listed => by cases listed⟩
  rw [brings_append, single, List.forall_mem_singleton]

/-- An entry that is no marker is a node at its own path. -/
theorem changeOf_node {e : TarEntry} (ordinary : isMarker ((pathOf e.name).getLastD "") = false) :
    changeOf e = .node (pathOf e.name) (if e.kind = .directory then .directory else .file e) := by
  rcases List.eq_nil_or_concat (pathOf e.name) with root | ⟨directory, leaf, levels⟩
  · rw [changeOf, root, List.getLast?_nil]
  · rw [List.concat_eq_append] at levels
    rw [levels, List.getLastD_concat] at ordinary
    exact changeOf_ordinary levels ordinary

/-- A marker is no node. -/
theorem changeOf_not_node {e : TarEntry} (marker : isMarker ((pathOf e.name).getLastD "") = true)
    (path : List String) : (changeOf e).gives path = none := by
  rcases List.eq_nil_or_concat (pathOf e.name) with root | ⟨directory, leaf, levels⟩
  · rw [root] at marker
    exact absurd marker (by decide)
  · rw [List.concat_eq_append] at levels
    rw [levels, List.getLastD_concat] at marker
    rw [changeOf_marker levels marker]
    split
    · rfl
    · rfl

theorem gives_named {e : TarEntry} (named : names e = true) (regular : e.kind = .regular) :
    (changeOf e).gives targetPath = some (some (.file e)) := by
  rw [names, decide_eq_true_eq] at named
  rw [changeOf_node (by rw [named]; decide), named, regular]
  exact Overlay.gives_here _ _

theorem gives_liesBelow {e : TarEntry} (lower : liesBelow e = true) :
    (changeOf e).gives targetPath = some (some .directory) := by
  simp only [liesBelow, Bool.and_eq_true, bne_iff_ne, Bool.not_eq_true',
    List.isPrefixOf_iff_prefix] at lower
  obtain ⟨⟨above, proper⟩, ordinary⟩ := lower
  rw [changeOf_node ordinary]
  exact Overlay.gives_above above proper _

theorem gives_apart {e : TarEntry} (unnamed : names e = false) (apart : liesBelow e = false)
    (real : ∀ f, ∀ path ∈ abovePaths, changeOf e ≠ .node path (.file f)) :
    (changeOf e).gives targetPath = none := by
  cases marker : isMarker ((pathOf e.name).getLastD "") with
  | true => exact changeOf_not_node marker _
  | false =>
      have other : pathOf e.name ≠ targetPath := by
        rwa [names, decide_eq_false_iff_not] at unnamed
      have node := changeOf_node marker
      rw [node] at real ⊢
      refine Overlay.gives_apart ?_ ?_
      · intro above
        rw [liesBelow, List.isPrefixOf_iff_prefix.2 above, bne_iff_ne.2 other, marker] at apart
        cases apart
      · rintro ⟨above, file⟩
        split at file
        · cases file
        · rename_i kind
          exact real e _ (mem_abovePaths above other) (by rw [if_neg kind])

/-- What one entry leaves at the target. -/
theorem put_target (tree : Overlay.Tree String TarEntry) {e : TarEntry}
    (regular : names e = true → e.kind = .regular)
    (real : ∀ f, ∀ path ∈ abovePaths, changeOf e ≠ .node path (.file f)) :
    Overlay.put tree (changeOf e) targetPath =
      if names e = true then some (.file e)
      else if liesBelow e = true then some .directory
      else tree targetPath := by
  by_cases named : names e = true
  · rw [if_pos named]
    exact Overlay.put_given (gives_named named (regular named))
  · rw [if_neg named]
    by_cases lower : liesBelow e = true
    · rw [if_pos lower]
      exact Overlay.put_given (gives_liesBelow lower)
    · rw [if_neg lower]
      rw [Bool.not_eq_true] at named lower
      exact Overlay.put_silent (gives_apart named lower real)

/-- **What the entries of a layer leave at the target**: the file of an entry that names
it, unless a later one lies below; a directory if one does; what was there, if no
entry touches it. -/
theorem entries_target (start : Overlay.Tree String TarEntry) {entries : List TarEntry}
    (regular : ∀ e ∈ entries, names e = true → e.kind = .regular)
    (real : ∀ e ∈ entries, ∀ f, ∀ path ∈ abovePaths, changeOf e ≠ .node path (.file f)) :
    (Brings entries → ∃ e ∈ entries, names e = true ∧
      (entries.map changeOf).foldl Overlay.put start targetPath = some (.file e)) ∧
    (¬ Brings entries → (∃ e ∈ entries, names e = true ∨ liesBelow e = true) →
      (entries.map changeOf).foldl Overlay.put start targetPath = some .directory) ∧
    ((∀ e ∈ entries, names e = false ∧ liesBelow e = false) →
      (entries.map changeOf).foldl Overlay.put start targetPath = start targetPath) := by
  -- On the last entry: it decides, or leaves what the entries before it left.
  induction entries using List.reverseRecOn with
  | nil =>
      refine ⟨?_, ?_, fun _ => rfl⟩
      · intro brings
        obtain ⟨e, listed, -⟩ := brings.named
        cases listed
      · rintro - ⟨e, listed, -⟩
        cases listed
  | append_singleton entries last ih =>
      have here : last ∈ entries ++ [last] := List.mem_append_right _ List.mem_cons_self
      have before : ∀ e ∈ entries, e ∈ entries ++ [last] := fun e => List.mem_append_left _
      obtain ⟨shown, covered, untouched⟩ :=
        ih (fun e listed => regular e (before e listed)) (fun e listed => real e (before e listed))
      rw [List.map_append, List.map_singleton, List.foldl_append, List.foldl_cons, List.foldl_nil,
        brings_concat, put_target _ (regular last here) (real last here)]
      cases named : names last with
      | true =>
          rw [if_pos rfl]
          refine ⟨fun _ => ⟨last, here, named, rfl⟩, fun hidden => absurd (Or.inl rfl) hidden, ?_⟩
          intro none
          cases named.symm.trans (none last here).1
      | false =>
          rw [if_neg Bool.false_ne_true]
          cases lower : liesBelow last with
          | true =>
              rw [if_pos rfl]
              refine ⟨?_, fun _ _ => rfl, ?_⟩
              · rintro (none | ⟨none, -⟩)
                · cases none
                · cases none
              · intro none
                cases lower.symm.trans (none last here).2
          | false =>
              rw [if_neg Bool.false_ne_true]
              refine ⟨?_, ?_, fun none => untouched fun e listed => none e (before e listed)⟩
              · rintro (none | ⟨-, brings⟩)
                · cases none
                · obtain ⟨e, listed, naming, file⟩ := shown brings
                  exact ⟨e, before e listed, naming, file⟩
              · rintro hidden ⟨e, listed, touches⟩
                refine covered (fun brings => hidden (Or.inr ⟨rfl, brings⟩)) ⟨e, ?_, touches⟩
                rcases List.mem_append.1 listed with earlier | same
                · exact earlier
                · rw [List.mem_singleton.1 same, named, lower] at touches
                  rcases touches with impossible | impossible
                  · cases impossible
                  · cases impossible

theorem fileSystem_concat (layers : List (List TarEntry)) (layer : List TarEntry) :
    fileSystem (layers ++ [layer]) = Overlay.apply (fileSystem layers) (layer.map changeOf) := by
  rw [fileSystem, List.map_append, List.map_singleton, Overlay.overlay_concat]
  rfl

/-- What the scan knows of the stack read so far: its binary is the file at the
target, unless a later entry below the target made it a directory. -/
def Tracks (sha : List UInt8 → String) (layers : List (List TarEntry))
    (acc : Option Binary × Nat) : Prop :=
  ∀ binary, acc.1 = some binary → ∃ e, Reports sha e binary ∧
    (Uncovered layers → fileSystem layers targetPath = some (.file e)) ∧
    (¬ Uncovered layers → fileSystem layers targetPath = some .directory)

theorem uncovered_concat {layers : List (List TarEntry)} {layer : List TarEntry} :
    Uncovered (layers ++ [layer]) ↔
      Brings layer ∨ (∀ f ∈ layer, liesBelow f = false) ∧ Uncovered layers := by
  rw [Uncovered, List.flatten_append, List.flatten_singleton, brings_append]
  rfl

/-- A layer that names the target decides what is there. -/
theorem Tracks.of_brought {sha : List UInt8 → String} {layers : List (List TarEntry)}
    {layer : List TarEntry} {scan : LayerScan} {binary : Binary}
    (facts : ScanFacts sha layer scan) (brought : scan.replacement = some binary) :
    Tracks sha (layers ++ [layer]) (some binary, scan.total) := by
  obtain ⟨⟨e, listed, named⟩, reports⟩ := facts.brought binary brought
  obtain ⟨shown, covered, -⟩ :=
    entries_target (Overlay.hide (fileSystem layers) (layer.map changeOf))
      (fun e listed named => (reports e listed named).regular) facts.real
  intro same known
  cases known
  rw [fileSystem_concat, uncovered_concat]
  by_cases brings : Brings layer
  · obtain ⟨f, listedHere, naming, file⟩ := shown brings
    exact ⟨f, reports f listedHere naming, fun _ => file,
      fun hidden => absurd (Or.inl brings) hidden⟩
  · refine ⟨e, reports e listed named, ?_, fun _ => covered brings ⟨e, listed, Or.inl named⟩⟩
    rintro (impossible | ⟨bare, -⟩)
    · exact absurd impossible brings
    · obtain ⟨before, after, whole⟩ := List.append_of_mem listed
      refine absurd ⟨before, e, after, whole, named, fun f later => bare f ?_⟩ brings
      rw [whole]
      exact List.mem_append_right _ (List.mem_cons_of_mem _ later)

theorem Tracks.step {sha : List UInt8 → String} {layers : List (List TarEntry)}
    {acc next : Option Binary × Nat} {layer : List TarEntry} (tracks : Tracks sha layers acc)
    (step : scanImage sha acc layer = .ok next) : Tracks sha (layers ++ [layer]) next := by
  rw [scanImage, bind_eq_ok] at step
  obtain ⟨scan, ran, same⟩ := step
  have facts := scanLayer_facts ran
  cases same
  cases brought : scan.replacement with
  | some binary => exact Tracks.of_brought facts brought
  | none =>
      intro binary known
      dsimp only at known
      split at known
      · cases known
      · rename_i kept
        rw [Bool.not_eq_true] at kept
        have unnamed := facts.absent brought
        have silent : ¬ Brings layer := by
          intro brings
          obtain ⟨e, listed, named⟩ := brings.named
          rw [unnamed e listed] at named
          cases named
        obtain ⟨-, covered, untouched⟩ :=
          entries_target (Overlay.hide (fileSystem layers) (layer.map changeOf))
            (fun e listed named => by rw [unnamed e listed] at named; cases named) facts.real
        have through : Overlay.hide (fileSystem layers) (layer.map changeOf) targetPath =
            fileSystem layers targetPath := by
          refine Overlay.hide_shown fun change listed => ?_
          obtain ⟨e, member, same⟩ := List.mem_map.1 listed
          rw [← same]
          exact facts.shown kept e member
        obtain ⟨e, reports, shown, hidden⟩ := tracks binary known
        rw [fileSystem_concat, uncovered_concat]
        by_cases bare : ∀ f ∈ layer, liesBelow f = false
        · have left := (untouched fun f listed => ⟨unnamed f listed, bare f listed⟩).trans through
          refine ⟨e, reports, ?_, ?_⟩
          · rintro (brings | ⟨-, uncovered⟩)
            · exact absurd brings silent
            · exact left.trans (shown uncovered)
          · exact fun other => left.trans (hidden fun uncovered => other (Or.inr ⟨bare, uncovered⟩))
        · refine ⟨e, reports, ?_, fun _ => covered silent ?_⟩
          · rintro (brings | ⟨none, -⟩)
            · exact absurd brings silent
            · exact absurd none bare
          · push Not at bare
            obtain ⟨f, listed, lower⟩ := bare
            exact ⟨f, listed, Or.inr (Bool.not_eq_false _ ▸ lower)⟩

/-! ## The reported binary -/

/-- At the target is a regular executable file as reported, under real directories. -/
def Shows (sha : List UInt8 → String) (layers : List (List TarEntry)) (binary : Binary) : Prop :=
  ∃ e, fileSystem layers targetPath = some (.file e) ∧ Reports sha e binary ∧
    e.mode &&& 0o111 ≠ 0 ∧
    ∀ start, start <+: targetPath → start ≠ targetPath → fileSystem layers start = some .directory

/-- At the target is a regular executable ELF file. -/
def Runs (layers : List (List TarEntry)) : Prop :=
  ∃ e, fileSystem layers targetPath = some (.file e) ∧ e.kind = .regular ∧
    e.mode &&& 0o111 ≠ 0 ∧ elfHeader e.data = .ok ()

theorem Shows.runs {sha : List UInt8 → String} {layers : List (List TarEntry)} {binary : Binary}
    (shows : Shows sha layers binary) : Runs layers := by
  obtain ⟨e, here, reports, executable, -⟩ := shows
  exact ⟨e, here, reports.regular, executable, reports.elf⟩

/-- A file of the stack lies under directories. -/
theorem fileSystem_above {layers : List (List TarEntry)} {node : Overlay.Node TarEntry}
    (here : fileSystem layers targetPath = some node) {start : List String}
    (above : start <+: targetPath) (proper : start ≠ targetPath) :
    fileSystem layers start = some .directory := by
  obtain ⟨rest, whole⟩ := above
  have tree := Overlay.overlay_isTree (layers.map fun layer => layer.map changeOf)
  refine tree start rest ?_ ?_
  · rintro rfl
    exact proper (by rw [← whole, List.append_nil])
  · rw [whole]
    intro none
    cases here.symm.trans none

theorem finalBinary_eq_ok {sha : List UInt8 → String} {layers : List (List TarEntry)}
    {binary : Binary} (found : finalBinary sha layers = .ok binary) :
    ∃ e, Reports sha e binary ∧ e.mode &&& 0o111 ≠ 0 ∧
      (Uncovered layers → fileSystem layers targetPath = some (.file e)) ∧
      (¬ Uncovered layers → fileSystem layers targetPath = some .directory) := by
  rw [finalBinary, bind_eq_ok] at found
  obtain ⟨⟨last, total⟩, ran, answer⟩ := found
  have tracks := foldlM_invariant (Tracks sha) (fun _ _ _ _ tracks step => tracks.step step)
    (fun _ known => by cases known) ran
  dsimp only at answer
  split at answer
  · split at answer
    · rename_i executable
      cases answer
      obtain ⟨e, reports, shown, hidden⟩ := tracks binary rfl
      exact ⟨e, reports, reports.mode ▸ executable, shown, hidden⟩
    · cases answer
  · cases answer

/-- **The reported binary is the one the container runs** exactly when some entry
names the target and no later entry, markers aside, lies below it.  Otherwise the
container has a directory there, and nothing to run. -/
theorem finalBinary_shown_iff (sha : List UInt8 → String) (layers : List (List TarEntry))
    (binary : Binary) (found : finalBinary sha layers = .ok binary) :
    (Shows sha layers binary ↔ Uncovered layers) ∧ (Runs layers ↔ Uncovered layers) := by
  obtain ⟨e, reports, executable, shown, hidden⟩ := finalBinary_eq_ok found
  have sound : Uncovered layers → Shows sha layers binary := by
    intro uncovered
    have here := shown uncovered
    exact ⟨e, here, reports, executable, fun _ above proper => fileSystem_above here above proper⟩
  have complete : Runs layers → Uncovered layers := by
    rintro ⟨f, here, -⟩
    by_contra covered
    cases here.symm.trans (hidden covered)
  exact ⟨⟨fun shows => complete shows.runs, sound⟩, ⟨complete, fun uncovered => (sound uncovered).runs⟩⟩

/-- The smallest ELF header that passes. -/
def elfSample : List UInt8 :=
  [0x7f, 0x45, 0x4c, 0x46, 2, 1, 1] ++ List.replicate 11 0 ++ [0x3e, 0] ++ List.replicate 44 0

/-- The digest of the sample alone. -/
def shaSample (data : List UInt8) : String :=
  if data = elfSample then "caa6f4f58ad3ed35afa011abfdb3ef06a7799b5545082b32685f75cc9c454fe8" else ""

def targetEntry : TarEntry := ⟨target, .regular, 64, 0o755, false, elfSample⟩

def binarySample : Binary :=
  ⟨64, "caa6f4f58ad3ed35afa011abfdb3ef06a7799b5545082b32685f75cc9c454fe8", 0o755⟩

/-- Markers beside the target, or below it in a later layer, leave the file. -/
theorem finalBinary_shown_same_layer :
    finalBinary shaSample
        [[targetEntry, ⟨"usr/local/bin/.wh..wh..opq", .regular, 0, 0o644, false, []⟩,
          ⟨target ++ "/.wh..wh..opq", .regular, 0, 0o644, false, []⟩],
         [⟨target ++ "/.wh.x", .regular, 0, 0o644, false, []⟩]] = .ok binarySample ∧
      Shows shaSample
        [[targetEntry, ⟨"usr/local/bin/.wh..wh..opq", .regular, 0, 0o644, false, []⟩,
          ⟨target ++ "/.wh..wh..opq", .regular, 0, 0o644, false, []⟩],
         [⟨target ++ "/.wh.x", .regular, 0, 0o644, false, []⟩]] binarySample := by
  have found : finalBinary shaSample
      [[targetEntry, ⟨"usr/local/bin/.wh..wh..opq", .regular, 0, 0o644, false, []⟩,
        ⟨target ++ "/.wh..wh..opq", .regular, 0, 0o644, false, []⟩],
       [⟨target ++ "/.wh.x", .regular, 0, 0o644, false, []⟩]] = .ok binarySample := by rfl
  refine ⟨found, (finalBinary_shown_iff _ _ _ found).1.2 ?_⟩
  exact ⟨[], targetEntry, _, rfl, by decide, by decide⟩

/-- A later entry below the target makes it a directory, and the scan keeps the binary. -/
theorem finalBinary_not_shown :
    finalBinary shaSample [[targetEntry], [⟨target ++ "/x", .regular, 0, 0o644, false, []⟩]] =
        .ok binarySample ∧
      ¬ Shows shaSample [[targetEntry], [⟨target ++ "/x", .regular, 0, 0o644, false, []⟩]]
          binarySample ∧
      ¬ Runs [[targetEntry], [⟨target ++ "/x", .regular, 0, 0o644, false, []⟩]] := by
  have directory : fileSystem [[targetEntry], [⟨target ++ "/x", .regular, 0, 0o644, false, []⟩]]
      targetPath = some .directory := by
    have lower : liesBelow ⟨target ++ "/x", .regular, 0, 0o644, false, []⟩ = true := by decide
    rw [← List.singleton_append, fileSystem_concat, List.map_singleton, Overlay.apply,
      List.foldl_cons, List.foldl_nil]
    exact Overlay.put_given (gives_liesBelow lower)
  have nothing : ¬ Runs [[targetEntry], [⟨target ++ "/x", .regular, 0, 0o644, false, []⟩]] := by
    rintro ⟨e, here, -⟩
    cases here.symm.trans directory
  exact ⟨by rfl, fun shows => nothing shows.runs, nothing⟩

end InverterGateway.Smoke
