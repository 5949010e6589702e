import Praxis.Planner.WorkspaceSnapshots

/-!
# Laws of snapshots

A snapshot that was taken lists the files of the workspace, each once (`capture_ok`), and its digest
tells two lists apart (`freezeSnapshot_injective`). Evidence names the paths whose contents differ
(`mem_evidence`).
-/

namespace Praxis.Planner

set_option autoImplicit false

open Praxis.Foundations

variable {Digest : Type} {rules : DigestRules Digest}

/-! ## Digests of lists -/

theorem utf8_injective : Function.Injective utf8 := by
  intro left right same
  have bytes : left.toUTF8.data = right.toUTF8.data := Array.toList_inj.mp same
  exact String.toByteArray_inj.mp (ByteArray.ext bytes)

theorem plain_of_digit {number : Nat} {c : Char} (member : c ∈ (toString number).toList) :
    31 < c.toNat := by
  rw [Nat.toString_eq_repr, Nat.toList_repr] at member
  have digit := Nat.isDigit_of_mem_toDigits (by decide) (by decide) member
  simp only [Char.isDigit, Bool.and_eq_true, decide_eq_true_eq] at digit
  have least : (48 : Nat) ≤ c.toNat := digit.1
  omega

/-- A file of a snapshot whose path has no control characters. -/
def WorkspaceFileSnapshotV1.Plain (file : WorkspaceFileSnapshotV1 Digest) : Prop :=
  ∀ c ∈ file.path.toList, 31 < c.toNat

theorem canonicalLine_eq (file : WorkspaceFileSnapshotV1 Digest) :
    canonicalLine rules file = (String.singleton '\x00').intercalate
      [file.path, toString file.bytes, rules.text file.digest] := by
  simp [canonicalLine, String.intercalate_cons_cons, String.append_assoc]

theorem canonicalLine_injective {file other : WorkspaceFileSnapshotV1 Digest} (plain : file.Plain)
    (plain' : other.Plain) (same : canonicalLine rules file = canonicalLine rules other) :
    file = other := by
  have free : ∀ file : WorkspaceFileSnapshotV1 Digest, file.Plain →
      ∀ text ∈ [file.path, toString file.bytes, rules.text file.digest], '\x00' ∉ text.toList := by
    intro file plain text member none
    have high : 31 < '\x00'.toNat := by
      simp only [List.mem_cons, List.not_mem_nil, or_false] at member
      rcases member with rfl | rfl | rfl
      · exact plain _ none
      · exact plain_of_digit none
      · exact rules.text_plain _ _ none
    exact absurd high (by decide)
  rw [canonicalLine_eq, canonicalLine_eq] at same
  have parts := intercalate_injective (free file plain) (by simp) (free other plain') (by simp) same
  obtain ⟨path, rest⟩ := List.cons.inj parts
  obtain ⟨bytes, rest⟩ := List.cons.inj rest
  obtain ⟨text, _⟩ := List.cons.inj rest
  cases file
  cases other
  simp only [WorkspaceFileSnapshotV1.mk.injEq]
  exact ⟨path, rules.text_injective text, toString_injective bytes⟩

/-- **Lists of files with the same digest are the same.** -/
theorem freezeSnapshot_injective {root root' : String} {files others : List (WorkspaceFileSnapshotV1 Digest)}
    (plain : ∀ file ∈ files, file.Plain) (plain' : ∀ file ∈ others, file.Plain)
    (same : (freezeSnapshot rules root files).digest = (freezeSnapshot rules root' others).digest) :
    files = others := by
  have texts := utf8_injective (rules.digest_injective same)
  have free : ∀ files : List (WorkspaceFileSnapshotV1 Digest), (∀ file ∈ files, file.Plain) →
      ∀ text ∈ files.map (canonicalLine rules), '\n' ∉ text.toList ∧ text ≠ "" := by
    intro files plain text member
    obtain ⟨file, among, rfl⟩ := List.mem_map.mp member
    constructor
    · intro newline
      simp only [canonicalLine, String.toList_append, List.mem_append] at newline
      have high : 31 < '\n'.toNat := by
        rcases newline with (((path | separator) | bytes) | separator) | digest
        · exact plain file among _ path
        · exact absurd separator (by decide)
        · exact plain_of_digit bytes
        · exact absurd separator (by decide)
        · exact rules.text_plain _ _ digest
      exact absurd high (by decide)
    · intro empty
      have chars := congrArg String.toList empty
      simp [canonicalLine] at chars
  have lines := intercalate_injective_of_ne (free files plain) (free others plain') texts
  -- the lines are read back one by one
  clear texts same
  induction files generalizing others with
  | nil => exact (List.map_eq_nil_iff.mp lines.symm).symm
  | cons file rest ih =>
    cases others with
    | nil => cases lines
    | cons other later =>
      obtain ⟨first, rest'⟩ := List.cons.inj lines
      obtain ⟨here, there⟩ := List.forall_mem_cons.mp plain
      obtain ⟨here', there'⟩ := List.forall_mem_cons.mp plain'
      rw [canonicalLine_injective here here' first, ih there there' rest']

/-! ## The files of a workspace -/

variable (workspace : Workspace)

namespace Workspace

/-- The entries that a walk does not pass over. -/
def kept : List (String × FileNode Bytes) :=
  workspace.entries.filter fun entry => entry.1 != ".git"

/-- The files of a workspace under their paths. -/
def files : List (String × Bytes) :=
  (FileNode.entryFiles [] workspace.kept).map fun file => ("/".intercalate file.1, file.2)

/-- The file map: the content under a path. -/
def contentAt (path : String) : Option Bytes :=
  (workspace.files.find? (·.1 == path)).map (·.2)

/-- There are only files and directories. -/
def Regular : Prop := FileNode.RegularEntries workspace.kept

/-- The files and their bytes are within the bounds of a guard. -/
structure Within (workspace : Workspace) (limits : SnapshotLimits) : Prop where
  files : workspace.files.length ≤ limits.maxFiles
  bytes : (workspace.files.map (·.2.length)).sum ≤ limits.maxBytes

/-- Every path of a workspace can be written in a plan. -/
def Portable : Prop :=
  ∀ file ∈ workspace.files, (isPortablePlanPathV1 file.1 && file.1 != ".") = true

theorem kept_wellNamed : FileNode.WellNamedEntries workspace.kept := by
  have named := FileNode.wellNamedEntries_iff.mp workspace.wellNamed
  refine FileNode.wellNamedEntries_iff.mpr ⟨fun entry member => ?_, ?_⟩
  · exact named.1 entry (List.mem_of_mem_filter member)
  · exact named.2.sublist (List.filter_sublist.map _)

/-- **Each path is listed once.** -/
theorem files_nodup : (workspace.files.map (·.1)).Nodup := by
  have nodup := FileNode.entryFiles_nodup [] workspace.kept workspace.kept_wellNamed
  have same : workspace.files.map (·.1) =
      ((FileNode.entryFiles [] workspace.kept).map (·.1)).map ("/".intercalate ·) := by
    rw [files, List.map_map, List.map_map]
    rfl
  rw [same]
  refine nodup.map_on ?_
  intro left member right member' equal
  obtain ⟨file, listed, rfl⟩ := List.mem_map.mp member
  obtain ⟨other, listed', rfl⟩ := List.mem_map.mp member'
  obtain ⟨name, below, _, at_, names⟩ :=
    FileNode.entryFiles_below [] workspace.kept workspace.kept_wellNamed file listed
  obtain ⟨name', below', _, at_', names'⟩ :=
    FileNode.entryFiles_below [] workspace.kept workspace.kept_wellNamed other listed'
  rw [List.nil_append] at at_ at_'
  rw [at_, at_'] at equal ⊢
  exact @intercalate_injective '/' _ _ (fun other member => (names other member).single) (by simp)
    (fun other member => (names' other member).single) (by simp) equal

variable {workspace : Workspace}

theorem path_ne_root {file : String × Bytes} (listed : file ∈ workspace.files) : file.1 ≠ "." := by
  intro root
  obtain ⟨source, member, rfl⟩ := List.mem_map.mp listed
  obtain ⟨name, below, _, at_, names⟩ :=
    FileNode.entryFiles_below [] workspace.kept workspace.kept_wellNamed source member
  rw [List.nil_append] at at_
  have joined : (String.singleton '/').intercalate (name :: below) =
      (String.singleton '/').intercalate ["."] := by
    rw [← at_]
    exact root
  have same := intercalate_injective (fun other member => (names other member).single) (by simp)
    (by simp) (by simp) joined
  exact (names name List.mem_cons_self).proper.2.1 (List.cons.inj same).1

theorem contentAt_eq_some {path : String} {content : Bytes} :
    workspace.contentAt path = some content ↔ (path, content) ∈ workspace.files := by
  rw [contentAt, Option.map_eq_some_iff]
  constructor
  · rintro ⟨file, found, rfl⟩
    have named : file.1 = path := by simpa using List.find?_some found
    rw [← named]
    exact List.mem_of_find?_eq_some found
  · intro member
    cases found : workspace.files.find? (·.1 == path) with
    | none => simpa using List.find?_eq_none.mp found _ member
    | some file =>
      have named : file.1 = path := by simpa using List.find?_some found
      have same := List.inj_on_of_nodup_map workspace.files_nodup
        (List.mem_of_find?_eq_some found) member named
      exact ⟨file, rfl, by rw [same]⟩

end Workspace

/-! ## The walk -/

section Walks

variable {limits : SnapshotLimits} {names : List String} {walk after : Walk Digest}

theorem portableRelative_ok {path : String} :
    portableRelative names = .ok path ↔
      (isPortablePlanPathV1 ("/".intercalate names) && "/".intercalate names != ".") = true ∧
        path = "/".intercalate names := by
  simp only [portableRelative, bind_eq_ok, ensure_eq_ok, exists_const, pure_eq_ok]
  exact and_congr_right fun _ => eq_comm

mutual

theorem visit_eq (directory : List String) :
    (entries : List (String × FileNode Bytes)) →
    FileNode.RegularEntries (entries.filter fun entry => !(directory.isEmpty && entry.1 == ".git")) →
    ∀ walk : Walk Digest, visit rules limits directory entries walk =
      (FileNode.entryFiles directory
        (entries.filter fun entry => !(directory.isEmpty && entry.1 == ".git"))).foldlM
        (fun walk file => walk.add rules limits file.1 file.2) walk
  | [], _ => fun _ => rfl
  | (name, node) :: rest, regular => by
      intro walk
      rw [visit]
      by_cases passed : (directory.isEmpty && name == ".git") = true
      · have skipped : ((name, node) :: rest).filter
            (fun entry => !(directory.isEmpty && entry.1 == ".git")) =
              rest.filter fun entry => !(directory.isEmpty && entry.1 == ".git") :=
          List.filter_cons_of_neg (by simp [passed])
        rw [skipped] at regular ⊢
        rw [if_pos passed]
        exact visit_eq directory rest regular walk
      · have stays : (!(directory.isEmpty && name == ".git")) = true := by
          rw [Bool.not_eq_true']
          exact Bool.eq_false_of_not_eq_true passed
        have kept : ((name, node) :: rest).filter
            (fun entry => !(directory.isEmpty && entry.1 == ".git")) = (name, node) ::
              rest.filter fun entry => !(directory.isEmpty && entry.1 == ".git") :=
          List.filter_cons_of_pos stays
        rw [kept] at regular ⊢
        rw [if_neg passed, FileNode.entryFiles, List.foldlM_append,
          visitNode_eq (directory ++ [name]) (by simp) node regular.1 walk]
        exact bind_congr fun middle => visit_eq directory rest regular.2 middle

theorem visitNode_eq (path : List String) (below : path.isEmpty = false) :
    (node : FileNode Bytes) → node.Regular → ∀ walk : Walk Digest,
    visitNode rules limits path node walk =
      (node.files path).foldlM (fun walk file => walk.add rules limits file.1 file.2) walk
  | .file content, _ => by
      intro walk
      rw [visitNode, FileNode.files, List.foldlM_cons]
      simp
  | .directory entries, regular => by
      intro walk
      have all : (entries.filter fun entry => !(path.isEmpty && entry.1 == ".git")) = entries := by
        simp [below]
      have step := visit_eq path entries (by rw [all]; exact regular) walk
      rw [all] at step
      rw [visitNode, FileNode.files, step]
  | .link, regular => absurd regular id
  | .other, regular => absurd regular id

end

def snapshotFile (rules : DigestRules Digest) (file : String × Bytes) : WorkspaceFileSnapshotV1 Digest where
  path := file.1
  digest := rules.digest file.2
  bytes := file.2.length

/-- The path and content of a file that a walk came to. -/
def textFile (file : List String × Bytes) : String × Bytes := ("/".intercalate file.1, file.2)

theorem add_ok {content : Bytes} :
    walk.add rules limits names content = .ok after ↔
      walk.files.length < limits.maxFiles ∧ walk.totalBytes + content.length ≤ limits.maxBytes ∧
      (isPortablePlanPathV1 ("/".intercalate names) && "/".intercalate names != ".") = true ∧
      after =
        { files := walk.files ++ [snapshotFile rules (textFile (names, content))]
          totalBytes := walk.totalBytes + content.length } := by
  simp only [Walk.add, bind_eq_ok, ensure_eq_ok, exists_const, pure_eq_ok, portableRelative_ok,
    Bool.not_eq_true', Bool.or_eq_false_iff, decide_eq_false_iff_not, Nat.not_le, Nat.not_lt]
  constructor
  · rintro ⟨⟨few, small⟩, _, ⟨portable, rfl⟩, rfl⟩
    exact ⟨few, small, portable, rfl⟩
  · rintro ⟨few, small, portable, rfl⟩
    exact ⟨⟨few, small⟩, _, ⟨portable, rfl⟩, rfl⟩

theorem addAll_ok {files : List (List String × Bytes)}
    (few : walk.files.length ≤ limits.maxFiles) (small : walk.totalBytes ≤ limits.maxBytes) :
    files.foldlM (fun walk file => walk.add rules limits file.1 file.2) walk = .ok after ↔
      walk.files.length + files.length ≤ limits.maxFiles ∧
      walk.totalBytes + (files.map (·.2.length)).sum ≤ limits.maxBytes ∧
      (∀ file ∈ files, (isPortablePlanPathV1 (textFile file).1 && (textFile file).1 != ".") = true) ∧
      after =
        { files := walk.files ++ files.map fun file => snapshotFile rules (textFile file)
          totalBytes := walk.totalBytes + (files.map (·.2.length)).sum } := by
  induction files generalizing walk with
  | nil =>
    rw [foldlM_nil_eq_ok]
    constructor
    · rintro rfl
      exact ⟨few, small, fun _ none => absurd none List.not_mem_nil, by simp⟩
    · rintro ⟨_, _, _, rfl⟩
      simp
  | cons file rest ih =>
    rw [foldlM_cons_eq_ok, List.length_cons, List.map_cons, List.sum_cons, List.forall_mem_cons]
    constructor
    · rintro ⟨middle, first, others⟩
      obtain ⟨few', small', portable, rfl⟩ := add_ok.mp first
      have grown : (walk.files ++ [snapshotFile rules (textFile (file.1, file.2))]).length ≤
          limits.maxFiles := by
        rw [List.length_append, List.length_singleton]
        omega
      obtain ⟨files, bytes, paths, rfl⟩ := (ih grown small').mp others
      rw [List.length_append, List.length_singleton] at files
      change walk.totalBytes + file.2.length + (rest.map (·.2.length)).sum ≤ _ at bytes
      refine ⟨by omega, by omega, ⟨portable, paths⟩, ?_⟩
      simp [Nat.add_assoc, List.append_assoc]
    · rintro ⟨files, bytes, ⟨portable, paths⟩, rfl⟩
      refine ⟨_, add_ok.mpr ⟨by omega, by omega, portable, rfl⟩, ?_⟩
      refine (ih ?_ ?_).mpr ⟨?_, ?_, paths, ?_⟩
      · rw [List.length_append, List.length_singleton]
        omega
      · change walk.totalBytes + file.2.length ≤ limits.maxBytes
        omega
      · rw [List.length_append, List.length_singleton]
        omega
      · change walk.totalBytes + file.2.length + (rest.map (·.2.length)).sum ≤ limits.maxBytes
        omega
      · simp [Nat.add_assoc, List.append_assoc]

end Walks

/-! ## Captured snapshots -/

namespace Workspace

variable (rules) in
/-- The files that a walk comes to, in its order. -/
def visited (workspace : Workspace) : List (List String × Bytes) :=
  FileNode.entryFiles [] ((workspace.sorted rules).filter fun entry => entry.1 != ".git")

variable (rules) in
/-- The same, under their paths. -/
def walked (workspace : Workspace) : List (String × Bytes) := (workspace.visited rules).map textFile

variable (rules) in
/-- The files of a workspace in the order of a snapshot. -/
def listed (workspace : Workspace) : List (String × Bytes) :=
  sortByPath rules (·.1) (workspace.walked rules)

theorem walked_entries (workspace : Workspace) :
    ((workspace.sorted rules).filter fun entry => entry.1 != ".git").Perm
      (FileNode.sortedEntries rules.le workspace.kept) := by
  rw [kept, ← FileNode.sortedEntries_filter rules.le (· != ".git")]
  exact (List.perm_insertionSort _ _).filter _

theorem walked_perm (workspace : Workspace) : (workspace.walked rules).Perm workspace.files := by
  refine List.Perm.map _ ?_
  refine (FileNode.entryFiles_perm workspace.walked_entries []).trans ?_
  exact FileNode.sortedEntries_files rules.le [] workspace.kept

theorem listed_perm (workspace : Workspace) : (workspace.listed rules).Perm workspace.files :=
  (List.perm_insertionSort _ _).trans workspace.walked_perm

theorem walked_regular {workspace : Workspace} (regular : workspace.Regular) :
    FileNode.RegularEntries ((workspace.sorted rules).filter fun entry => entry.1 != ".git") := by
  have entries := FileNode.regularEntries_iff.mp
    ((FileNode.sortedEntries_regular rules.le workspace.kept).mpr regular)
  exact FileNode.regularEntries_iff.mpr fun entry member =>
    entries entry (workspace.walked_entries.mem_iff.mp member)

theorem sortByPath_map {α β : Type} {path : α → String} {path' : β → String} {f : α → β}
    (same : ∀ item, path' (f item) = path item) (items : List α) :
    sortByPath rules path' (items.map f) = (sortByPath rules path items).map f := by
  refine (List.map_insertionSort _ _ f items ?_).symm
  intro left _ right _
  rw [same, same]

end Workspace

/-- **A snapshot lists the files of the workspace**, and is taken if they are within the bounds and
their paths portable. -/
theorem capture_ok {root : String} {limits : SnapshotLimits} {workspace : Workspace}
    {snapshot : WorkspaceSnapshotV1 Digest} (regular : workspace.Regular) :
    captureSnapshot rules root limits workspace = .ok snapshot ↔
      workspace.Within limits ∧ workspace.Portable ∧
        snapshot = freezeSnapshot rules root ((workspace.listed rules).map (snapshotFile rules)) := by
  have walk : visit rules limits [] (workspace.sorted rules) {} =
      (workspace.visited rules).foldlM (fun walk file => walk.add rules limits file.1 file.2) {} :=
    visit_eq [] (workspace.sorted rules) (Workspace.walked_regular regular) {}
  have perm : ((workspace.visited rules).map textFile).Perm workspace.files := workspace.walked_perm
  have count : (workspace.visited rules).length = workspace.files.length := by
    rw [← perm.length_eq, List.length_map]
  have bytes : ((workspace.visited rules).map (·.2.length)).sum =
      (workspace.files.map (·.2.length)).sum := by
    rw [← (perm.map (·.2.length)).sum_nat, List.map_map]
    rfl
  have listing : sortByPath rules (·.path)
      ((workspace.visited rules).map fun file => snapshotFile rules (textFile file)) =
        (workspace.listed rules).map (snapshotFile rules) := by
    have both : (workspace.visited rules).map (fun file => snapshotFile rules (textFile file)) =
        (workspace.walked rules).map (snapshotFile rules) := by
      rw [Workspace.walked, List.map_map]
      rfl
    rw [both]
    exact Workspace.sortByPath_map (fun _ => rfl) _
  have paths : (∀ file ∈ workspace.visited rules,
      (isPortablePlanPathV1 (textFile file).1 && (textFile file).1 != ".") = true) ↔
        workspace.Portable := by
    constructor
    · intro portable file listed
      obtain ⟨raw, member, rfl⟩ := List.mem_map.mp (perm.mem_iff.mpr listed)
      exact portable raw member
    · intro portable raw member
      exact portable (textFile raw) (perm.mem_iff.mp (List.mem_map_of_mem member))
  rw [captureSnapshot, walk, bind_eq_ok]
  constructor
  · rintro ⟨found, added, taken⟩
    obtain ⟨few, small, portable, rfl⟩ := (addAll_ok (Nat.zero_le _) (Nat.zero_le _)).mp added
    rw [pure_eq_ok] at taken
    refine ⟨⟨?_, ?_⟩, paths.mp portable, ?_⟩
    · simpa [count] using few
    · simpa [bytes] using small
    · rw [← taken, ← listing]
      simp
  · rintro ⟨within, portable, rfl⟩
    refine ⟨_, (addAll_ok (Nat.zero_le _) (Nat.zero_le _)).mpr
      ⟨?_, ?_, paths.mpr portable, rfl⟩, ?_⟩
    · simpa [count] using within.files
    · simpa [bytes] using within.bytes
    · rw [pure_eq_ok, ← listing]
      simp

/-! ## Workspaces with the same files -/

namespace Workspace

/-- Two states of a workspace have the same file map. -/
def SameFiles (workspace other : Workspace) : Prop :=
  ∀ path, workspace.contentAt path = other.contentAt path

variable {workspace other : Workspace}

theorem SameFiles.symm (same : workspace.SameFiles other) :
    other.SameFiles workspace := fun path => (same path).symm

theorem mem_files_iff (same : workspace.SameFiles other)
    (file : String × Bytes) : file ∈ workspace.files ↔ file ∈ other.files := by
  rw [← Prod.mk.eta (p := file), ← contentAt_eq_some, ← contentAt_eq_some, same]

theorem mem_listed {file : String × Bytes} :
    file ∈ workspace.listed rules ↔ file ∈ workspace.files := workspace.listed_perm.mem_iff

theorem listed_nodup (workspace : Workspace) : ((workspace.listed rules).map (·.1)).Nodup :=
  (workspace.listed_perm.map (·.1)).nodup_iff.mpr workspace.files_nodup

theorem listed_of_paths (workspace : Workspace) :
    workspace.listed rules = ((workspace.listed rules).map (·.1)).map
      fun path => (path, (workspace.contentAt path).getD []) := by
  rw [List.map_map]
  refine (List.map_id _).symm.trans (List.map_congr_left fun file member => ?_)
  have content := contentAt_eq_some.mpr (mem_listed.mp member)
  change file = (file.1, (workspace.contentAt file.1).getD [])
  rw [content]
  rfl

/-- **Two listings are equal if the files are the same and are listed in the same order.** -/
theorem listed_eq_iff :
    workspace.listed rules = other.listed rules ↔ workspace.SameFiles other ∧
      (workspace.listed rules).map (·.1) = (other.listed rules).map (·.1) := by
  constructor
  · intro equal
    refine ⟨fun path => Option.ext fun content => ?_, by rw [equal]⟩
    have member : (path, content) ∈ workspace.listed rules ↔ (path, content) ∈ other.listed rules := by
      rw [equal]
    rw [mem_listed, mem_listed] at member
    rw [contentAt_eq_some, contentAt_eq_some, member]
  · rintro ⟨same, paths⟩
    rw [listed_of_paths workspace, listed_of_paths other, paths]
    exact List.map_congr_left fun path _ => by rw [same path]

variable (rules) in
def snapshot (root : String) (workspace : Workspace) : WorkspaceSnapshotV1 Digest :=
  freezeSnapshot rules root ((workspace.listed rules).map (snapshotFile rules))

theorem plain_of_portable (portable : workspace.Portable) :
    ∀ file ∈ (workspace.listed rules).map (snapshotFile rules), file.Plain := by
  intro file member c inside
  obtain ⟨source, listed, rfl⟩ := List.mem_map.mp member
  have path := portable source (mem_listed.mp listed)
  rw [Bool.and_eq_true] at path
  exact Planner.plain_of_portable path.1 inside

theorem snapshotFile_injective : Function.Injective (snapshotFile rules) := by
  intro file other same
  have path : file.1 = other.1 := congrArg WorkspaceFileSnapshotV1.path same
  have digest : rules.digest file.2 = rules.digest other.2 :=
    congrArg WorkspaceFileSnapshotV1.digest same
  exact Prod.ext path (rules.digest_injective digest)

/-- **Snapshots have the same digest exactly if the files are the same and listed in the same
order.** -/
theorem digest_eq_iff {root : String} (portable : workspace.Portable) (portable' : other.Portable) :
    (workspace.snapshot rules root).digest = (other.snapshot rules root).digest ↔
      workspace.SameFiles other ∧
        (workspace.listed rules).map (·.1) = (other.listed rules).map (·.1) := by
  rw [← listed_eq_iff]
  constructor
  · intro same
    have files := freezeSnapshot_injective (plain_of_portable portable) (plain_of_portable portable')
      same
    exact List.map_injective_iff.mpr snapshotFile_injective files
  · intro same
    rw [snapshot, snapshot, same]

/-! ## Evidence -/

theorem fileAt_listed (workspace : Workspace) (path : String) :
    fileAt ((workspace.listed rules).map (snapshotFile rules)) path =
      (workspace.contentAt path).map fun content => snapshotFile rules (path, content) := by
  cases known : workspace.contentAt path with
  | some content =>
    have listed : snapshotFile rules (path, content) ∈
        ((workspace.listed rules).map (snapshotFile rules)).reverse :=
      List.mem_reverse.mpr (List.mem_map_of_mem (mem_listed.mpr (contentAt_eq_some.mp known)))
    cases found : fileAt ((workspace.listed rules).map (snapshotFile rules)) path with
    | none =>
      have apart := List.find?_eq_none.mp found _ listed
      exact absurd (beq_self_eq_true path) apart
    | some file =>
      have named : file.path = path := by simpa using List.find?_some found
      have member := List.mem_reverse.mp (List.mem_of_find?_eq_some found)
      obtain ⟨source, among, rfl⟩ := List.mem_map.mp member
      have there := contentAt_eq_some.mpr (mem_listed.mp among)
      rw [show source.1 = path from named, known] at there
      rw [Option.map_some, Option.some.injEq]
      refine congrArg (snapshotFile rules) (Prod.ext named ?_)
      exact (Option.some.inj there).symm
  | none =>
    rw [Option.map_none, fileAt, List.find?_eq_none]
    intro file member
    obtain ⟨source, among, rfl⟩ := List.mem_map.mp (List.mem_reverse.mp member)
    have there := contentAt_eq_some.mpr (mem_listed.mp among)
    intro named
    rw [show source.1 = path by simpa [snapshotFile] using named, known] at there
    cases there

end Workspace

variable (rules) in
/-- The change of a path between two states of a workspace, if its content differs. -/
def realChange (before after : Workspace) (path : String) : Option (WorkspaceChangedFileV1 Digest) :=
  if before.contentAt path = after.contentAt path then none
  else some
    { path
      change :=
        if (before.contentAt path).isNone then .created
        else if (after.contentAt path).isNone then .deleted else .modified
      beforeDigest := (before.contentAt path).map rules.digest
      afterDigest := (after.contentAt path).map rules.digest }

/-- What evidence says of the two states that it names. -/
structure Evidences [DecidableEq Digest] (rules : DigestRules Digest) (root : String)
    (record : WorkspaceWriteEvidenceV1 Digest) (before after : Workspace) : Prop where
  namesBefore : record.beforeDigest = (before.snapshot rules root).digest
  namesAfter : record.afterDigest = (after.snapshot rules root).digest
  /-- The changes are the real ones, in the order of code units. -/
  changes : ∀ change, change ∈ record.changedFiles ↔
    realChange rules before after change.path = some change
  once : (record.changedFiles.map (·.path)).Nodup
  sorted : (record.changedFiles.map (·.path)).Pairwise fun left right => unitsLe left right = true

section Evidence

variable [DecidableEq Digest] {root : String} {before after : Workspace} {path : String}

omit [DecidableEq Digest] in
theorem realChange_path {change : WorkspaceChangedFileV1 Digest}
    (found : realChange rules before after path = some change) : change.path = path := by
  unfold realChange at found
  split at found
  · cases found
  · rw [← Option.some.inj found]

omit [DecidableEq Digest] in
theorem realChange_isSome :
    (realChange rules before after path).isSome = true ↔
      before.contentAt path ≠ after.contentAt path := by
  unfold realChange
  split
  · rename_i same
    simp [same]
  · rename_i different
    simp [different]

theorem evidence_changes :
    (evidence (before.snapshot rules root) (after.snapshot rules root)).changedFiles =
      (sortTexts (((before.listed rules).map (·.1) ++ (after.listed rules).map (·.1)).dedup)).filterMap
        (realChange rules before after) := by
  have paths : ∀ workspace : Workspace, (workspace.snapshot rules root).files.map (·.path) =
      (workspace.listed rules).map (·.1) := by
    intro workspace
    rw [Workspace.snapshot, freezeSnapshot, List.map_map]
    rfl
  have found : ∀ (workspace : Workspace) (path : String),
      fileAt (workspace.snapshot rules root).files path =
        (workspace.contentAt path).map fun content => snapshotFile rules (path, content) :=
    fun workspace path => workspace.fileAt_listed path
  have digests : ∀ (workspace : Workspace) (path : String),
      ((workspace.contentAt path).map fun content => snapshotFile rules (path, content)).map
        (·.digest) = (workspace.contentAt path).map rules.digest := by
    intro workspace path
    rw [Option.map_map]
    rfl
  simp only [evidence, paths, found, digests]
  refine List.filterMap_congr fun path _ => ?_
  rw [realChange]
  by_cases same : before.contentAt path = after.contentAt path
  · rw [if_pos same, if_pos (by rw [same])]
  · rw [if_neg same, if_neg fun equal =>
      same (Option.map_injective rules.digest_injective equal)]
    simp [changeKind]

/-- **Evidence names the paths whose contents differ**, each once and with its change. -/
theorem evidence_evidences :
    Evidences rules root (evidence (before.snapshot rules root) (after.snapshot rules root))
      before after := by
  have listed : ∀ path, before.contentAt path ≠ after.contentAt path →
      path ∈ sortTexts (((before.listed rules).map (·.1) ++ (after.listed rules).map (·.1)).dedup) := by
    intro path different
    rw [mem_sortTexts, List.mem_dedup, List.mem_append]
    cases there : before.contentAt path with
    | some content =>
      exact .inl (List.mem_map.mpr ⟨_, Workspace.mem_listed.mpr
        (Workspace.contentAt_eq_some.mp there), rfl⟩)
    | none =>
      cases here : after.contentAt path with
      | some content =>
        exact .inr (List.mem_map.mpr ⟨_, Workspace.mem_listed.mpr
          (Workspace.contentAt_eq_some.mp here), rfl⟩)
      | none => exact absurd (there.trans here.symm) different
  have sub : ((evidence (before.snapshot rules root) (after.snapshot rules root)).changedFiles.map
      (·.path)).Sublist
      (sortTexts (((before.listed rules).map (·.1) ++ (after.listed rules).map (·.1)).dedup)) := by
    rw [evidence_changes]
    generalize sortTexts _ = paths
    induction paths with
    | nil => exact .refl _
    | cons path rest ih =>
      cases change : realChange rules before after path with
      | none =>
        rw [List.filterMap_cons_none change]
        exact ih.cons _
      | some found =>
        rw [List.filterMap_cons_some change, List.map_cons, realChange_path change]
        exact ih.cons_cons _
  refine ⟨rfl, rfl, fun change => ?_, ?_, ?_⟩
  · rw [evidence_changes, List.mem_filterMap]
    constructor
    · rintro ⟨path, _, found⟩
      rw [realChange_path found]
      exact found
    · intro found
      refine ⟨change.path, listed _ ?_, found⟩
      exact realChange_isSome.mp (by rw [found]; rfl)
  · exact sub.nodup (nodup_sortTexts.mpr (List.nodup_dedup _))
  · refine List.Pairwise.sublist sub ?_
    exact List.pairwise_mergeSort unitsLe_trans unitsLe_total _

end Evidence

end Praxis.Planner
