import Mathlib

/-!
# File trees

A directory is read as its entries, in the order in which they are listed. The files below it are
its contents under their paths, and a path is written with a `/` between its names. In a tree whose
names are well formed a path leads to at most one file (`files_nodup`), and the order in which the
directories are read changes nothing but the order of the files (`sorted_files`).
-/

namespace Praxis.Foundations

set_option autoImplicit false

/-! ## Texts that are put together with a separator -/

variable {separator : Char} {texts others : List String}

theorem intercalate_injective
    (free : ∀ text ∈ texts, separator ∉ text.toList) (nonempty : texts ≠ [])
    (free' : ∀ text ∈ others, separator ∉ text.toList) (nonempty' : others ≠ [])
    (same : (String.singleton separator).intercalate texts =
      (String.singleton separator).intercalate others) : texts = others := by
  have chars := congrArg String.toList same
  rw [String.toList_intercalate, String.toList_intercalate, String.toList_singleton] at chars
  have split := congrArg (List.splitOn separator) chars
  rw [List.splitOn_intercalate, List.splitOn_intercalate] at split
  · exact (List.map_injective_iff.mpr fun _ _ => String.toList_inj.mp) split
  · simpa using free'
  · simpa using nonempty'
  · simpa using free
  · simpa using nonempty

theorem intercalate_injective_of_ne (free : ∀ text ∈ texts, separator ∉ text.toList ∧ text ≠ "")
    (free' : ∀ text ∈ others, separator ∉ text.toList ∧ text ≠ "")
    (same : (String.singleton separator).intercalate texts =
      (String.singleton separator).intercalate others) : texts = others := by
  have filled : ∀ list : List String, (∀ text ∈ list, text ≠ "") → list ≠ [] →
      (String.singleton separator).intercalate list ≠ "" := by
    intro list each some none
    cases list with
    | nil => exact some rfl
    | cons first rest =>
      have start := each first List.mem_cons_self
      cases rest with
      | nil => exact start (by simpa using none)
      | cons next others =>
        rw [String.intercalate_cons_cons] at none
        have chars := congrArg String.toList none
        rw [String.toList_append, String.toList_append] at chars
        simp at chars
  by_cases none : texts = []
  · by_cases none' : others = []
    · rw [none, none']
    · rw [none, String.intercalate_nil] at same
      exact absurd same.symm (filled others (fun text member => (free' text member).2) none')
  · by_cases none' : others = []
    · rw [none', String.intercalate_nil] at same
      exact absurd same (filled texts (fun text member => (free text member).2) none)
    · exact intercalate_injective (fun text member => (free text member).1) none
        (fun text member => (free' text member).1) none' same

/-! ## Trees -/

/-- What an entry of a directory is: a file, a directory with its entries in the order in which they
are listed, a symbolic link, or something else. -/
inductive FileNode (Content : Type) where
  | file (content : Content)
  | directory (entries : List (String × FileNode Content))
  | link
  | other

variable {Content : Type}

namespace FileNode

mutual

/-- The files of a node that is found under a path. -/
def files (path : List String) : FileNode Content → List (List String × Content)
  | .file content => [(path, content)]
  | .directory entries => entryFiles path entries
  | .link => []
  | .other => []

def entryFiles (path : List String) : List (String × FileNode Content) → List (List String × Content)
  | [] => []
  | (name, node) :: rest => node.files (path ++ [name]) ++ entryFiles path rest

end

mutual

/-- There are only files and directories. -/
def Regular : FileNode Content → Prop
  | .file _ => True
  | .directory entries => RegularEntries entries
  | .link => False
  | .other => False

def RegularEntries : List (String × FileNode Content) → Prop
  | [] => True
  | (_, node) :: rest => node.Regular ∧ RegularEntries rest

end

/-- A name that an entry can have. -/
structure Name (name : String) : Prop where
  single : '/' ∉ name.toList
  proper : name ≠ "" ∧ name ≠ "." ∧ name ≠ ".."

mutual

/-- The names are well formed, and those of one directory are different. -/
def WellNamed : FileNode Content → Prop
  | .file _ => True
  | .directory entries => WellNamedEntries entries
  | .link => True
  | .other => True

def WellNamedEntries : List (String × FileNode Content) → Prop
  | [] => True
  | (name, node) :: rest =>
    Name name ∧ (∀ entry ∈ rest, entry.1 ≠ name) ∧ node.WellNamed ∧ WellNamedEntries rest

end

theorem entryFiles_eq (path : List String) (entries : List (String × FileNode Content)) :
    entryFiles path entries = entries.flatMap fun entry => entry.2.files (path ++ [entry.1]) := by
  induction entries with
  | nil => rfl
  | cons entry rest ih => rw [entryFiles, List.flatMap_cons, ih]

variable {entries : List (String × FileNode Content)}

theorem regularEntries_iff :
    RegularEntries entries ↔ ∀ entry ∈ entries, entry.2.Regular := by
  induction entries with
  | nil => simp [RegularEntries]
  | cons entry rest ih => rw [RegularEntries, ih, List.forall_mem_cons]

theorem wellNamedEntries_iff :
    WellNamedEntries entries ↔ (∀ entry ∈ entries, Name entry.1 ∧ entry.2.WellNamed) ∧
      (entries.map (·.1)).Nodup := by
  induction entries with
  | nil => simp [WellNamedEntries]
  | cons entry rest ih =>
    rw [WellNamedEntries, ih, List.forall_mem_cons, List.map_cons, List.nodup_cons, List.mem_map]
    constructor
    · rintro ⟨name, others, node, each, different⟩
      exact ⟨⟨⟨name, node⟩, each⟩, fun ⟨entry, member, same⟩ => others entry member same, different⟩
    · rintro ⟨⟨⟨name, node⟩, each⟩, others, different⟩
      exact ⟨name, fun entry member same => others ⟨entry, member, same⟩, node, each, different⟩

/-! ### Paths -/

mutual

theorem files_below (path : List String) : (node : FileNode Content) → node.WellNamed →
    ∀ file ∈ node.files path, ∃ below, file.1 = path ++ below ∧ ∀ name ∈ below, Name name
  | .file content, _ => by
      intro file member
      rw [files, List.mem_singleton] at member
      exact ⟨[], by rw [member, List.append_nil], fun _ none => absurd none List.not_mem_nil⟩
  | .directory entries, named => by
      intro file member
      rw [files] at member
      obtain ⟨name, below, _, same, names⟩ := entryFiles_below path entries named file member
      exact ⟨name :: below, same, names⟩
  | .link, _ => fun _ member => absurd member List.not_mem_nil
  | .other, _ => fun _ member => absurd member List.not_mem_nil

theorem entryFiles_below (path : List String) :
    (entries : List (String × FileNode Content)) → WellNamedEntries entries →
    ∀ file ∈ entryFiles path entries, ∃ name below, name ∈ entries.map (·.1) ∧
      file.1 = path ++ name :: below ∧ ∀ other ∈ name :: below, Name other
  | [], _ => fun _ member => absurd member List.not_mem_nil
  | (name, node) :: rest, ⟨proper, _, named, others⟩ => by
      intro file member
      rw [entryFiles, List.mem_append] at member
      rcases member with here | later
      · obtain ⟨below, same, names⟩ := files_below (path ++ [name]) node named file here
        refine ⟨name, below, List.mem_cons_self, ?_, List.forall_mem_cons.mpr ⟨proper, names⟩⟩
        rw [same, List.append_assoc, List.singleton_append]
      · obtain ⟨other, below, member, same, names⟩ := entryFiles_below path rest others file later
        exact ⟨other, below, List.mem_cons_of_mem _ member, same, names⟩

end

mutual

/-- **A path leads to one file at most.** -/
theorem files_nodup (path : List String) : (node : FileNode Content) → node.WellNamed →
    ((node.files path).map (·.1)).Nodup
  | .file _, _ => List.nodup_singleton _
  | .directory entries, named => entryFiles_nodup path entries named
  | .link, _ => List.nodup_nil
  | .other, _ => List.nodup_nil

theorem entryFiles_nodup (path : List String) :
    (entries : List (String × FileNode Content)) → WellNamedEntries entries →
    ((entryFiles path entries).map (·.1)).Nodup
  | [], _ => List.nodup_nil
  | (name, node) :: rest, ⟨_, different, named, others⟩ => by
      rw [entryFiles, List.map_append, List.nodup_append]
      refine ⟨files_nodup (path ++ [name]) node named, entryFiles_nodup path rest others, ?_⟩
      intro here first there second same
      obtain ⟨file, member, rfl⟩ := List.mem_map.mp first
      obtain ⟨other, member', rfl⟩ := List.mem_map.mp second
      obtain ⟨below, at_, _⟩ := files_below (path ++ [name]) node named file member
      obtain ⟨name', below', listed, at_', _⟩ := entryFiles_below path rest others other member'
      -- both paths go through the name of their entry
      rw [at_, at_', List.append_assoc, List.append_cancel_left_eq, List.singleton_append] at same
      obtain ⟨entry, entered, rfl⟩ := List.mem_map.mp listed
      exact different entry entered (List.cons.inj same).1.symm

end

/-! ### The order of the entries -/

mutual

/-- The tree whose directories are listed in an order of the names. -/
def sorted (le : String → String → Bool) : FileNode Content → FileNode Content
  | .directory entries =>
    .directory ((sortedEntries le entries).insertionSort fun left right => le left.1 right.1)
  | .file content => .file content
  | .link => .link
  | .other => .other

def sortedEntries (le : String → String → Bool) :
    List (String × FileNode Content) → List (String × FileNode Content)
  | [] => []
  | (name, node) :: rest => (name, node.sorted le) :: sortedEntries le rest

end

theorem entryFiles_perm {others : List (String × FileNode Content)} (perm : entries.Perm others)
    (path : List String) : (entryFiles path entries).Perm (entryFiles path others) := by
  rw [entryFiles_eq, entryFiles_eq]
  exact perm.flatMap_right _

mutual

/-- **The order of the entries decides the order of the files only.** -/
theorem sorted_files (le : String → String → Bool) (path : List String) :
    (node : FileNode Content) → ((node.sorted le).files path).Perm (node.files path)
  | .file _ => .refl _
  | .directory entries =>
    (entryFiles_perm (List.perm_insertionSort _ _) path).trans (sortedEntries_files le path entries)
  | .link => .refl _
  | .other => .refl _

theorem sortedEntries_files (le : String → String → Bool) (path : List String) :
    (entries : List (String × FileNode Content)) →
    (entryFiles path (sortedEntries le entries)).Perm (entryFiles path entries)
  | [] => .refl _
  | (name, node) :: rest =>
    (sorted_files le (path ++ [name]) node).append (sortedEntries_files le path rest)

end

/-- Sorting a directory's entries keeps their names. -/
theorem sortedEntries_filter (le : String → String → Bool) (keep : String → Bool)
    (entries : List (String × FileNode Content)) :
    (sortedEntries le entries).filter (fun entry => keep entry.1) =
      sortedEntries le (entries.filter fun entry => keep entry.1) := by
  induction entries with
  | nil => rfl
  | cons entry rest ih =>
    rw [sortedEntries, List.filter_cons, List.filter_cons, ih]
    split
    · rw [sortedEntries]
    · rfl

mutual

theorem sorted_regular (le : String → String → Bool) :
    (node : FileNode Content) → ((node.sorted le).Regular ↔ node.Regular)
  | .file _ => Iff.rfl
  | .directory entries => by
      rw [sorted, Regular, Regular, regularEntries_iff, ← sortedEntries_regular le entries,
        regularEntries_iff]
      exact forall_congr' fun entry =>
        imp_congr_left (List.perm_insertionSort _ _).mem_iff
  | .link => Iff.rfl
  | .other => Iff.rfl

theorem sortedEntries_regular (le : String → String → Bool) :
    (entries : List (String × FileNode Content)) →
    (RegularEntries (sortedEntries le entries) ↔ RegularEntries entries)
  | [] => Iff.rfl
  | (_, node) :: rest => by
      rw [sortedEntries, RegularEntries, RegularEntries, sorted_regular le node,
        sortedEntries_regular le rest]

end

end FileNode

end Praxis.Foundations
