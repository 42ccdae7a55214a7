import SpecReview.Proofs.Path.Joining
import SpecReview.Proofs.Tree.Beneath

/-! # The ids of a project

The ids are names of folders. In a tree that a file system can hold no name is there twice, and
every one of them leads to its folder, unless the path to there is too long or the system does not
look the name up. A name that leads to a folder need not be among the ids: links are not listed, nor
is what the system does not show. -/

namespace SpecReview

open SpecReview.Path

theorem Node.isFolder_iff {n : Node} :
    n.isFolder = true ↔ ∃ access es, n = .folder access es := by
  cases n <;> simp [isFolder]

namespace FileTree

variable {t : FileTree} {p : Path} {name : String}

/-! ## The folders in a folder -/

/-- Why a name cannot be looked up in the folder that a path leads to, if it cannot. -/
def bar? (t : FileTree) (p : Path) (name : String) : Option String :=
  (t.access? p).bind (·.bars name)

/-- Whether a list of the folders in the folder that a path leads to passes over what a name leads
to: it does over a link and over what the system does not show. -/
def Overlooks (t : FileTree) (p : Path) (name : String) : Prop :=
  ∃ access es, t.node? p = some (.folder access es) ∧
    (access.shows name = false ∨ ∃ target, es.lookup name = some (.link target))

theorem mem_visibleFolders_iff :
    name ∈ t.visibleFolders p ↔ name.toList.head? ≠ some '.' ∧ ∃ access es inner fs,
      t.node? p = some (.folder access es) ∧ access.shows name = true ∧
        (name, .folder inner fs) ∈ es := by
  unfold visibleFolders
  cases t.node? p with
  | none => simp
  | some n =>
      cases n with
      | file content => simp
      | link target => simp
      | folder access es =>
          simp only [List.mem_mergeSort, List.mem_map, List.mem_filter, Bool.and_eq_true,
            Node.isFolder_iff, decide_eq_true_eq, Option.some.injEq, Node.folder.injEq]
          constructor
          · rintro ⟨⟨_, _⟩, ⟨he, ⟨hshows, inner, fs, rfl⟩, hvisible⟩, rfl⟩
            exact ⟨hvisible, access, es, inner, fs, ⟨rfl, rfl⟩, hshows, he⟩
          · rintro ⟨hvisible, _, _, inner, fs, ⟨rfl, rfl⟩, hshows, he⟩
            exact ⟨_, ⟨he, ⟨hshows, inner, fs, rfl⟩, hvisible⟩, rfl⟩

theorem nodup_visibleFolders (ht : t.root.Plain) (p : Path) : (t.visibleFolders p).Nodup := by
  unfold visibleFolders
  split
  · rename_i access es hes
    have hplain := plain_of_node? ht hes
    cases hplain with
    | folder _ _ _ hdistinct _ =>
        rw [(List.mergeSort_perm _ _).nodup_iff]
        exact hdistinct.sublist (List.filter_sublist.map _)
  · exact List.nodup_nil

theorem plainName_of_mem_visibleFolders (ht : t.root.Plain) (h : name ∈ t.visibleFolders p) :
    PlainName name := by
  obtain ⟨-, access, es, inner, fs, hes, -, hmem⟩ := mem_visibleFolders_iff.mp h
  cases plain_of_node? ht hes with
  | folder _ _ hplain _ _ => exact hplain _ hmem

/-- The folder in a folder is found by its name, unless the path to it is too long or the name is
not looked up. -/
theorem isFolder_join_iff (ht : t.root.Plain) (hs : t.root.Short)
    (h : name ∈ t.visibleFolders p) :
    t.isFolder (p.join name) = true ↔ (p.join name).withinLimit = true ∧ t.bar? p name = none := by
  have hname := plainName_of_mem_visibleFolders ht h
  obtain ⟨-, access, es, inner, fs, hes, -, hmem⟩ := mem_visibleFolders_iff.mp h
  obtain ⟨place, -, hat⟩ := node?_eq_some_iff.mp hes
  cases hs.of_at? hat with
  | folder _ _ hshort _ =>
      cases ht.of_at? hat with
      | folder _ _ _ hdistinct _ =>
          have hlookup := (Node.lookup_eq_some_iff_mem hdistinct).mpr hmem
          have hdown : (Node.folder access es).at? [name] = some (.folder inner fs) := by
            rw [Node.at?_folder_cons, hlookup]
            rfl
          have hbarrier : (Node.folder access es).barrier? [name] = none ↔
              t.bar? p name = none := by
            have hlimit : ¬ nameLimit < name.utf8ByteSize := Nat.not_lt.mpr (hshort _ hmem)
            simp only [bar?, access?, hes, Option.bind_some, Node.barrier?, hlookup]
            cases access.bars name <;> simp [hlimit]
          have hnode := node?_foldl_join hes (by simpa using hname) hdown (by simp)
          rw [List.foldl_cons, List.foldl_nil] at hnode
          rw [isFolder, hnode, ← hbarrier]
          split
          · rename_i hfound
            exact iff_of_true rfl hfound
          · rename_i hfound
            exact iff_of_false (by simp) hfound

/-- A folder that is found by its name and is not hidden is one of the folders in a folder, if they
are not listed without it. -/
theorem mem_visibleFolders_or_overlooks (ht : t.root.Plain) (hp : p.text ≠ "")
    (hname : PlainName name) (hvisible : name.toList.head? ≠ some '.')
    (h : t.isFolder (p.join name) = true) : name ∈ t.visibleFolders p ∨ t.Overlooks p name := by
  obtain ⟨place, hplace, inner, fs, hfs⟩ := isFolder_iff.mp h
  obtain ⟨access, es, hes, hentry⟩ := of_locate_join hp hname hplace
  rcases hentry with hlink | hlookup
  · exact Or.inr ⟨access, es, hes, Or.inr hlink⟩
  · cases hshows : access.shows name with
    | false => exact Or.inr ⟨access, es, hes, Or.inl hshows⟩
    | true =>
        cases plain_of_node? ht hes with
        | folder _ _ _ hdistinct _ =>
            have hmem := (Node.lookup_eq_some_iff_mem hdistinct).mp (hlookup.trans hfs)
            exact Or.inl
              (mem_visibleFolders_iff.mpr ⟨hvisible, access, es, inner, fs, hes, hshows, hmem⟩)

theorem withinLimit_of_isFile (h : t.isFile p = true) : p.withinLimit = true := by
  unfold isFile at h
  split at h
  · rename_i content hn
    obtain ⟨place, hplace, -⟩ := node?_eq_some_iff.mp hn
    exact withinLimit_of_locate hplace
  · cases h

end FileTree

namespace Project

variable {t : FileTree} {root : Path} {id : String}

theorem nodup_changeIds (ht : t.root.Plain) (root : Path) : (changeIds t root).Nodup :=
  (FileTree.nodup_visibleFolders ht _).filter _

theorem nodup_specIds (ht : t.root.Plain) (root : Path) : (specIds t root).Nodup :=
  (FileTree.nodup_visibleFolders ht _).filter _

theorem isFolder_changePath_iff (ht : t.root.Plain) (hs : t.root.Short)
    (h : id ∈ changeIds t root) :
    t.isFolder (changePath root id) = true ↔
      (changePath root id).withinLimit = true ∧ t.bar? (root.join "changes") id = none :=
  FileTree.isFolder_join_iff ht hs (List.mem_of_mem_filter h)

theorem isFile_specPath (h : id ∈ specIds t root) : t.isFile (specPath root id) = true :=
  (List.mem_filter.mp h).2

/-- A folder of a visible name is a change, unless it is the archive or overlooked. -/
theorem mem_changeIds_or_overlooks (ht : t.root.Plain) (hname : PlainName id)
    (hvisible : id.toList.head? ≠ some '.') (h : t.isFolder (changePath root id) = true) :
    id ∈ changeIds t root ∨ id = "archive" ∨ t.Overlooks (root.join "changes") id := by
  have hne : (root.join "changes").text ≠ "" := join_text_ne_of_ne root (by decide)
  rcases FileTree.mem_visibleFolders_or_overlooks ht hne hname hvisible h with hmem | hoverlooks
  · by_cases harchive : id = "archive"
    · exact Or.inr (Or.inl harchive)
    · exact Or.inl (List.mem_filter.mpr ⟨hmem, by simpa using harchive⟩)
  · exact Or.inr (Or.inr hoverlooks)

/-- A spec file in a folder of a visible name is a base spec, unless the folder is overlooked. -/
theorem mem_specIds_or_overlooks (ht : t.root.Plain) (hname : PlainName id)
    (hvisible : id.toList.head? ≠ some '.') (h : t.isFile (specPath root id) = true) :
    id ∈ specIds t root ∨ t.Overlooks (root.join "specs") id := by
  have hne : (root.join "specs").text ≠ "" := join_text_ne_of_ne root (by decide)
  have hfile := h
  unfold FileTree.isFile at hfile
  split at hfile
  · rename_i content hn
    obtain ⟨place, hplace, -⟩ := FileTree.node?_eq_some_iff.mp hn
    have hfolder : t.isFolder ((root.join "specs").join id) = true :=
      FileTree.isFolder_of_locate_join (join_text_ne hne id) plainName_specFile hplace
    refine (FileTree.mem_visibleFolders_or_overlooks ht hne hname hvisible hfolder).imp_left ?_
    exact fun hmem => List.mem_filter.mpr ⟨hmem, h⟩
  · cases hfile

/-- The path of a spec is longer than that of a change of the same id. -/
theorem withinLimit_changePath (hname : PlainName id)
    (h : (specPath root id).withinLimit = true) : (changePath root id).withinLimit = true := by
  have hid := hname.isAbsolute_eq_false
  have hchange := utf8ByteSize_join (root.join "changes") hid
  have hlead := utf8ByteSize_lead_le (root.join "changes")
  have hchanges := utf8ByteSize_join root (q := "changes") (by decide)
  have hspec := utf8ByteSize_le_join ((root.join "specs").join id) (q := specFile) (by decide)
  have hfolder := utf8ByteSize_le_join (root.join "specs") hid
  have hspecs := utf8ByteSize_join root (q := "specs") (by decide)
  have hnames : "changes".utf8ByteSize = 7 ∧ "specs".utf8ByteSize = 5 ∧
      specFile.utf8ByteSize = 7 := by decide
  rw [withinLimit_iff, specPath] at h
  rw [withinLimit_iff, changePath]
  omega

end Project

end SpecReview
