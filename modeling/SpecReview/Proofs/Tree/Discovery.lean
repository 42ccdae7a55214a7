import Mathlib.Data.Prod.Lex
import Mathlib.Data.String.Basic
import SpecReview.Proofs.Path.Joining
import SpecReview.Proofs.Tree.Beneath
import SpecReview.Review.Change

/-! # The delta files that are found

The walk through the specs of a change finds every delta file that it comes by once, in the order of
the paths. The capability of a delta file is the way to it, so that different ones have different
base specs where there are no links. -/

namespace SpecReview

namespace Path

variable {p q : Path} {name : String} {names more : List String}

/-! ## The order of paths -/

/-- What the components of a path are ordered by. The root goes before a dot, a dot before two dots,
and these before names, which go by their characters. -/
def orderKeys (p : Path) : List (Nat ×ₗ List Char) :=
  (if p.components.1 then [toLex (0, [])] else []) ++ p.components.2.map fun s =>
    toLex (if s = ['.'] then (1, []) else if s = ['.', '.'] then (2, []) else (3, s))

/-- Whether a path goes before another, component by component. -/
def Precedes (p q : Path) : Prop :=
  p.orderKeys < q.orderKeys

/-- No path goes before one that differs from it in spelling only. -/
theorem Precedes.same_eq_false (h : p.Precedes q) : p.same q = false := by
  rw [same, decide_eq_false_iff_not]
  intro hsame
  rw [Precedes, orderKeys, orderKeys, hsame] at h
  exact lt_irrefl _ h

theorem orderKeys_foldl_join (p : Path) (hnames : ∀ w ∈ names, PlainName w) :
    (names.foldl join p).orderKeys = p.orderKeys ++ names.map fun w => toLex (3, w.toList) := by
  rw [orderKeys, components_foldl_join p hnames, orderKeys, List.map_append, List.map_map,
    List.append_assoc]
  congr 2
  refine List.map_congr_left fun w hw => ?_
  rw [Function.comp_apply, if_neg (hnames w hw).ne_dot, if_neg (hnames w hw).ne_dots]

/-- Paths that lead on by names go in the order of the names. -/
theorem precedes_foldl_join (hnames : ∀ w ∈ names, PlainName w) (hmore : ∀ w ∈ more, PlainName w)
    (h : names < more) : (names.foldl join p).Precedes (more.foldl join p) := by
  rw [Precedes, orderKeys_foldl_join p hnames, orderKeys_foldl_join p hmore]
  refine List.append_left_lt (List.map_lt (fun x y hxy => ?_) h)
  exact Prod.Lex.toLex_lt_toLex.mpr (Or.inr ⟨rfl, String.lt_iff_toList_lt.mp hxy⟩)

/-! ## Joining several names -/

theorem text_ofSegments_cons (n m : String) (names : List String) :
    (ofSegments ((n :: m :: names).map String.toList)).text =
      n ++ "/" ++ (ofSegments ((m :: names).map String.toList)).text := by
  apply String.toList_injective
  simp [ofSegments, joinSlash]

theorem isAbsolute_ofSegments (hnames : ∀ w ∈ names, PlainName w) :
    isAbsolute ⟨(ofSegments (names.map String.toList)).text⟩ = false :=
  FileTree.isAbsolute_capability ⟨""⟩ hnames

/-- To join names one by one is to join the path that they make up. -/
theorem join_ofSegments (p : Path) (hnames : ∀ w ∈ names, PlainName w) {q : String}
    (hq : isAbsolute ⟨q⟩ = false) :
    (p.join (ofSegments (names.map String.toList)).text).join q = (names.foldl join p).join q := by
  induction names generalizing p with
  | nil => exact join_empty_join p hq
  | cons n names ih =>
      obtain ⟨hn, hnames⟩ := List.forall_mem_cons.mp hnames
      rw [List.foldl_cons, ← ih (p.join n) hnames]
      cases names with
      | nil =>
          have htext : (ofSegments ([n].map String.toList)).text = n := String.ofList_toList
          have hempty : (ofSegments (([] : List String).map String.toList)).text = "" := rfl
          rw [htext, hempty, join_empty_join _ hq]
      | cons m names =>
          rw [text_ofSegments_cons, join_append_slash p hn (isAbsolute_ofSegments hnames)]

end Path

namespace FileTree

variable {t : FileTree} {specs bases : Path} {names more place : List String}

/-! ## Capabilities and base specs -/

theorem components_capability (specs : Path) (hnames : ∀ w ∈ names, Path.PlainName w) :
    (deltaFileIn specs names).capability.components = (false, names.map String.toList) := by
  cases names with
  | nil => rfl
  | cons n names =>
      have hn := hnames n (by simp)
      rw [Path.components_of_segments (segments_capability specs hnames (by simp)),
        isAbsolute_capability specs hnames, if_neg hn.ne_empty, List.filter_eq_self.mpr]
      · rfl
      · simpa using fun w hw => (hnames w (List.mem_cons_of_mem n hw)).idle_eq_false

/-- The base spec for a delta file is the file that the capability leads to from the base specs. -/
theorem basePath_deltaFileIn (hnames : ∀ w ∈ names, Path.PlainName w) :
    Change.basePath bases (deltaFileIn specs names) = (deltaFileIn bases names).path :=
  Path.join_ofSegments bases hnames (by decide)

theorem forall_plainName_append_specFile (hnames : ∀ w ∈ names, Path.PlainName w) :
    ∀ w ∈ names ++ [specFile], Path.PlainName w :=
  List.forall_mem_append.mpr ⟨hnames, by simpa using plainName_specFile⟩

/-- In a tree without links names lead to the place that they name. -/
theorem place_of_walk_map_toList {spot new : Spot} (hu : t.root.Unlinked)
    (hnames : ∀ w ∈ names, Path.PlainName w)
    (h : t.walk spot (names.map String.toList) = .ok new) : new.place = spot.place ++ names := by
  induction names generalizing spot with
  | nil =>
      cases h
      exact (List.append_nil _).symm
  | cons name names ih =>
      obtain ⟨hname, hnames⟩ := List.forall_mem_cons.mp hnames
      rw [List.map_cons, walk_cons, bind_eq_ok_iff] at h
      obtain ⟨mid, hmid, hnew⟩ := h
      rw [ih hnames hnew, (leads_of_step hu hmid).2.1.eq_of_plainName hname, List.append_assoc,
        List.singleton_append]

/-- Names lead on from the place that a path leads to. -/
theorem eq_append_of_locate (hu : t.root.Unlinked) (hbases : bases.text ≠ "")
    (hnames : ∀ w ∈ names, Path.PlainName w)
    (h : t.locate (names.foldl Path.join bases) = .ok place) :
    ∃ spot, t.follow bases = .ok spot ∧ place = spot.place ++ names := by
  obtain ⟨-, links, hfollow⟩ := follow_of_locate h
  rw [follow_foldl_join hbases hnames, bind_eq_ok_iff] at hfollow
  obtain ⟨spot, hspot, hwalk⟩ := hfollow
  exact ⟨spot, hspot, place_of_walk_map_toList hu hnames hwalk⟩

/-- Two delta files do not have one file as their base spec. -/
theorem eq_of_locate_basePath (hu : t.root.Unlinked) (hbases : bases.text ≠ "")
    (hnames : ∀ w ∈ names, Path.PlainName w) (hmore : ∀ w ∈ more, Path.PlainName w)
    (h : t.locate (Change.basePath bases (deltaFileIn specs names)) = .ok place)
    (h' : t.locate (Change.basePath bases (deltaFileIn specs more)) = .ok place) :
    names = more := by
  rw [basePath_deltaFileIn hnames, path_deltaFileIn] at h
  rw [basePath_deltaFileIn hmore, path_deltaFileIn] at h'
  obtain ⟨spot, hspot, hplace⟩ :=
    eq_append_of_locate hu hbases (forall_plainName_append_specFile hnames) h
  obtain ⟨spot', hspot', hplace'⟩ :=
    eq_append_of_locate hu hbases (forall_plainName_append_specFile hmore) h'
  rw [hspot, Except.ok.injEq] at hspot'
  rw [hplace, hspot', List.append_cancel_left_eq, List.append_cancel_right_eq] at hplace'
  exact hplace'

end FileTree

/-! ## The walk -/

theorem Project.baseSpecs_text_ne (change : Path) : (Project.baseSpecs change).text ≠ "" := by
  unfold Project.baseSpecs
  split
  · exact Path.join_text_ne_of_ne _ (by decide)
  · exact Path.join_text_ne_of_ne _ (by decide)

namespace FileTree

variable {t : FileTree} {specs : Path} {place : List String}

/-- What holds of the delta files in two folders, the first before the second in the order of names,
holds of any two delta files. -/
theorem pairwise_deltaFiles_of_lt (ht : t.root.Plain) {R : DeltaFile → DeltaFile → Prop}
    (hR : ∀ v w, (∀ n ∈ v, Path.PlainName n) → (∀ n ∈ w, Path.PlainName n) →
      v ++ [specFile] < w ++ [specFile] → R (deltaFileIn specs v) (deltaFileIn specs w)) :
    (t.deltaFiles specs).Pairwise R := by
  unfold deltaFiles
  split
  · rename_i n hn
    have hplain := plain_of_node? ht hn
    rw [List.pairwise_map]
    refine ((hplain.pairwise_homes specFile).filter _).imp_of_mem fun {v w} hv hw hlt => ?_
    exact hR v w (hplain.of_mem_homes (List.mem_of_mem_filter hv))
      (hplain.of_mem_homes (List.mem_of_mem_filter hw)) hlt
  · exact List.Pairwise.nil

theorem pairwise_precedes_deltaFiles (ht : t.root.Plain) (specs : Path) :
    (t.deltaFiles specs).Pairwise fun f g => f.path.Precedes g.path := by
  refine pairwise_deltaFiles_of_lt ht fun v w hv hw hlt => ?_
  rw [path_deltaFileIn, path_deltaFileIn]
  exact Path.precedes_foldl_join (forall_plainName_append_specFile hv)
    (forall_plainName_append_specFile hw) hlt

theorem pairwise_capability_deltaFiles (ht : t.root.Plain) (specs : Path) :
    (t.deltaFiles specs).Pairwise fun f g => f.capability.same g.capability = false := by
  refine pairwise_deltaFiles_of_lt ht fun v w hv hw hlt => ?_
  rw [Path.same, components_capability specs hv, components_capability specs hw,
    decide_eq_false_iff_not]
  intro hcomponents
  have hvw : v = w :=
    List.map_injective_iff.mpr (fun _ _ => String.toList_injective) (Prod.mk.inj hcomponents).2
  exact lt_irrefl _ (hvw ▸ hlt)

/-- No two delta files have one base spec, whichever change they are for. -/
theorem pairwise_base_deltaFiles (ht : t.root.Plain) (hu : t.root.Unlinked)
    (specs change : Path) :
    (t.deltaFiles specs).Pairwise fun f g =>
      ∀ base, t.locate (Change.basePath (Project.baseSpecs change) f) = .ok base →
        t.locate (Change.basePath (Project.baseSpecs change) g) ≠ .ok base := by
  refine pairwise_deltaFiles_of_lt ht fun v w hv hw hlt base hbase hbase' => ?_
  have hvw := eq_of_locate_basePath hu (Project.baseSpecs_text_ne change) hv hw hbase hbase'
  exact lt_irrefl _ (hvw ▸ hlt)

/-- Whether the walk from a specs folder comes by everything beneath it. -/
def YieldsAll (t : FileTree) (specs : Path) : Prop :=
  ∀ n names m, t.node? specs = some n → n.at? names = some m → t.Yields specs names

/-- The files at names that lead down from the place of the specs folder are found, if the walk
comes by everything. -/
theorem mem_deltaFiles_iff_at? (ht : t.root.Plain) (hyields : t.YieldsAll specs)
    (hplace : t.locate specs = .ok place) (hfolder : t.FolderAt place) {file : DeltaFile} :
    file ∈ t.deltaFiles specs ↔ ∃ names content,
      t.root.at? (place ++ (names ++ [specFile])) = some (.file content) ∧
        file.path = (names ++ [specFile]).foldl Path.join specs ∧
        file.capability = Path.ofSegments (names.map String.toList) := by
  obtain ⟨access, es, hes⟩ := hfolder
  have hnode : t.node? specs = some (.folder access es) :=
    node?_eq_some_iff.mpr ⟨place, hplace, hes⟩
  rw [mem_deltaFiles_iff ht]
  simp only [hnode, Node.at?_append _ place, hes, Option.bind_some]
  constructor
  · rintro ⟨n, names, content, hn, hcontent, -, rfl⟩
    cases hn
    exact ⟨names, content, hcontent, path_deltaFileIn specs names, rfl⟩
  · rintro ⟨names, content, hcontent, hpath, hcapability⟩
    refine ⟨_, names, content, rfl, hcontent, hyields _ _ _ hnode hcontent, ?_⟩
    rw [← path_deltaFileIn] at hpath
    obtain ⟨path, capability⟩ := file
    exact congrArg₂ DeltaFile.mk hpath hcapability

theorem path_eq_of_mem_deltaFiles (ht : t.root.Plain) {file : DeltaFile}
    (h : file ∈ t.deltaFiles specs) :
    file.path = (specs.join file.capability.text).join specFile := by
  obtain ⟨-, names, -, rfl, hnames, -⟩ := exists_names_of_mem_deltaFiles ht h
  have hbase : Change.basePath specs (deltaFileIn specs names) = (deltaFileIn specs names).path :=
    basePath_deltaFileIn (List.forall_mem_append.mp hnames).1
  exact hbase.symm

/-- The delta files beneath the specs folder at a place, each once and in the order of their
paths. -/
structure DeltaFilesAt (t : FileTree) (specs : Path) (place : List String) : Prop where
  mem_iff : ∀ file, file ∈ t.deltaFiles specs ↔ ∃ names content,
    t.root.at? (place ++ (names ++ [specFile])) = some (.file content) ∧
      file.path = (names ++ [specFile]).foldl Path.join specs ∧
      file.capability = Path.ofSegments (names.map String.toList)
  ordered : (t.deltaFiles specs).Pairwise fun f g => f.path.Precedes g.path
  once : (t.deltaFiles specs).Pairwise fun f g => f.path.same g.path = false
  path_eq : ∀ file ∈ t.deltaFiles specs,
    file.path = (specs.join file.capability.text).join specFile
  capabilities : (t.deltaFiles specs).Pairwise fun f g => f.capability.same g.capability = false
  bases : ∀ change, (t.deltaFiles specs).Pairwise fun f g =>
    ∀ base, t.locate (Change.basePath (Project.baseSpecs change) f) = .ok base →
      t.locate (Change.basePath (Project.baseSpecs change) g) ≠ .ok base

/-- The walk through a specs folder finds its delta files, if it comes by everything there. -/
theorem deltaFilesAt_of_isFolder (ht : t.root.Plain) (hu : t.root.Unlinked)
    (h : t.isFolder specs = true) (hyields : t.YieldsAll specs) :
    ∃ place, t.locate specs = .ok place ∧ DeltaFilesAt t specs place := by
  obtain ⟨place, hplace, hfolder⟩ := isFolder_iff.mp h
  have hordered := pairwise_precedes_deltaFiles ht specs
  exact ⟨place, hplace,
    { mem_iff := fun _ => mem_deltaFiles_iff_at? ht hyields hplace hfolder
      ordered := hordered
      once := hordered.imp Path.Precedes.same_eq_false
      path_eq := fun _ => path_eq_of_mem_deltaFiles ht
      capabilities := pairwise_capability_deltaFiles ht specs
      bases := pairwise_base_deltaFiles ht hu specs }⟩

/-- Delta files in a folder, in one beneath it and in one with a name that goes on from its name. -/
theorem deltaFilesAt_of_nested_folders :
    let leaf := Node.folder .full [("spec.md", .file (.ok "x".toUTF8))]
    let auth := Node.folder .full [("sso", leaf), ("spec.md", .file (.error "Input/output error"))]
    let t : FileTree :=
      ⟨.folder .full [("s", .folder .full [("auth-x", leaf), ("auth", auth)])], []⟩
    t.root.Plain ∧ t.root.Unlinked ∧ t.isFolder ⟨"./s"⟩ = true ∧ t.YieldsAll ⟨"./s"⟩ ∧
      (∃ place, t.locate ⟨"./s"⟩ = .ok place ∧ DeltaFilesAt t ⟨"./s"⟩ place) ∧
        ⟨⟨"./s/auth/spec.md"⟩, ⟨"auth"⟩⟩ ∈ t.deltaFiles ⟨"./s"⟩ ∧
        ⟨⟨"./s/auth/sso/spec.md"⟩, ⟨"auth/sso"⟩⟩ ∈ t.deltaFiles ⟨"./s"⟩ ∧
        ⟨⟨"./s/auth-x/spec.md"⟩, ⟨"auth-x"⟩⟩ ∈ t.deltaFiles ⟨"./s"⟩ := by
  intro leaf auth t
  have hleaf : leaf.Plain ∧ leaf.Unlinked :=
    ⟨.singleton plainName_specFile (.file _), .singleton (.file _)⟩
  have hauth : auth.Plain ∧ auth.Unlinked := by
    refine ⟨.folder _ _ (by decide +kernel) (by decide +kernel) ?_, .folder _ _ ?_⟩
    · simpa [auth] using ⟨hleaf.1, .file _⟩
    · simpa [auth] using ⟨hleaf.2, .file _⟩
  have ht : t.root.Plain := by
    refine .singleton (by decide +kernel) (.folder _ _ (by decide +kernel) (by decide +kernel) ?_)
    simpa using ⟨hleaf.1, hauth.1⟩
  have hu : t.root.Unlinked := .singleton (.folder _ _ (by simpa using ⟨hleaf.2, hauth.2⟩))
  have hfolder : t.isFolder ⟨"./s"⟩ = true := by decide +kernel
  have hlocate : t.locate ⟨"./s"⟩ = .ok ["s"] := eq_ok_of_toOption (by decide +kernel)
  have hyields : t.YieldsAll ⟨"./s"⟩ := by
    intro n names m hn hm
    have hnode := node?_eq_some_iff.mpr ⟨_, hlocate, rfl⟩
    cases hn.symm.trans hnode
    refine ⟨_, hnode, ?_⟩
    revert names m
    have hleaf {P : List String → Prop} (h : P []) (hfile : P [specFile]) :
        ∀ names m, leaf.at? names = some m → P names :=
      Node.forall_at?_folder h (by simpa using Node.forall_at?_file hfile)
    refine Node.forall_at?_folder (by decide +kernel) ?_
    simp only [List.forall_mem_cons, List.not_mem_nil, false_imp_iff, implies_true, and_true]
    refine ⟨hleaf (by decide +kernel) (by decide +kernel), ?_⟩
    refine Node.forall_at?_folder (by decide +kernel) ?_
    simp only [List.forall_mem_cons, List.not_mem_nil, false_imp_iff, implies_true, and_true]
    exact ⟨hleaf (by decide +kernel) (by decide +kernel), Node.forall_at?_file (by decide +kernel)⟩
  obtain ⟨place, hplace, hfiles⟩ := deltaFilesAt_of_isFolder ht hu hfolder hyields
  have hs : place = ["s"] := (Except.ok.inj (hlocate.symm.trans hplace)).symm
  subst hs
  refine ⟨ht, hu, hfolder, hyields, ⟨_, hplace, hfiles⟩, ?_, ?_, ?_⟩
  · exact (hfiles.mem_iff _).mpr ⟨["auth"], _, rfl, by decide +kernel, by decide +kernel⟩
  · exact (hfiles.mem_iff _).mpr ⟨["auth", "sso"], _, rfl, by decide +kernel, by decide +kernel⟩
  · exact (hfiles.mem_iff _).mpr ⟨["auth-x"], _, rfl, by decide +kernel, by decide +kernel⟩

end FileTree

end SpecReview
