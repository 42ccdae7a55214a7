import SpecReview.Proofs.Tree.DeltaFiles
import SpecReview.Proofs.Tree.Walk

/-! # Reading beneath a folder

What a path reads is settled by the nodes on its way. Once the path has led to a folder, names lead
on within that folder, and trees that look the same along those names read the same. -/

namespace SpecReview

open SpecReview.Path

namespace Node

variable {n n' m : Node} {names : List String}

/-! ## Names that lead down -/

/-- What keeps the first names from being looked up, of those that lead down from a node, that
cannot be. -/
def barrier? : Node → List String → Option ReadError
  | .folder access es, name :: names =>
    match access.bars name with
    | some cause => some (.refused cause)
    | none =>
      if FileTree.nameLimit < name.utf8ByteSize then some .nameTooLong
      else
        match es.lookup name with
        | some n => n.barrier? names
        | none => none
  | _, _ => none

/-! ## What there is to see -/

/-- What a node is to who does not look at its entries. -/
inductive Shape where
  | file (content : Except String ByteArray)
  | folder (access : Access)
  | link (target : Path)

def shape : Node → Shape
  | .file content => .file content
  | .folder access _ => .folder access
  | .link target => .link target

/-- What there is at the end of names, if there is anything. -/
def shapeAt? (n : Node) (names : List String) : Option Shape :=
  (n.at? names).map shape

theorem shapeAt?_eq_file_iff {content : Except String ByteArray} :
    n.shapeAt? names = some (.file content) ↔ n.at? names = some (.file content) := by
  rw [shapeAt?, Option.map_eq_some_iff]
  constructor
  · rintro ⟨m, hm, hshape⟩
    cases m with
    | file other =>
        cases hshape
        exact hm
    | folder access es => cases hshape
    | link target => cases hshape
  · exact fun h => ⟨_, h, rfl⟩

theorem shapeAt?_folder_cons (access : Access) (es : List (String × Node)) (name : String)
    (names : List String) :
    (folder access es).shapeAt? (name :: names) = (es.lookup name).bind (·.shapeAt? names) := by
  rw [shapeAt?, at?_folder_cons]
  cases es.lookup name <;> rfl

/-- Nodes in which there is the same to see at the end of any names. -/
def Alike (n n' : Node) : Prop :=
  ∀ names, n.shapeAt? names = n'.shapeAt? names

/-- Nodes that are alike are files of one content, links of one target, or folders of one access and
entries that are alike. -/
theorem Alike.cases (h : n.Alike n') :
    (n = n' ∧ ∀ access es, n ≠ .folder access es) ∨
      ∃ access es es', n = .folder access es ∧ n' = .folder access es' ∧ ∀ name,
        (es.lookup name = none ∧ es'.lookup name = none) ∨
          ∃ m m', es.lookup name = some m ∧ es'.lookup name = some m' ∧ m.Alike m' := by
  have hshape : n.shape = n'.shape := Option.some.inj (h [])
  cases n with
  | file content => cases n' <;> simp_all [shape]
  | link target => cases n' <;> simp_all [shape]
  | folder access es =>
      cases n' with
      | file content => cases hshape
      | link target => cases hshape
      | folder access' es' =>
          cases hshape
          refine Or.inr ⟨access, es, es', rfl, rfl, fun name => ?_⟩
          have hnext (ws : List String) :
              (es.lookup name).bind (·.shapeAt? ws) = (es'.lookup name).bind (·.shapeAt? ws) := by
            have hws := h (name :: ws)
            rwa [shapeAt?_folder_cons, shapeAt?_folder_cons] at hws
          cases hm : es.lookup name with
          | none =>
              cases hm' : es'.lookup name with
              | none => exact Or.inl ⟨rfl, rfl⟩
              | some m' => simpa [hm, hm', shapeAt?, at?] using hnext []
          | some m =>
              cases hm' : es'.lookup name with
              | none => simpa [hm, hm', shapeAt?, at?] using hnext []
              | some m' =>
                  simp only [hm, hm', Option.bind_some] at hnext
                  exact Or.inr ⟨m, m', rfl, rfl, hnext⟩

theorem Alike.barrier?_eq (h : n.Alike n') (names : List String) :
    n.barrier? names = n'.barrier? names := by
  induction names generalizing n n' with
  | nil => cases n <;> cases n' <;> rfl
  | cons name names ih =>
      rcases h.cases with ⟨rfl, -⟩ | ⟨access, es, es', rfl, rfl, hentries⟩
      · rfl
      · rw [barrier?, barrier?]
        rcases hentries name with ⟨hm, hm'⟩ | ⟨m, m', hm, hm', halike⟩
        · rw [hm, hm']
        · simp only [hm, hm', ih halike]

theorem Alike.shows_eq (h : n.Alike n') (names : List String) : n.shows names = n'.shows names := by
  induction names generalizing n n' with
  | nil => rw [shows, shows]
  | cons name names ih =>
      rcases h.cases with ⟨rfl, -⟩ | ⟨access, es, es', rfl, rfl, hentries⟩
      · rfl
      · rw [shows, shows]
        rcases hentries name with ⟨hm, hm'⟩ | ⟨m, m', hm, hm', halike⟩
        · rw [hm, hm']
        · simp only [hm, hm', ih halike]

/-- The walk through a folder depends on what there is to see in it. -/
theorem Alike.homes_eq (h : n.Alike n') (hn : n.Plain) (hn' : n'.Plain) (name : String) :
    n.homes name = n'.homes name := by
  refine hn.homes_congr hn' fun ws => ?_
  simp only [← shapeAt?_eq_file_iff, h (ws ++ [name]), h.shows_eq]

end Node

namespace FileTree

variable {t : FileTree} {spot : Spot} {place names : List String} {name : String} {n m : Node}
  {p : Path}

/-! ## Paths that lead beneath a folder -/

theorem next_name {access : Access} {es : List (String × Node)}
    (hat : t.root.at? place = some (.folder access es)) (hname : PlainName name) :
    t.next place name.toList =
      match access.bars name with
      | some cause => .error (.refused cause)
      | none =>
        if nameLimit < name.utf8ByteSize then .error .nameTooLong
        else if (es.lookup name).isSome then .ok (place ++ [name])
        else .error .notFound := by
  have hofList : String.ofList name.toList = name := String.ofList_toList
  rw [next, hat]
  cases hbars : access.bars name <;>
    simp only [hofList, hbars, hname.ne_empty, hname.ne_dot, hname.ne_dots, if_false]

/-- A plain name of a file or a folder is a step down, unless it cannot be looked up. -/
theorem step_name {depth : Nat} {access : Access} {es : List (String × Node)}
    (hat : t.root.at? spot.place = some (.folder access es)) (hname : PlainName name)
    (hn : es.lookup name = some n) (hlink : ∀ target, n ≠ .link target) :
    t.step depth spot name.toList =
      match access.bars name with
      | some cause => .error (.refused cause)
      | none =>
        if nameLimit < name.utf8ByteSize then .error .nameTooLong
        else .ok { spot with place := spot.place ++ [name] } := by
  have hbelow : t.root.at? (spot.place ++ [name]) = some n := by
    rw [Node.at?_append, hat, Option.bind_some, Node.at?_folder_cons, hn]
    rfl
  have hnext := next_name hat hname
  cases hbars : access.bars name with
  | some cause =>
      rw [hbars] at hnext
      rw [step, hnext]
      rfl
  | none =>
      by_cases hlimit : nameLimit < name.utf8ByteSize
      · simp only [hbars, hlimit, if_true] at hnext
        rw [step, hnext]
        simp only [hlimit, if_true]
        rfl
      · simp only [hbars, hlimit, hn, Option.isSome_some, if_false, if_true] at hnext
        rw [step_of_next hnext (by simpa [hbelow] using hlink)]
        simp only [hlimit, if_false]

/-- Plain names that lead down to a file or a folder are steps down, unless they cannot be looked
up. -/
theorem walk_map_toList (hn : t.root.at? spot.place = some n) (hnames : ∀ w ∈ names, PlainName w)
    (hm : n.at? names = some m) (hlink : ∀ target, m ≠ .link target) :
    t.walk spot (names.map String.toList) =
      match n.barrier? names with
      | some e => .error e
      | none => .ok { spot with place := spot.place ++ names } := by
  induction names generalizing spot n with
  | nil =>
      have hbarrier : n.barrier? [] = none := by cases n <;> rfl
      rw [hbarrier, List.append_nil]
      rfl
  | cons name names ih =>
      obtain ⟨hname, hnames⟩ := List.forall_mem_cons.mp hnames
      obtain ⟨access, es, rfl⟩ := Node.exists_folder_of_at?_cons hm
      rw [Node.at?_folder_cons, Option.bind_eq_some_iff] at hm
      obtain ⟨k, hk, hm⟩ := hm
      have hnotLink (target : Path) : k ≠ .link target := by
        rintro rfl
        cases names with
        | nil => exact hlink target (Option.some.inj hm).symm
        | cons next names => cases hm
      have hbelow : t.root.at? (spot.place ++ [name]) = some k := by
        rw [Node.at?_append, hn, Option.bind_some, Node.at?_folder_cons, hk]
        rfl
      rw [List.map_cons, walk_cons, Node.barrier?, step_name hn hname hk hnotLink]
      cases access.bars name with
      | some cause => rfl
      | none =>
          by_cases hlimit : nameLimit < name.utf8ByteSize
          · simp only [hlimit, if_true]
            rfl
          · simp only [hlimit, if_false, hk]
            rw [List.append_cons spot.place name names]
            change t.walk ⟨spot.place ++ [name], spot.links⟩ _ = _
            exact ih hbelow hnames hm

theorem follow_foldl_join (hp : p.text ≠ "") (hnames : ∀ w ∈ names, PlainName w) :
    t.follow (names.foldl join p) = t.follow p >>= (t.walk · (names.map String.toList)) := by
  induction names generalizing p with
  | nil => cases h : t.follow p <;> simp [h, bind, Except.bind, walk, pure, Except.pure]
  | cons name names ih =>
      obtain ⟨hname, hnames⟩ := List.forall_mem_cons.mp hnames
      rw [List.foldl_cons, ih (join_text_ne hp name) hnames, follow_join_name hp hname]
      cases t.follow p <;> rfl

theorem foldl_join_text_ne (hp : p.text ≠ "") (names : List String) :
    (names.foldl join p).text ≠ "" := by
  induction names generalizing p with
  | nil => exact hp
  | cons name names ih => exact ih (join_text_ne hp name)

theorem node?_eq_some_iff :
    t.node? p = some n ↔ ∃ place, t.locate p = .ok place ∧ t.root.at? place = some n := by
  rw [node?]
  cases t.locate p <;> simp

/-- Names joined to a path lead down from where it leads, if they can be looked up and do not make
it too long. -/
theorem locate_foldl_join (hplace : t.locate p = .ok place) (hn : t.root.at? place = some n)
    (hnames : ∀ w ∈ names, PlainName w) (hm : n.at? names = some m)
    (hlink : ∀ target, m ≠ .link target) :
    t.locate (names.foldl join p) =
      if (names.foldl join p).withinLimit then
        match n.barrier? names with
        | some e => .error e
        | none => .ok (place ++ names)
      else .error .nameTooLong := by
  by_cases hlimit : (names.foldl join p).withinLimit = true
  · obtain ⟨hp, links, hfollow⟩ := follow_of_locate hplace
    rw [if_pos hlimit, locate_eq_follow hlimit (foldl_join_text_ne hp names),
      follow_foldl_join hp hnames, hfollow]
    change (t.walk ⟨place, links⟩ (names.map String.toList)).map _ = _
    rw [walk_map_toList hn hnames hm hlink]
    cases n.barrier? names <;> rfl
  · rw [if_neg hlimit, locate_of_limit_lt (by simpa using hlimit)]

theorem node?_foldl_join (hn : t.node? p = some n) (hnames : ∀ w ∈ names, PlainName w)
    (hm : n.at? names = some m) (hlink : ∀ target, m ≠ .link target) :
    t.node? (names.foldl join p) =
      if (names.foldl join p).withinLimit = true ∧ n.barrier? names = none then some m
      else none := by
  obtain ⟨place, hplace, hat⟩ := node?_eq_some_iff.mp hn
  have hdown : t.root.at? (place ++ names) = some m := by
    rw [Node.at?_append, hat, Option.bind_some, hm]
  rw [node?, locate_foldl_join hplace hat hnames hm hlink]
  by_cases hlimit : (names.foldl join p).withinLimit = true
  · cases hbarrier : n.barrier? names <;> simp [hlimit, hdown]
  · simp [hlimit]

/-- Names joined to a path read what is at the end of them, if they can be looked up and do not make
it too long. -/
theorem read_foldl_join (hn : t.node? p = some n) (hnames : ∀ w ∈ names, PlainName w)
    (hm : n.at? names = some m) (hlink : ∀ target, m ≠ .link target) :
    t.read (names.foldl join p) =
      if (names.foldl join p).withinLimit then
        match n.barrier? names with
        | some e => .error e
        | none => m.text
      else .error .nameTooLong := by
  obtain ⟨place, hplace, hat⟩ := node?_eq_some_iff.mp hn
  have hdown : t.textAt (place ++ names) = m.text := by
    rw [textAt, Node.at?_append, hat, Option.bind_some, hm]
  rw [FileTree.read, locate_foldl_join hplace hat hnames hm hlink]
  split
  · cases n.barrier? names with
    | none => exact hdown
    | some e => rfl
  · rfl

/-- A name joined to a path leads on from a folder only, along a link there or to what has the
name. -/
theorem of_locate_join (hp : p.text ≠ "") (hname : PlainName name)
    (h : t.locate (p.join name) = .ok place) :
    ∃ access es, t.node? p = some (.folder access es) ∧
      ((∃ target, es.lookup name = some (.link target)) ∨ es.lookup name = t.root.at? place) := by
  have hlimit : p.withinLimit = true := by
    have hsize := utf8ByteSize_le_join p hname.isAbsolute_eq_false
    have hjoin := withinLimit_iff.mp (withinLimit_of_locate h)
    exact withinLimit_iff.mpr (by omega)
  obtain ⟨-, links, hfollow⟩ := follow_of_locate h
  rw [follow_join_name hp hname, bind_eq_ok_iff] at hfollow
  obtain ⟨spot, hspot, hstep⟩ := hfollow
  obtain ⟨named, hnamed⟩ := of_step hstep
  obtain ⟨⟨access, es, hes⟩, hleads⟩ := of_next hnamed
  have hnode : t.node? p = some (.folder access es) :=
    node?_eq_some_iff.mpr ⟨spot.place, by rw [locate_eq_follow hlimit hp, hspot]; rfl, hes⟩
  have hat : t.root.at? named = es.lookup name := by
    rw [hleads.eq_of_plainName hname, Node.at?_append, hes, Option.bind_some, Node.at?_folder_cons]
    cases es.lookup name <;> rfl
  refine ⟨access, es, hnode, ?_⟩
  by_cases hlink : ∃ target, es.lookup name = some (.link target)
  · exact Or.inl hlink
  · rw [step_of_next hnamed fun target htarget => hlink ⟨target, hat ▸ htarget⟩] at hstep
    cases hstep
    exact Or.inr hat.symm

/-- A name leads on from a folder only. -/
theorem isFolder_of_locate_join (hp : p.text ≠ "") (hname : PlainName name)
    (h : t.locate (p.join name) = .ok place) : t.isFolder p = true := by
  obtain ⟨access, es, hnode, -⟩ := of_locate_join hp hname h
  rw [isFolder, hnode]
  rfl

/-! ## What is seen from a path -/

/-- What the system lets a program do with the folder that a path leads to, if it does. -/
def access? (t : FileTree) (p : Path) : Option Access :=
  match t.node? p with
  | some (.folder access _) => some access
  | _ => none

theorem isFolder_eq_isSome_access? (t : FileTree) (p : Path) :
    t.isFolder p = (t.access? p).isSome := by
  rw [isFolder, access?]
  cases t.node? p with
  | none => rfl
  | some n => cases n <;> rfl

/-- What there is to see at the end of names that lead on from a path. -/
def look (t : FileTree) (p : Path) (names : List String) : Option Node.Shape :=
  (t.node? p).bind (·.shapeAt? names)

/-- What is read at the end of names that lead on from a path, however long that makes it. -/
def readFrom (t : FileTree) (p : Path) (names : List String) : Except ReadError String := do
  let spot ← t.follow p
  let spot ← t.walk spot (names.map String.toList)
  t.textAt spot.place

/-! ## Delta files -/

theorem path_deltaFileIn (specs : Path) (names : List String) :
    (deltaFileIn specs names).path = (names ++ [specFile]).foldl join specs := by
  rw [List.foldl_append]
  rfl

theorem segments_capability (specs : Path) (hnames : ∀ w ∈ names, PlainName w) (hne : names ≠ []) :
    (deltaFileIn specs names).capability.segments = names.map String.toList := by
  have hslash : ∀ s ∈ names.map String.toList, '/' ∉ s := by
    simpa using fun w hw => (hnames w hw).no_slash
  rw [deltaFileIn, segments, ofSegments, String.toList_ofList,
    split_joinSlash (mt List.map_eq_nil_iff.mp hne) hslash]

theorem isAbsolute_capability (specs : Path) (hnames : ∀ w ∈ names, PlainName w) :
    (deltaFileIn specs names).capability.isAbsolute = false := by
  cases names with
  | nil => rfl
  | cons name names =>
      rw [← Bool.not_eq_true, isAbsolute_iff,
        segments_capability specs hnames (List.cons_ne_nil name names)]
      rintro ⟨s, ss, h⟩
      exact (hnames name (by simp)).ne_empty (List.cons.inj h).1

/-- The names of a capability lead on as they led to its delta file. -/
theorem walk_capability (specs : Path) (spot : Spot) (hnames : ∀ w ∈ names, PlainName w) :
    t.walk spot ((deltaFileIn specs names).capability.segments ++ [specFile.toList]) =
      t.walk spot ((names ++ [specFile]).map String.toList) := by
  rw [List.map_append]
  cases names with
  | nil =>
      have hempty : (deltaFileIn specs []).capability.segments = [[]] := rfl
      rw [hempty, walk_append]
      exact walk_nil_cons spot (List.cons_ne_nil _ _)
  | cons name names =>
      rw [segments_capability specs hnames (List.cons_ne_nil name names)]
      rfl

theorem exists_names_of_mem_deltaFiles (ht : t.root.Plain) {specs : Path} {file : DeltaFile}
    (h : file ∈ t.deltaFiles specs) :
    ∃ n names content, file = deltaFileIn specs names ∧
      (∀ w ∈ names ++ [specFile], PlainName w) ∧ t.node? specs = some n ∧
        n.at? (names ++ [specFile]) = some (.file content) := by
  obtain ⟨n, names, content, hn, hcontent, ⟨k, hk, hshows, -⟩, rfl⟩ := (mem_deltaFiles_iff ht).mp h
  cases hn.symm.trans hk
  have hplain := plain_of_node? ht hn
  have hnames := hplain.of_mem_homes (hplain.mem_homes_iff.mpr ⟨⟨content, hcontent⟩, hshows⟩)
  refine ⟨n, names, content, rfl, ?_, hn, hcontent⟩
  exact List.forall_mem_append.mpr ⟨hnames, by simpa using plainName_specFile⟩

end FileTree

end SpecReview
