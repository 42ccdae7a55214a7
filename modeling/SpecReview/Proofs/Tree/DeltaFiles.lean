import Mathlib.Data.List.Flatten
import Mathlib.Data.List.Sort
import SpecReview.Project
import SpecReview.Proofs.Tree.Node

/-! # The delta files of a tree

The walk through a tree with plain names comes by each folder that the system shows once, in the
order of the paths, so that its delta files are different files. -/

namespace SpecReview

namespace Node

/-! ## What the system shows -/

/-- Whether the lists of folders show the way along names. Each folder shows the next name, and lets
it be looked up if the way goes on in it. -/
def shows : Node → List String → Bool
  | _, [] => true
  | .folder access es, name :: names =>
    (if names = [] then access.shows name else access.enters name) &&
      match es.lookup name with
      | some n => n.shows names
      | none => false
  | _, _ :: _ => false

theorem shows_folder_singleton (access : Access) (es : List (String × Node)) (name : String) :
    (folder access es).shows [name] = (access.shows name && (es.lookup name).isSome) := by
  rw [shows, if_pos rfl]
  cases es.lookup name <;> simp [shows]

theorem shows_folder_cons {access : Access} {es : List (String × Node)} {name : String}
    {names : List String} (h : names ≠ []) : (folder access es).shows (name :: names) = true ↔
      access.enters name = true ∧ ∃ n, es.lookup name = some n ∧ n.shows names = true := by
  rw [shows, if_neg h]
  cases es.lookup name <;> simp

/-! ## The walk through a tree -/

variable {access : Access} {name : String} {e : String × Node} {ws : List String}

theorem homesInEntries_eq_map (name : String) (access : Access) (es : List (String × Node)) :
    homesInEntries name access es = es.map (homesInEntry name access) := by
  induction es with
  | nil => rfl
  | cons e es ih => rw [homesInEntries, ih, List.map_cons]

/-- The walk through a folder is a walk through its entries, in some order. -/
theorem homes_folder_perm (name : String) (access : Access) (es : List (String × Node)) :
    (homes name (.folder access es)).Perm (es.flatMap fun e => (homesInEntry name access e).2) := by
  have hwalk : (homes name (.folder access es)).Perm
      ((es.map (homesInEntry name access)).flatMap (·.2)) := by
    rw [homes, inNameOrder, homesInEntries_eq_map]
    exact (List.mergeSort_perm _ _).flatMap_right _
  rwa [List.flatMap_map] at hwalk

theorem homesInEntry_fst (name : String) (access : Access) (e : String × Node) :
    (homesInEntry name access e).1 = e.1 := by
  obtain ⟨n, content | ⟨inner, es⟩ | target⟩ := e <;> rw [homesInEntry]

/-- An entry is a home's file or leads on to homes. -/
theorem mem_homesInEntry_iff :
    ws ∈ (homesInEntry name access e).2 ↔
      (ws = [] ∧ e.1 = name ∧ access.shows name = true ∧ ∃ content, e.2 = .file content) ∨
        ∃ vs, ws = e.1 :: vs ∧ access.enters e.1 = true ∧ vs ∈ homes name e.2 := by
  obtain ⟨n, content | ⟨inner, es⟩ | target⟩ := e
  · rw [homesInEntry]
    by_cases hn : n = name
    · subst hn
      cases access.shows n <;> simp [homes]
    · simp [hn, homes]
  · rw [homesInEntry]
    have hmap : ws ∈ (homes name (.folder inner es)).map (n :: ·) ↔
        ∃ vs, ws = n :: vs ∧ vs ∈ homes name (.folder inner es) := by
      simp [eq_comm, and_comm]
    cases access.enters n <;> simp [hmap]
  · simp [homesInEntry, homes]

/-- What an entry adds holds in order if what its node holds does. -/
theorem pairwise_homesInEntry_of {R : List String → List String → Prop}
    (hcons : ∀ v w, R v w → R (e.1 :: v) (e.1 :: w)) (h : (homes name e.2).Pairwise R) :
    (homesInEntry name access e).2.Pairwise R := by
  obtain ⟨n, content | ⟨inner, es⟩ | target⟩ := e
  · rw [homesInEntry]
    split <;> simp
  · rw [homesInEntry]
    split
    · exact List.pairwise_map.mpr (h.imp (hcons _ _))
    · exact List.Pairwise.nil
  · rw [homesInEntry]
    exact List.Pairwise.nil

theorem Plain.of_mem_homes {n : Node} (h : n.Plain) (hws : ws ∈ n.homes name) :
    ∀ w ∈ ws, Path.PlainName w := by
  induction h generalizing ws with
  | file content => simp [homes] at hws
  | link target => simp [homes] at hws
  | folder access es hnames _ _ ih =>
      obtain ⟨e, he, hws⟩ :=
        List.mem_flatMap.mp ((homes_folder_perm name access es).mem_iff.mp hws)
      rcases mem_homesInEntry_iff.mp hws with ⟨rfl, -⟩ | ⟨vs, rfl, -, hvs⟩
      · simp
      · exact List.forall_mem_cons.mpr ⟨hnames e he, ih e he hvs⟩

/-- The walk comes by every folder with a file of the name that it is shown the way to, and by no
other. -/
theorem Plain.mem_homes_iff {n : Node} (h : n.Plain) :
    ws ∈ n.homes name ↔
      (∃ content, n.at? (ws ++ [name]) = some (.file content)) ∧ n.shows (ws ++ [name]) = true := by
  induction h generalizing ws with
  | file content => cases ws <;> simp [homes, at?]
  | link target => cases ws <;> simp [homes, at?]
  | folder access es _ hdistinct _ ih =>
      rw [(homes_folder_perm name access es).mem_iff, List.mem_flatMap]
      simp only [mem_homesInEntry_iff]
      cases ws with
      | nil =>
          simp only [List.nil_append, at?_folder_cons, shows_folder_singleton, Bool.and_eq_true]
          constructor
          · rintro ⟨⟨_, _⟩, he, ⟨-, rfl, hshows, content, rfl⟩ | ⟨vs, hvs, -⟩⟩
            · have hlookup := (lookup_eq_some_iff_mem hdistinct).mpr he
              exact ⟨⟨content, by rw [hlookup]; rfl⟩, hshows, by rw [hlookup]; rfl⟩
            · cases hvs
          · rintro ⟨⟨content, hcontent⟩, hshows, -⟩
            obtain ⟨n, hn, hfile⟩ := Option.bind_eq_some_iff.mp hcontent
            cases Option.some.inj hfile
            exact ⟨_, (lookup_eq_some_iff_mem hdistinct).mp hn,
              Or.inl ⟨trivial, rfl, hshows, content, rfl⟩⟩
      | cons w ws =>
          rw [List.cons_append, at?_folder_cons, shows_folder_cons (by simp)]
          simp only [Option.bind_eq_some_iff]
          constructor
          · rintro ⟨⟨_, n⟩, he, ⟨hnil, -⟩ | ⟨vs, hvs, henters, hhomes⟩⟩
            · cases hnil
            · cases hvs
              have hlookup := (lookup_eq_some_iff_mem hdistinct).mpr he
              obtain ⟨⟨content, hcontent⟩, hshows⟩ := (ih _ he).mp hhomes
              exact ⟨⟨content, n, hlookup, hcontent⟩, henters, n, hlookup, hshows⟩
          · rintro ⟨⟨content, n, hn, hcontent⟩, henters, m, hm, hshows⟩
            cases hn.symm.trans hm
            have he := (lookup_eq_some_iff_mem hdistinct).mp hn
            exact ⟨_, he, Or.inr ⟨ws, rfl, henters, (ih _ he).mpr ⟨⟨content, hcontent⟩, hshows⟩⟩⟩

/-! ## The order of the walk -/

/-- What an entry adds starts with the name of the entry. -/
theorem exists_cons_of_mem_homesInEntry (h : ws ∈ (homesInEntry name access e).2) :
    ∃ vs, ws ++ [name] = e.1 :: vs := by
  rcases mem_homesInEntry_iff.mp h with ⟨rfl, rfl, -⟩ | ⟨vs, rfl, -⟩
  · exact ⟨[], rfl⟩
  · exact ⟨vs ++ [name], rfl⟩

/-- The walk comes by the files in the order of their paths, compared name by name. -/
theorem Plain.pairwise_homes {n : Node} (h : n.Plain) (name : String) :
    (n.homes name).Pairwise fun v w => v ++ [name] < w ++ [name] := by
  induction h with
  | file content => simp [homes]
  | link target => simp [homes]
  | folder access es _ hdistinct _ ih =>
      have hmem {x : String × List (List String)}
          (hx : x ∈ (es.map (homesInEntry name access)).mergeSort fun x y => x.1 ≤ y.1) :
          ∃ e ∈ es, homesInEntry name access e = x :=
        List.mem_map.mp (List.mem_mergeSort.mp hx)
      -- The names of entries are distinct, so that in their order each is less than the next.
      have hsorted : ((es.map (homesInEntry name access)).mergeSort fun x y => x.1 ≤ y.1).Pairwise
          fun x y => x.1 < y.1 := by
        have hle : ((es.map (homesInEntry name access)).mergeSort fun x y => x.1 ≤ y.1).Pairwise
            fun x y => decide (x.1 ≤ y.1) = true :=
          List.pairwise_mergeSort (by simpa using fun _ _ _ => String.le_trans)
            (by simpa using String.le_total) _
        have hne : ((es.map (homesInEntry name access)).mergeSort fun x y => x.1 ≤ y.1).Pairwise
            fun x y => x.1 ≠ y.1 := by
          rw [(List.mergeSort_perm _ _).pairwise_iff fun h => Ne.symm h, List.pairwise_map]
          simpa only [homesInEntry_fst] using List.pairwise_map.mp hdistinct
        exact (hle.and hne).imp fun ⟨hxy, hxne⟩ =>
          Std.lt_of_le_of_ne (of_decide_eq_true hxy) hxne
      rw [homes, inNameOrder, homesInEntries_eq_map, List.pairwise_flatMap]
      constructor
      · intro x hx
        obtain ⟨e, he, rfl⟩ := hmem hx
        refine pairwise_homesInEntry_of (fun v w hvw => ?_) (ih e he)
        rw [List.cons_append, List.cons_append, List.cons_lt_cons_iff]
        exact Or.inr ⟨rfl, hvw⟩
      · refine hsorted.imp_of_mem ?_
        intro x y hx hy hlt v hv w hw
        obtain ⟨e, -, rfl⟩ := hmem hx
        obtain ⟨f, -, rfl⟩ := hmem hy
        obtain ⟨vs, hvs⟩ := exists_cons_of_mem_homesInEntry hv
        obtain ⟨us, hus⟩ := exists_cons_of_mem_homesInEntry hw
        rw [homesInEntry_fst, homesInEntry_fst] at hlt
        rw [hvs, hus, List.cons_lt_cons_iff]
        exact Or.inl hlt

/-- The walk comes by no folder twice. -/
theorem Plain.nodup_homes {n : Node} (h : n.Plain) (name : String) : (n.homes name).Nodup :=
  (h.pairwise_homes name).imp fun hlt heq => by
    rw [heq] at hlt
    exact List.lt_irrefl _ hlt

/-- Which files of a name are shown fixes the walk. -/
theorem Plain.homes_congr {n n' : Node} (h : n.Plain) (h' : n'.Plain)
    (hfiles : ∀ ws,
      ((∃ content, n.at? (ws ++ [name]) = some (.file content)) ∧ n.shows (ws ++ [name]) = true) ↔
        (∃ content, n'.at? (ws ++ [name]) = some (.file content)) ∧
          n'.shows (ws ++ [name]) = true) : n.homes name = n'.homes name := by
  let r (v w : List String) : Prop := v ++ [name] < w ++ [name]
  have hirrefl : Std.Irrefl r := ⟨fun v => List.lt_irrefl _⟩
  have hantisymm : Std.Antisymm r := ⟨fun v w hvw hwv => absurd hwv (List.lt_asymm hvw)⟩
  refine List.Pairwise.eq_of_mem_iff (r := r) (h.pairwise_homes name) (h'.pairwise_homes name) ?_
  intro ws
  rw [h.mem_homes_iff, h'.mem_homes_iff, hfiles]

end Node

/-! ## Delta files -/

theorem plainName_specFile : Path.PlainName specFile := by
  decide +kernel

theorem FileTree.components_deltaFileIn (specs : Path) {names : List String}
    (h : ∀ n ∈ names, Path.PlainName n) :
    (deltaFileIn specs names).path.components =
      (specs.components.1, specs.components.2 ++ names.map String.toList ++ [specFile.toList]) := by
  rw [deltaFileIn, Path.components_join _ plainName_specFile, capabilityFolder,
    Path.components_foldl_join specs h]

theorem FileTree.plain_of_node? {t : FileTree} (ht : t.root.Plain) {p : Path} {n : Node}
    (hn : t.node? p = some n) : n.Plain := by
  unfold node? at hn
  split at hn
  · exact ht.of_at? hn
  · simp at hn

/-- Whether the walk from a specs folder comes by what is at the end of names. It does not where the
path of the folder is too long that has it among its entries. -/
def FileTree.Yields (t : FileTree) (specs : Path) (names : List String) : Prop :=
  ∃ n, t.node? specs = some n ∧ n.shows names = true ∧
    (capabilityFolder specs names.dropLast).withinLimit = true

/-- The delta files are the files of that name beneath the specs that the walk comes by. -/
theorem FileTree.mem_deltaFiles_iff {t : FileTree} (ht : t.root.Plain) {specs : Path}
    {file : DeltaFile} :
    file ∈ t.deltaFiles specs ↔ ∃ n names content, t.node? specs = some n ∧
      n.at? (names ++ [specFile]) = some (.file content) ∧
        t.Yields specs (names ++ [specFile]) ∧ file = deltaFileIn specs names := by
  unfold deltaFiles Yields
  cases hn : t.node? specs with
  | none => simp
  | some n =>
      simp only [List.mem_map, List.mem_filter, (plain_of_node? ht hn).mem_homes_iff,
        List.dropLast_concat]
      constructor
      · rintro ⟨names, ⟨⟨⟨content, hcontent⟩, hshows⟩, hlimit⟩, rfl⟩
        exact ⟨n, names, content, rfl, hcontent, ⟨n, rfl, hshows, hlimit⟩, rfl⟩
      · rintro ⟨m, names, content, hm, hcontent, ⟨k, hk, hshows, hlimit⟩, rfl⟩
        cases hm
        cases hk
        exact ⟨names, ⟨⟨⟨content, hcontent⟩, hshows⟩, hlimit⟩, rfl⟩

/-- The delta files of a plain tree differ by more than spelling. -/
theorem FileTree.pairwise_deltaFiles {t : FileTree} (ht : t.root.Plain) (specs : Path) :
    (t.deltaFiles specs).Pairwise fun f g => f.path.same g.path = false := by
  unfold deltaFiles
  split
  · rename_i n hn
    have hplain := plain_of_node? ht hn
    rw [List.pairwise_map]
    refine ((hplain.nodup_homes specFile).filter _).imp_of_mem ?_
    intro vs ws hvs hws hne
    have hplainVs := hplain.of_mem_homes (List.mem_of_mem_filter hvs)
    have hplainWs := hplain.of_mem_homes (List.mem_of_mem_filter hws)
    rw [Path.same, components_deltaFileIn specs hplainVs, components_deltaFileIn specs hplainWs]
    have hmap : vs.map String.toList ≠ ws.map String.toList :=
      fun he => hne (List.map_injective_iff.mpr (fun _ _ => String.toList_injective) he)
    simpa using hmap
  · exact List.Pairwise.nil

end SpecReview
