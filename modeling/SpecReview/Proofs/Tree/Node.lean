import Mathlib.Data.List.Nodup
import SpecReview.FileTree
import SpecReview.Proofs.Path.Components

/-! # Trees that a file system can hold

A file system gives the entries of a folder plain names, none of them twice and none too long.
Whatever holds of the entries of a folder because it holds of the folder holds of every node of a
tree. -/

namespace SpecReview.Node

variable {access : Access} {es : List (String × Node)} {name : String} {n m : Node}
  {names : List String}

/-! ## Nodes at the end of names -/

theorem at?_folder_cons (access : Access) (es : List (String × Node)) (name : String)
    (names : List String) :
    (folder access es).at? (name :: names) = (es.lookup name).bind (·.at? names) := by
  rw [at?]
  cases es.lookup name <;> rfl

theorem at?_append (n : Node) (names more : List String) :
    n.at? (names ++ more) = (n.at? names).bind (·.at? more) := by
  induction names generalizing n with
  | nil => rfl
  | cons name names ih =>
      cases n with
      | file content => rfl
      | link target => rfl
      | folder access es =>
          rw [List.cons_append, at?_folder_cons, at?_folder_cons, Option.bind_assoc]
          congr 1
          funext m
          exact ih m

/-- Names lead on from a folder only. -/
theorem exists_folder_of_at?_cons (h : n.at? (name :: names) = some m) :
    ∃ access es, n = .folder access es := by
  cases n with
  | file content => cases h
  | link target => cases h
  | folder access es => exact ⟨access, es, rfl⟩

theorem exists_entry_of_at?_cons (h : (folder access es).at? (name :: names) = some m) :
    ∃ e ∈ es, e.1 = name ∧ e.2.at? names = some m := by
  rw [at?_folder_cons, Option.bind_eq_some_iff] at h
  obtain ⟨n, hn, hm⟩ := h
  obtain ⟨before, after, rfl, -⟩ := List.lookup_eq_some_iff.mp hn
  exact ⟨(name, n), by simp, rfl, hm⟩

/-- What there is in a file is there without any name. -/
theorem forall_at?_file {P : List String → Prop} {content : Except String ByteArray} (h : P []) :
    ∀ names m, (file content).at? names = some m → P names
  | [], _, _ => h
  | _ :: _, _, hm => nomatch hm

/-- What there is in a folder is there without any name, or in one of its entries. -/
theorem forall_at?_folder {P : List String → Prop} (h : P [])
    (hentries : ∀ e ∈ es, ∀ names m, e.2.at? names = some m → P (e.1 :: names)) :
    ∀ names m, (folder access es).at? names = some m → P names
  | [], _, _ => h
  | _ :: names, m, hm => by
    obtain ⟨e, he, rfl, hentry⟩ := exists_entry_of_at?_cons hm
    exact hentries e he names m hentry

/-- Where no two entries have one name, an entry is what its name leads to. -/
theorem lookup_eq_some_iff_mem (h : (es.map (·.1)).Nodup) :
    es.lookup name = some n ↔ (name, n) ∈ es := by
  rw [List.lookup_eq_some_iff]
  constructor
  · rintro ⟨before, after, rfl, -⟩
    simp
  · intro hmem
    obtain ⟨before, after, rfl⟩ := List.append_of_mem hmem
    refine ⟨before, after, rfl, fun e he => ?_⟩
    rw [List.map_append, List.nodup_append] at h
    simpa using (h.2.2 e.1 (List.mem_map_of_mem he) name (by simp)).symm

/-- What the entries of a folder have from the folder, every node of a tree has from the tree. -/
theorem of_at?_of_entries {P : Node → Prop}
    (hP : ∀ access es, P (.folder access es) → ∀ e ∈ es, P e.2) (h : P n)
    (hm : n.at? names = some m) : P m := by
  induction names generalizing n with
  | nil =>
      rw [at?, Option.some.injEq] at hm
      exact hm ▸ h
  | cons name names ih =>
      obtain ⟨access, es, rfl⟩ := exists_folder_of_at?_cons hm
      obtain ⟨e, he, -, hm⟩ := exists_entry_of_at?_cons hm
      exact ih (hP access es h e he) hm

/-! ## Plain names -/

/-- A tree with plain names, in no folder the same one twice. -/
inductive Plain : Node → Prop where
  | file (content : Except String ByteArray) : Plain (.file content)
  | folder (access : Access) (es : List (String × Node)) (names : ∀ e ∈ es, Path.PlainName e.1)
      (distinct : (es.map (·.1)).Nodup) (nodes : ∀ e ∈ es, Plain e.2) : Plain (.folder access es)
  | link (target : Path) : Plain (.link target)

theorem Plain.empty (access : Access) : (Node.folder access []).Plain :=
  .folder access [] (by simp) (by simp) (by simp)

theorem Plain.singleton (hname : Path.PlainName name) (h : n.Plain) :
    (Node.folder access [(name, n)]).Plain :=
  .folder _ _ (by simpa using hname) (List.nodup_singleton name) (by simpa using h)

theorem Plain.of_at? (h : n.Plain) (hm : n.at? names = some m) : m.Plain := by
  refine of_at?_of_entries (fun access es hes e he => ?_) h hm
  cases hes with
  | folder _ _ _ _ hnodes => exact hnodes e he

/-! ## Short names -/

/-- A tree without a name that is too long for a file system. -/
inductive Short : Node → Prop where
  | file (content : Except String ByteArray) : Short (.file content)
  | folder (access : Access) (es : List (String × Node))
      (names : ∀ e ∈ es, e.1.utf8ByteSize ≤ FileTree.nameLimit) (nodes : ∀ e ∈ es, Short e.2) :
      Short (.folder access es)
  | link (target : Path) : Short (.link target)

theorem Short.empty (access : Access) : (Node.folder access []).Short :=
  .folder access [] (by simp) (by simp)

theorem Short.singleton (hname : name.utf8ByteSize ≤ FileTree.nameLimit) (h : n.Short) :
    (Node.folder access [(name, n)]).Short :=
  .folder _ _ (by simpa using hname) (by simpa using h)

theorem Short.of_at? (h : n.Short) (hm : n.at? names = some m) : m.Short := by
  refine of_at?_of_entries (fun access es hes e he => ?_) h hm
  cases hes with
  | folder _ _ _ hnodes => exact hnodes e he

/-! ## Links -/

/-- A tree without links. -/
inductive Unlinked : Node → Prop where
  | file (content : Except String ByteArray) : Unlinked (.file content)
  | folder (access : Access) (es : List (String × Node)) (nodes : ∀ e ∈ es, Unlinked e.2) :
      Unlinked (.folder access es)

theorem Unlinked.singleton (h : n.Unlinked) : (Node.folder access [(name, n)]).Unlinked :=
  .folder _ _ (by simpa using h)

theorem Unlinked.of_at? (h : n.Unlinked) (hm : n.at? names = some m) : m.Unlinked := by
  refine of_at?_of_entries (fun access es hes e he => ?_) h hm
  cases hes with
  | folder _ _ hnodes => exact hnodes e he

theorem Unlinked.at?_ne_link (h : n.Unlinked) (names : List String) (target : Path) :
    n.at? names ≠ some (.link target) := by
  intro hm
  cases h.of_at? hm

end SpecReview.Node
