import Mathlib.Tactic.Common
import MetalLowering.Files.Store

/-!
# Files that are read after one was written

A path that can be followed leads to the parts that it spells (`locate_eq_ok`), and it is followed
in the same way as long as all directories stay (`locate_of_directories`). A write puts a file where
no directory stands (`write_eq_ok`), so it changes what one file reads as and nothing else: the
written path gives the content (`read_write`), and a file under other parts stays readable as it was
(`read_write_of_ne`). Where a file is replaced, nothing else reads differently (`read_put_of_file`).
-/

namespace MetalLowering

/-- Text that is written is read back, with its line breaks unified. -/
lemma decodeText_encodeText (t : Text) : decodeText (encodeText t) = some (Text.unifyBreaks t) := by
  have hdecode : String.fromUTF8? (encodeText t) = some (String.ofList t) := by
    unfold String.fromUTF8? encodeText
    rw [String.toUTF8_eq_toByteArray, dif_pos (String.ofList t).isValidUTF8]
    rfl
  rw [decodeText, hdecode, Option.map_some, String.toList_ofList]

namespace Store

variable {s after : Store} {path other : Path} {content : ByteArray}

/-! ### Places -/

/-- What was put in a place stands there, and everywhere else what stood there. -/
@[simp] lemma node?_put (s : Store) (parts place : List Text) (node : Node) :
    (s.put parts node).node? place = if parts = place then some node else s.node? place :=
  Table.get?_put parts place node s.nodes

/-- Putting a node does not change the working directory. -/
@[simp] lemma base_put (s : Store) (parts : List Text) (node : Node) :
    (s.put parts node).base = s.base := rfl

/-- Erasing a node does not change the working directory. -/
@[simp] lemma base_erase (s : Store) (parts : List Text) : (s.erase parts).base = s.base := rfl

/-- Installing a node does not change the working directory. -/
@[simp] lemma base_install (s : Store) (parts : List Text) (node : Node) :
    (s.install parts node).base = s.base := by
  have hbase : ∀ (missing : List (List Text)) (s : Store),
      (missing.foldl (fun s above => s.put above .directory) s).base = s.base := by
    intro missing
    induction missing with
    | nil => exact fun _ => rfl
    | cons above missing ih => exact fun s => ih (s.put above .directory)
  exact hbase _ s

/-- A store with the same working directory and at least the same directories. -/
structure KeepsDirectories (s after : Store) : Prop where
  /-- The working directory is the same. -/
  base : after.base = s.base
  /-- Directories stay directories. -/
  directory : ∀ place, s.node? place = some .directory → after.node? place = some .directory

/-- Following parts means to take one after the other, through directories that stay. -/
lemma follow_eq_ok {place parts target : List Text} (h : s.follow place parts = .ok target) :
    target = parts.foldl Path.push place ∧
      ∀ after : Store, s.KeepsDirectories after → after.follow place parts = .ok target := by
  induction parts generalizing place with
  | nil =>
      obtain rfl := Except.ok.inj h
      exact ⟨rfl, fun _ _ => rfl⟩
  | cons part rest ih =>
      rw [follow] at h
      split at h
      next hnode =>
        split_ifs at h with hlong
        obtain ⟨htarget, hstays⟩ := ih h
        refine ⟨htarget, fun after hkeeps => ?_⟩
        simp only [follow, hkeeps.directory place hnode, hlong, if_false]
        exact hstays after hkeeps
      next => cases h
      next => cases h

/-- A path that can be followed leads to the parts that it spells. -/
lemma locate_eq_ok {parts : List Text} (h : s.locate path = .ok parts) : parts = s.partsOf path := by
  unfold locate at h
  split_ifs at h with hnull hlong hrelative
  · rw [(follow_eq_ok h).1, partsOf, Path.absolute, if_pos hrelative]
  · rw [(follow_eq_ok h).1, partsOf, Path.absolute, if_neg hrelative]

/-- A place that was reached is reached as long as the directories stay. -/
lemma locate_of_directories {parts : List Text} (h : s.locate path = .ok parts)
    (hkeeps : s.KeepsDirectories after) : after.locate path = .ok parts := by
  unfold locate at h ⊢
  split_ifs at h with hnull hlong hrelative
  · rw [if_neg hnull, if_neg hlong, if_pos hrelative, hkeeps.base]
    exact (follow_eq_ok h).2 after hkeeps
  · rw [if_neg hnull, if_neg hlong, if_neg hrelative]
    exact (follow_eq_ok h).2 after hkeeps

/-! ### Reading and writing -/

/-- What a path reads as is the file at its place. -/
lemma read_eq_ok_iff :
    s.read path = .ok content ↔
      s.locate path = .ok (s.partsOf path) ∧ s.node? (s.partsOf path) = some (.file content) := by
  unfold read
  rcases hlocate : s.locate path with problem | parts
  · simp
  · obtain rfl := locate_eq_ok hlocate
    rcases hnode : s.node? (s.partsOf path) with _ | ⟨found⟩ | _ <;> simp [hnode]

/-- A write puts the file where its path leads to, which is no directory. -/
lemma write_eq_ok (h : s.write path content = .ok after) :
    s.locate path = .ok (s.partsOf path) ∧ s.node? (s.partsOf path) ≠ some .directory ∧
      after = s.put (s.partsOf path) (.file content) := by
  unfold write at h
  split at h
  next => cases h
  next parts hlocate =>
    obtain rfl := locate_eq_ok hlocate
    split at h
    next => cases h
    next hnode => exact ⟨hlocate, hnode, (Except.ok.inj h).symm⟩

/-- Writing does not change the working directory. -/
lemma base_write (h : s.write path content = .ok after) : after.base = s.base := by
  rw [(write_eq_ok h).2.2, base_put]

/-- A path to which something can be written. -/
def Writable (s : Store) (path : Path) : Prop := ∃ content after, s.write path content = .ok after

/-- Whether a file can be written does not depend on its content. -/
lemma Writable.exists_write (h : s.Writable path) (content : ByteArray) :
    ∃ after, s.write path content = .ok after := by
  obtain ⟨old, after, hold⟩ := h
  obtain ⟨hlocate, hnode, -⟩ := write_eq_ok hold
  refine ⟨s.put (s.partsOf path) (.file content), ?_⟩
  simp only [write, hlocate]

/-- A path can be written exactly if writing nothing to it succeeds. -/
lemma writable_iff : s.Writable path ↔ (s.write path .empty).toBool = true := by
  constructor
  · intro h
    obtain ⟨after, hafter⟩ := h.exists_write .empty
    rw [hafter]
    rfl
  · intro h
    rcases hwrite : s.write path .empty with problem | after
    · rw [hwrite] at h
      cases h
    · exact ⟨.empty, after, hwrite⟩

instance (s : Store) (path : Path) : Decidable (s.Writable path) :=
  decidable_of_iff _ writable_iff.symm

/-- Writing keeps the directories. -/
lemma keepsDirectories_of_write (h : s.write path content = .ok after) :
    s.KeepsDirectories after := by
  obtain ⟨-, hnode, rfl⟩ := write_eq_ok h
  refine ⟨rfl, fun place hplace => ?_⟩
  have hne : s.partsOf path ≠ place := by
    rintro rfl
    exact hnode hplace
  rw [node?_put, if_neg hne, hplace]

/-- A written file reads as its content. -/
lemma read_write (h : s.write path content = .ok after) : after.read path = .ok content := by
  have hlocate := locate_of_directories (write_eq_ok h).1 (keepsDirectories_of_write h)
  have hparts := locate_eq_ok hlocate
  rw [read_eq_ok_iff, ← hparts]
  refine ⟨hlocate, ?_⟩
  rw [(write_eq_ok h).2.2, node?_put, if_pos rfl]

/-- A file that could be read stays as it is when another one is written. -/
lemma read_write_of_ne (h : s.write path content = .ok after) {old : ByteArray}
    (hread : s.read other = .ok old) (hne : s.partsOf other ≠ s.partsOf path) :
    after.read other = .ok old := by
  obtain ⟨hlocate, hnode⟩ := read_eq_ok_iff.mp hread
  have hlocate' := locate_of_directories hlocate (keepsDirectories_of_write h)
  have hparts := locate_eq_ok hlocate'
  rw [read_eq_ok_iff, ← hparts]
  refine ⟨hlocate', ?_⟩
  rw [(write_eq_ok h).2.2, node?_put, if_neg hne.symm, hnode]

/-! ### Replacing a file -/

/-- Paths are followed in the same way whatever a file holds. -/
lemma follow_put_of_file {parts : List Text} {old : ByteArray} (h : s.node? parts = some (.file old))
    (content : ByteArray) (place rest : List Text) :
    (s.put parts (.file content)).follow place rest = s.follow place rest := by
  induction rest generalizing place with
  | nil => rfl
  | cons part rest ih =>
      by_cases hplace : parts = place
      · subst hplace
        simp [follow, h]
      · simp only [follow, node?_put, if_neg hplace, ih]

/-- Every path but that of the replaced file reads as before. -/
lemma read_put_of_file {parts : List Text} {old : ByteArray} (h : s.node? parts = some (.file old))
    (hne : parts ≠ s.partsOf path) (content : ByteArray) :
    (s.put parts (.file content)).read path = s.read path := by
  have hlocate : (s.put parts (.file content)).locate path = s.locate path := by
    simp only [locate, base_put, follow_put_of_file h]
  unfold read
  rw [hlocate]
  rcases hplace : s.locate path with problem | place
  · rfl
  · obtain rfl := locate_eq_ok hplace
    simp only [node?_put, if_neg hne]

/-- With all directories in place, a node is put without more. -/
lemma install_eq_put {parts : List Text}
    (h : ∀ above ∈ beginnings parts.dropLast, (s.node? above).isSome) (node : Node) :
    s.install parts node = s.put parts node := by
  have hmissing : (beginnings parts.dropLast).filter (fun above => (s.node? above).isNone) = [] := by
    rw [List.filter_eq_nil_iff]
    intro above habove
    rw [Option.isNone_iff_eq_none]
    exact Option.isSome_iff_ne_none.mp (h above habove)
  simp only [install, hmissing, List.foldl_nil]

end Store

end MetalLowering
