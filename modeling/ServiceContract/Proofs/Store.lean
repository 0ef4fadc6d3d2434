import Mathlib.Data.List.Induction
import ServiceContract.Files.Store
import ServiceContract.Proofs.Attempts
import ServiceContract.Proofs.Pieces

/-!
# Reading what was written

What a path leads to depends on the folders on its way alone. These are kept by every operation
on a store, so a path to a file leads to the same names before and after, and what was written
there is read until the same names are written again. What is read is text: a file whose bytes are
none cannot be read.

* `Keeps`: a later store in which all folders are still folders.
* `exists_leadsTo`: a path to a file leads to the same names in all later stores.
* `createFolders_moreFolders`, `LeadsTo.wrote`: what becomes of a store.
* `read_eq_ok_iff`, `read_eq_invalidData_iff`: the files that are read, and those that are no text.
* `LeadsTo.read`: what is there is read.
-/

namespace ServiceContract.Files

/-- A name that is that of a file wherever it ends a path: without slashes and longer than two
dots. -/
structure IsFileName (name : String) : Prop where
  slash : '/' ∉ name.toList
  length : 2 < name.length

theorem IsFileName.append {name : String} (h : IsFileName name) (start : String) :
    2 < (start ++ name).length := by
  rw [String.length_append]
  exact Nat.lt_add_left _ h.length

/-- **The names of a path in a folder**: those of the folder, and the name at the end of the
last. -/
theorem exists_names_join (folder : String) : ∃ init last, ∀ name : String, '/' ∉ name.toList →
    Path.names (Path.join folder name) = init ++ [last ++ name] := by
  obtain ⟨stem, hstem⟩ : ∃ stem, ∀ name, Path.join folder name = stem ++ name := by
    unfold Path.join
    by_cases h : (folder.isEmpty || folder.endsWith "/") = true
    · exact ⟨folder, fun name => if_pos h⟩
    · exact ⟨folder ++ "/", fun name => if_neg h⟩
  obtain ⟨init, last, hpieces⟩ := @Text.exists_pieces_append '/' stem.toList
  refine ⟨init.map String.ofList, String.ofList last, fun name hname => ?_⟩
  rw [hstem, Path.names, String.toList_append, hpieces _ hname, List.map_append]
  simp

namespace Store

variable {s s' s'' : Store} {x y : List String} {content : ByteArray} {text : String}

/-! ## What names lead to -/

theorem spotOf_eq_file_iff :
    s.spotOf x = .file y content ↔ x = y ∧ s.content? x = some content := by
  unfold spotOf
  cases hc : s.content? x with
  | some c => simp
  | none => cases s.hasFolder x <;> simp

theorem spotOf_eq_folder_iff :
    s.spotOf x = .folder y ↔ x = y ∧ s.content? x = none ∧ s.hasFolder x = true := by
  unfold spotOf
  cases hc : s.content? x with
  | some c => simp
  | none => cases s.hasFolder x <;> simp

theorem spotOf_eq_vacant_iff :
    s.spotOf x = .vacant y ↔ x = y ∧ s.content? x = none ∧ s.hasFolder x = false := by
  unfold spotOf
  cases hc : s.content? x with
  | some c => simp
  | none => cases s.hasFolder x <;> simp

/-! ## Stores that keep folders -/

/-- **A later store**: it has the same current folder, and all folders are still folders. -/
structure Keeps (s s' : Store) : Prop where
  current : s'.current = s.current
  folder : ∀ x, s.spotOf x = .folder x → s'.spotOf x = .folder x

theorem Keeps.refl (s : Store) : Keeps s s := ⟨rfl, fun _ h => h⟩

theorem Keeps.trans (h : Keeps s s') (h' : Keeps s' s'') : Keeps s s'' :=
  ⟨h'.current.trans h.current, fun x hx => h'.folder x (h.folder x hx)⟩

/-! ## The way of a path -/

theorem exists_folder_of_step {spot r : Spot} {name : String} (h : s.step spot name = .ok r) :
    ∃ a, spot = .folder a := by
  cases spot with
  | folder a => exact ⟨a, rfl⟩
  | file _ _ => cases h
  | vacant _ => cases h

/-- A step into a folder stays one. -/
theorem Keeps.step (h : Keeps s s') {a b : List String} {name : String}
    (hstep : s.step (.folder a) name = .ok (.folder b)) :
    s'.step (.folder a) name = .ok (.folder b) := by
  unfold Store.step at hstep ⊢
  simp only at hstep ⊢
  split at hstep
  · next hdot => rw [if_pos hdot, hstep]
  · next hdot =>
    rw [if_neg hdot]
    split at hstep
    · next hup => rw [if_pos hup, hstep]
    · next hup =>
      rw [if_neg hup]
      split at hstep
      · cases hstep
      · next hsize =>
        rw [if_neg hsize]
        have hspot := Except.ok.inj hstep
        obtain ⟨rfl, -⟩ := spotOf_eq_folder_iff.1 hspot
        rw [h.folder _ hspot]

/-- A step by the name of a file. -/
theorem step_eq_ok_iff {a : List String} {name : String} (hname : 2 < name.length) {r : Spot} :
    s.step (.folder a) name = .ok r ↔
      name.utf8ByteSize ≤ maxNameSize ∧ r = s.spotOf (a ++ [name]) := by
  have hdot : (name.isEmpty || name == ".") = false := by
    rw [Bool.or_eq_false_iff]
    constructor
    · by_contra h
      rw [Bool.not_eq_false, String.isEmpty_iff] at h
      rw [h] at hname
      exact absurd hname (by decide)
    · by_contra h
      rw [Bool.not_eq_false, beq_iff_eq] at h
      rw [h] at hname
      exact absurd hname (by decide)
  have hup : (name == "..") = false := by
    by_contra h
    rw [Bool.not_eq_false, beq_iff_eq] at h
    rw [h] at hname
    exact absurd hname (by decide)
  unfold step
  simp only [hdot, hup]
  rw [if_neg Bool.false_ne_true, if_neg Bool.false_ne_true]
  by_cases hsize : maxNameSize < name.utf8ByteSize
  · rw [if_pos hsize]
    simp [Nat.not_le.2 hsize]
  · rw [if_neg hsize, Except.ok.injEq, eq_comm]
    exact (and_iff_right (Nat.not_lt.1 hsize)).symm

theorem foldlM_step_concat {names : List String} {name : String} {spot r : Spot} :
    (names ++ [name]).foldlM s.step spot = .ok r ↔
      ∃ a, names.foldlM s.step spot = .ok (.folder a) ∧ s.step (.folder a) name = .ok r := by
  simp only [List.foldlM_append, List.foldlM_cons, List.foldlM_nil, bind_pure, bind_eq_ok]
  constructor
  · rintro ⟨mid, hmid, hstep⟩
    obtain ⟨a, rfl⟩ := exists_folder_of_step hstep
    exact ⟨a, hmid, hstep⟩
  · rintro ⟨a, hmid, hstep⟩
    exact ⟨_, hmid, hstep⟩

/-- **The way into a folder stays the same.** -/
theorem Keeps.foldlM_step (h : Keeps s s') {names a b : List String}
    (hway : names.foldlM s.step (.folder a) = .ok (.folder b)) :
    names.foldlM s'.step (.folder a) = .ok (.folder b) := by
  -- from the end: only folders lead on, so all spots before the last are folders
  induction names using List.reverseRecOn generalizing b with
  | nil => exact hway
  | append_singleton names name ih =>
    obtain ⟨mid, hmid, hstep⟩ := foldlM_step_concat.1 hway
    exact foldlM_step_concat.2 ⟨mid, ih hmid, h.step hstep⟩

/-- A path that may be used. -/
structure Usable (path : String) : Prop where
  ne_empty : path.isEmpty = false
  zero : path.contains '\x00' = false
  size : path.utf8ByteSize < pathSizeLimit

theorem locate_eq_ok_iff {path : String} {spot : Spot} :
    s.locate path = .ok spot ↔ Usable path ∧ (Path.names path).foldlM s.step
      (.folder (if path.startsWith "/" then [] else s.current)) = .ok spot := by
  unfold locate
  constructor
  · intro h
    split at h
    · cases h
    · next hempty =>
      split at h
      · cases h
      · next hzero =>
        split at h
        · cases h
        · next hsize =>
          exact ⟨⟨by simpa using hempty, by simpa using hzero, Nat.not_le.1 hsize⟩, h⟩
  · rintro ⟨⟨hempty, hzero, hsize⟩, h⟩
    rw [hempty, hzero, if_neg Bool.false_ne_true, if_neg Bool.false_ne_true,
      if_neg (Nat.not_le.2 hsize), h]

/-- A path leads to names, in a store and in all later ones. -/
def LeadsTo (s : Store) (path : String) (x : List String) : Prop :=
  ∀ s', Keeps s s' → s'.locate path = .ok (s'.spotOf x)

/-- **A path to a file leads to the same names in all later stores.** The last of them depends on
the folder and the name of the file alone. -/
theorem exists_leadsTo (folder : String) : ∃ last, ∀ name, IsFileName name → ∀ {s : Store} {spot},
    s.locate (Path.join folder name) = .ok spot →
    ∃ a, s.LeadsTo (Path.join folder name) (a ++ [last ++ name]) := by
  obtain ⟨init, last, hnames⟩ := exists_names_join folder
  refine ⟨last, fun name hname s spot h => ?_⟩
  obtain ⟨husable, hway⟩ := locate_eq_ok_iff.1 h
  rw [hnames name hname.slash] at hway
  obtain ⟨a, hinit, hstep⟩ := foldlM_step_concat.1 hway
  obtain ⟨hsize, -⟩ := (step_eq_ok_iff (hname.append last)).1 hstep
  refine ⟨a, fun s' hs' => locate_eq_ok_iff.2 ⟨husable, ?_⟩⟩
  rw [hnames name hname.slash, hs'.current]
  exact foldlM_step_concat.2
    ⟨a, hs'.foldlM_step hinit, (step_eq_ok_iff (hname.append last)).2 ⟨hsize, rfl⟩⟩

/-! ## Creating folders -/

/-- A store with more folders. -/
structure MoreFolders (s s' : Store) : Prop where
  files : s'.files = s.files
  current : s'.current = s.current
  folders : s.folders ⊆ s'.folders

theorem MoreFolders.refl (s : Store) : MoreFolders s s := ⟨rfl, rfl, fun _ h => h⟩

theorem MoreFolders.trans (h : MoreFolders s s') (h' : MoreFolders s' s'') : MoreFolders s s'' :=
  ⟨h'.files.trans h.files, h'.current.trans h.current, fun _ hx => h'.folders (h.folders hx)⟩

theorem MoreFolders.content? (h : MoreFolders s s') : s'.content? = s.content? := by
  funext x
  unfold Store.content?
  rw [h.files]

theorem MoreFolders.keeps (h : MoreFolders s s') : Keeps s s' := by
  refine ⟨h.current, fun x hx => ?_⟩
  obtain ⟨-, hc, hf⟩ := spotOf_eq_folder_iff.1 hx
  refine spotOf_eq_folder_iff.2 ⟨rfl, by rw [h.content?, hc], ?_⟩
  unfold hasFolder at hf ⊢
  rw [Bool.or_eq_true, List.contains_iff_mem] at hf ⊢
  exact hf.imp_right fun hmem => h.folders hmem

theorem createFolder_moreFolders {path : String} (h : s.createFolder path = .ok s') :
    MoreFolders s s' := by
  unfold createFolder at h
  obtain ⟨spot, -, h⟩ := bind_eq_ok.1 h
  split at h
  · cases h
    exact ⟨rfl, rfl, List.subset_append_left _ _⟩
  · cases h

theorem createFoldersWithin_moreFolders {fuel : Nat} {path : String}
    (h : createFoldersWithin fuel s path = .ok s') : MoreFolders s s' := by
  induction fuel generalizing s s' path with
  | zero => cases h
  | succ fuel ih =>
    unfold createFoldersWithin at h
    split at h
    · cases h
      exact .refl s
    · split at h
      · next hcreate =>
        cases h
        exact createFolder_moreFolders hcreate
      · split at h
        · cases h
        · -- the folders above come first, then the folder itself
          obtain ⟨mid, hmid, h⟩ := bind_eq_ok.1 h
          refine (ih hmid).trans ?_
          split at h
          · next hcreate =>
            cases h
            exact createFolder_moreFolders hcreate
          · split at h
            · cases h
              exact .refl _
            · cases h
      · split at h
        · cases h
          exact .refl s
        · cases h

/-- **Creating folders leaves all files as they are.** -/
theorem createFolders_moreFolders {path : String} (h : s.createFolders path = .ok s') :
    MoreFolders s s' :=
  createFoldersWithin_moreFolders h

/-! ## Writing and reading -/

theorem content?_replace (names : List String) :
    content? { s with files := s.files.map fun f => if f.1 == names then (names, content) else f } x
      = if x = names then (s.content? x).map fun _ => content else s.content? x := by
  have hkey : ((·.1 == x) ∘ fun f : List String × ByteArray =>
      if f.1 == names then (names, content) else f) = (·.1 == x) := by
    funext f
    by_cases hf : f.1 = names <;> simp [hf]
  unfold content?
  simp only
  rw [List.find?_map, hkey]
  cases hfind : s.files.find? (·.1 == x) with
  | none => simp
  | some f =>
    have hf : f.1 = x := by simpa using List.find?_some hfind
    by_cases hx : x = names <;> simp [hf, hx]

theorem content?_append (names : List String) :
    content? { s with files := s.files ++ [(names, content)] } x =
      (s.content? x).or (if x = names then some content else none) := by
  unfold content?
  simp only
  rw [List.find?_append]
  cases s.files.find? (·.1 == x) with
  | some f => simp
  | none =>
    by_cases hx : x = names
    · simp [hx]
    · simp [hx, Ne.symm hx]

/-- A store with a file written. -/
structure Wrote (s s' : Store) (x : List String) (text : String) : Prop where
  current : s'.current = s.current
  folders : s'.folders = s.folders
  noFolder : s.spotOf x ≠ .folder x
  content : s'.content? x = some text.toUTF8
  others : ∀ y, y ≠ x → s'.content? y = s.content? y

theorem Wrote.keeps (h : Wrote s s' x text) : Keeps s s' := by
  refine ⟨h.current, fun y hy => ?_⟩
  obtain ⟨-, hc, hf⟩ := spotOf_eq_folder_iff.1 hy
  have hne : y ≠ x := by
    rintro rfl
    exact h.noFolder hy
  refine spotOf_eq_folder_iff.2 ⟨rfl, by rw [h.others y hne, hc], ?_⟩
  unfold hasFolder at hf ⊢
  rw [h.folders]
  exact hf

/-- **Writing puts the text where the path leads**, and nowhere else. -/
theorem LeadsTo.wrote {path : String} (hl : s.LeadsTo path x)
    (h : s.write path text = .ok s') : Wrote s s' x text := by
  unfold write at h
  rw [hl s (.refl s)] at h
  obtain ⟨spot, hspot, h⟩ := bind_eq_ok.1 h
  cases hspot
  cases hx : s.spotOf x with
  | folder names =>
    rw [hx] at h
    cases h
  | file names old =>
    rw [hx] at h
    cases h
    obtain ⟨rfl, hold⟩ := spotOf_eq_file_iff.1 hx
    refine ⟨rfl, rfl, by rw [hx]; exact nofun, ?_, fun y hy => ?_⟩
    · rw [content?_replace, if_pos rfl, hold]
      rfl
    · rw [content?_replace, if_neg hy]
  | vacant names =>
    rw [hx] at h
    cases h
    obtain ⟨rfl, hnone, -⟩ := spotOf_eq_vacant_iff.1 hx
    refine ⟨rfl, rfl, by rw [hx]; exact nofun, ?_, fun y hy => ?_⟩
    · rw [content?_append, hnone, if_pos rfl]
      rfl
    · rw [content?_append, if_neg hy, Option.or_none]

theorem write_of_vacant {path : String} (h : s.locate path = .ok (.vacant x)) :
    s.write path text = .ok { s with files := s.files ++ [(x, text.toUTF8)] } := by
  unfold write
  rw [h]
  rfl

theorem exists_locate_of_write {path : String} (h : s.write path text = .ok s') :
    ∃ spot, s.locate path = .ok spot := by
  unfold write at h
  obtain ⟨spot, hspot, -⟩ := bind_eq_ok.1 h
  exact ⟨spot, hspot⟩

/-- Bytes are those of a text exactly if they are decoded to it. -/
theorem fromUTF8?_eq_some_iff : String.fromUTF8? content = some text ↔ content = text.toUTF8 := by
  unfold String.fromUTF8?
  constructor
  · intro h
    split at h
    · cases h
      rfl
    · cases h
  · rintro rfl
    rw [String.toUTF8_eq_toByteArray, dif_pos text.isValidUTF8]
    rfl

/-- **A file is read as the text of its bytes.** -/
theorem read_eq_ok_iff {path : String} :
    s.read path = .ok text ↔ ∃ names, s.locate path = .ok (.file names text.toUTF8) := by
  unfold Store.read
  rw [bind_eq_ok]
  constructor
  · rintro ⟨spot, hspot, h⟩
    cases spot with
    | folder _ => cases h
    | vacant _ => cases h
    | file names content =>
      simp only at h
      split at h
      · next found hdecode =>
        cases h
        rw [← fromUTF8?_eq_some_iff.1 hdecode]
        exact ⟨names, hspot⟩
      · cases h
  · rintro ⟨names, hlocate⟩
    refine ⟨_, hlocate, ?_⟩
    simp only
    rw [fromUTF8?_eq_some_iff.2 rfl]

/-- **A file cannot be read as text** exactly if its bytes are those of no text. -/
theorem read_eq_invalidData_iff {path : String} {names : List String}
    (h : s.locate path = .ok (.file names content)) :
    s.read path = .error .invalidData ↔ ∀ text : String, content ≠ text.toUTF8 := by
  unfold Store.read
  rw [h]
  cases hdecode : String.fromUTF8? content with
  | none =>
    refine iff_of_true (by simp [bind, Except.bind, hdecode]) fun text heq => ?_
    rw [fromUTF8?_eq_some_iff.2 heq] at hdecode
    cases hdecode
  | some text =>
    refine iff_of_false (by simp [bind, Except.bind, hdecode]) fun hnone => ?_
    exact hnone text (fromUTF8?_eq_some_iff.1 hdecode)

/-- **What is there is read**, in all later stores. -/
theorem LeadsTo.read {path : String} (hl : s.LeadsTo path x) (hs : Keeps s s')
    (hc : s'.content? x = some text.toUTF8) : s'.read path = .ok text := by
  have hspot : s'.spotOf x = .file x text.toUTF8 := spotOf_eq_file_iff.2 ⟨rfl, hc⟩
  refine read_eq_ok_iff.2 ⟨x, ?_⟩
  rw [hl s' hs, hspot]

end Store

end ServiceContract.Files
