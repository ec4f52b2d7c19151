import TextDesk.Folder

/-! # Paths and files

A path that can be written addresses a file: one that is there, or one that can be created.  Writing puts
a file only where no folder stands, and so leaves the way of every path as it is.  Main statements: what
is written to a path is read back from it, and any other file keeps what it holds.
-/

namespace TextDesk.Folder

variable {f g : Folder} {names last steps : List String} {path : String} {bytes : Bytes}

/-! ## Entries -/

theorem lookup_filter_of_ne {α β : Type} [BEq α] [LawfulBEq α] {key other : α} (hne : other ≠ key)
    (entries : List (α × β)) :
    (entries.filter (·.1 != key)).lookup other = entries.lookup other := by
  induction entries with
  | nil => rfl
  | cons entry entries ih =>
    rcases entry with ⟨k, b⟩
    by_cases hk : k = key
    · have hother : (other == k) = false := by simpa [hk] using hne
      rw [List.filter_cons_of_neg (by simpa using hk), List.lookup_cons, hother]
      exact ih
    · rw [List.filter_cons_of_pos (by simpa using hk), List.lookup_cons, List.lookup_cons, ih]

/-- An entry that is put somewhere changes nothing elsewhere. -/
theorem lookup_set_of_ne (entry : Entry) (hne : last ≠ names) :
    Folder.entry? (f.set names entry) last = f.entry? last := by
  have hlookup : (f.set names entry).entries.lookup last = f.entries.lookup last := by
    have hcons : (last == names) = false := by simpa using hne
    rw [← lookup_filter_of_ne hne f.entries, set, List.lookup_cons, hcons]
  unfold entry?
  rw [hlookup]

/-- An entry that is put where no folder stands is there. -/
theorem lookup_set_self (entry : Entry) (h : f.entry? names ≠ some .folder) :
    Folder.entry? (f.set names entry) names = some entry := by
  unfold entry? at h ⊢
  split
  · next hroot => exact absurd (if_pos hroot) h
  · simp [set]

/-- Of two entries put at the same place, the later one stays. -/
theorem set_set (first second : Entry) : (f.set names first).set names second = f.set names second := by
  simp [set, List.filter_filter]

/-! ## Following paths -/

/-- The place that names lead to. -/
def placeAt (f : Folder) (names : List String) : Place :=
  match f.entry? names with
  | some .folder => .folder
  | some (.file bytes) => .file names bytes
  | none => .free names

theorem placeAt_eq_file (h : f.placeAt last = .file names bytes) :
    last = names ∧ f.entry? names = some (.file bytes) := by
  unfold placeAt at h
  split at h
  · cases h
  · next hentry =>
    cases h
    exact ⟨rfl, hentry⟩
  · cases h

theorem placeAt_eq_free (h : f.placeAt last = .free names) : last = names ∧ f.entry? names = none := by
  unfold placeAt at h
  split at h
  · cases h
  · cases h
  · next hentry =>
    cases h
    exact ⟨rfl, hentry⟩

/-- A place that is no folder tells its names. -/
theorem eq_of_placeAt_eq (hfile : f.entry? names ≠ some .folder) (h : f.placeAt last = f.placeAt names) :
    last = names := by
  cases hplace : f.placeAt names with
  | folder =>
    unfold placeAt at hplace
    split at hplace
    · next hentry => exact absurd hentry hfile
    · cases hplace
    · cases hplace
  | file ns bytes =>
    rw [(placeAt_eq_file (h.trans hplace)).1, (placeAt_eq_file hplace).1]
  | free ns =>
    rw [(placeAt_eq_free (h.trans hplace)).1, (placeAt_eq_free hplace).1]

/-- A path that leads anywhere goes through folders, and leads to the same names in every tree that has
the same folders. -/
theorem exists_placeAt_of_follow {place : Place} (h : f.follow names steps = .ok place) :
    ∃ last, place = f.placeAt last
      ∧ ∀ g : Folder, (∀ ns, f.entry? ns = some .folder → g.entry? ns = some .folder) →
        g.follow names steps = .ok (g.placeAt last) := by
  induction steps generalizing names with
  | nil =>
    have hend (t : Folder) : t.follow names [] = .ok (t.placeAt names) := by
      unfold follow placeAt
      rcases t.entry? names with _ | _ | _ <;> rfl
    rw [hend] at h
    cases h
    exact ⟨names, rfl, fun g _ => hend g⟩
  | cons step steps ih =>
    unfold follow at h
    split at h
    · cases h
    · cases h
    next hfolder =>
    split at h
    · cases h
    next hsize =>
    rcases ih h with ⟨last, hplace, hsame⟩
    refine ⟨last, hplace, fun g hg => ?_⟩
    rw [follow, hg names hfolder]
    exact (if_neg hsize).trans (hsame g hg)

/-- A path that leads to a file leads to the names of the file. -/
theorem follow_eq_file {start : List String} (h : f.follow start steps = .ok (.file names bytes)) :
    f.follow start steps = .ok (f.placeAt names) ∧ f.entry? names = some (.file bytes) := by
  rcases exists_placeAt_of_follow h with ⟨last, hplace, -⟩
  rcases placeAt_eq_file hplace.symm with ⟨rfl, hentry⟩
  exact ⟨by rw [h, hplace], hentry⟩

/-- A path that leads to nothing leads to names that a file could have. -/
theorem follow_eq_free {start : List String} (h : f.follow start steps = .ok (.free names)) :
    f.follow start steps = .ok (f.placeAt names) ∧ f.entry? names = none := by
  rcases exists_placeAt_of_follow h with ⟨last, hplace, -⟩
  rcases placeAt_eq_free hplace.symm with ⟨rfl, hentry⟩
  exact ⟨by rw [h, hplace], hentry⟩

/-! ## Addressed files -/

/-- The path addresses the names of a file: one that is there, or one that can be created. -/
structure Addresses (f : Folder) (path : String) (names : List String) : Prop where
  flaw : flaw? path = none
  slash : endsWithSlash path = false
  follow : f.follow (pathStart path) (pathSteps path) = .ok (f.placeAt names)
  notFolder : f.entry? names ≠ some .folder

/-- Two paths address the same file. -/
def SameFile (f : Folder) (path other : String) : Prop :=
  ∃ names, f.Addresses path names ∧ f.Addresses other names

/-- A path addresses one file. -/
theorem Addresses.names_eq (h : f.Addresses path names) (hother : f.Addresses path last) :
    last = names :=
  eq_of_placeAt_eq h.notFolder (Except.ok.inj (hother.follow.symm.trans h.follow))

/-- Paths that address different names address different files. -/
theorem not_sameFile_of_ne {other : String} (h : f.Addresses path names)
    (hother : f.Addresses other last) (hne : names ≠ last) : ¬ f.SameFile path other := by
  rintro ⟨common, hpath, hotherpath⟩
  exact hne ((h.names_eq hpath).symm.trans (hother.names_eq hotherpath))

/-- Writing to the path succeeds. -/
def Writable (f : Folder) (path : String) : Prop := ∀ bytes, ∃ g, f.write path bytes = .ok g

/-- Writing to an addressed file puts it at its names. -/
theorem Addresses.write (h : f.Addresses path names) (bytes : Bytes) :
    f.write path bytes = .ok (f.set names (.file bytes)) := by
  have hcreation : f.creationNames path = .ok names := by
    have hfollow := h.follow
    have hfile := h.notFolder
    unfold creationNames
    unfold placeAt at hfollow
    dsimp only
    rw [h.slash, if_neg (by simp)]
    cases hentry : f.entry? names with
    | none => simp [hfollow, hentry]
    | some entry =>
      cases entry with
      | file bytes => simp [hfollow, hentry]
      | folder => exact absurd hentry hfile
  rw [Folder.write, h.flaw, hcreation]
  rfl

/-- Opening an addressed file that is there gives what it holds. -/
theorem Addresses.open?_eq_file (h : f.Addresses path names)
    (hentry : f.entry? names = some (.file bytes)) : f.open? path = .file bytes := by
  have hplace : f.placeAt names = .file names bytes := by rw [placeAt, hentry]
  rw [Folder.open?, h.flaw]
  dsimp only
  rw [h.follow, hplace, h.slash]
  rfl

/-- A path that was written addresses a file. -/
theorem exists_addresses_of_write (hwrite : f.write path bytes = .ok g) :
    ∃ names, f.Addresses path names := by
  unfold Folder.write at hwrite
  split at hwrite
  · cases hwrite
  next hflaw =>
  cases hcreation : f.creationNames path with
  | error e =>
    rw [hcreation] at hwrite
    cases hwrite
  | ok names =>
    unfold creationNames at hcreation
    dsimp only at hcreation
    split at hcreation
    · -- a path that ends with a slash addresses no file
      split at hcreation <;> cases hcreation
    next hslash =>
    split at hcreation
    · cases hcreation
    · cases hcreation
    · next hfollow =>
      cases hcreation
      rcases follow_eq_file hfollow with ⟨hplace, hentry⟩
      exact ⟨names, hflaw, by simpa using hslash, hplace, by simp [hentry]⟩
    · next hfollow =>
      cases hcreation
      rcases follow_eq_free hfollow with ⟨hplace, hentry⟩
      exact ⟨names, hflaw, by simpa using hslash, hplace, by simp [hentry]⟩

/-- A path that can be written addresses a file. -/
theorem Writable.addresses (h : f.Writable path) : ∃ names, f.Addresses path names := by
  rcases h [] with ⟨g, hwrite⟩
  exact exists_addresses_of_write hwrite

/-- A path that was written once can be written with any bytes. -/
theorem writable_of_write (hwrite : f.write path bytes = .ok g) : f.Writable path := by
  rcases exists_addresses_of_write hwrite with ⟨names, haddresses⟩
  exact fun other => ⟨_, haddresses.write other⟩

/-- A file that is opened is addressed by its path. -/
theorem exists_addresses_of_open? (h : f.open? path = .file bytes) :
    ∃ names, f.Addresses path names ∧ f.entry? names = some (.file bytes) := by
  unfold Folder.open? at h
  split at h
  · cases h
  next hflaw =>
  split at h
  · cases h
  · cases h
  · cases h
  next names held hfollow =>
  split at h
  · cases h
  next hslash =>
  cases h
  rcases follow_eq_file hfollow with ⟨hplace, hentry⟩
  exact ⟨names, ⟨hflaw, by simpa using hslash, hplace, by simp [hentry]⟩, hentry⟩

/-! ## Reading what was written -/

/-- A file that is put where no folder stands leaves the way of every path as it is. -/
theorem Addresses.set (h : f.Addresses path last) (hfile : f.entry? names ≠ some .folder)
    (bytes : Bytes) : (f.set names (.file bytes)).Addresses path last := by
  have hfolders : ∀ ns, f.entry? ns = some .folder →
      Folder.entry? (f.set names (.file bytes)) ns = some .folder := by
    intro ns hfolder
    have hne : ns ≠ names := by
      rintro rfl
      exact hfile hfolder
    rw [lookup_set_of_ne _ hne, hfolder]
  rcases exists_placeAt_of_follow h.follow with ⟨reached, hplace, hsame⟩
  obtain rfl : reached = last := eq_of_placeAt_eq h.notFolder hplace.symm
  refine ⟨h.flaw, h.slash, hsame _ hfolders, ?_⟩
  by_cases hsamenames : reached = names
  · rw [hsamenames, lookup_set_self _ hfile]
    simp
  · rw [lookup_set_of_ne _ hsamenames]
    exact h.notFolder

/-- What was written to a path is read back from it. -/
theorem Addresses.open?_set (h : f.Addresses path names) (bytes : Bytes) :
    (f.set names (.file bytes)).open? path = .file bytes :=
  (h.set h.notFolder bytes).open?_eq_file (lookup_set_self _ h.notFolder)

/-- A file keeps what it holds when another one is written. -/
theorem Addresses.open?_set_of_not_sameFile (h : f.Addresses path names) {other : String}
    (hopen : f.open? other = .file bytes) (hother : ¬ f.SameFile other path) (written : Bytes) :
    (f.set names (.file written)).open? other = .file bytes := by
  rcases exists_addresses_of_open? hopen with ⟨ns, haddresses, hentry⟩
  have hne : ns ≠ names := by
    rintro rfl
    exact hother ⟨ns, haddresses, h⟩
  refine (haddresses.set h.notFolder written).open?_eq_file ?_
  rw [lookup_set_of_ne _ hne, hentry]

end TextDesk.Folder
