import Taskweave.Proofs.Disk.Walk

/-!
# What is beneath a place

A way that does not go up stays beneath the place where it starts. It is the same on all disks that are
alike there (`Disk.Alike.walk`), and making it changes nothing elsewhere (`Disk.Within.makeAlong`).
The same is so for all that is done with a path beneath another one which leads to the place.

The files beneath a place are those that are found there (`Disk.mem_filesBeneath`), in the order of
their paths (`Disk.ascending_filesBeneath`).
-/

namespace Taskweave

namespace Disk

/-- Two disks have the same at a place and beneath it. -/
structure Alike (place : Place) (d d' : Disk) : Prop where
  entries : ∀ q, d'.entry? (place ++ q) = d.entry? (place ++ q)
  limits : d'.limits = d.limits

/-- A disk has become another one, in which nothing has changed but beneath a place. -/
structure Within (place : Place) (d d' : Disk) : Prop where
  entries : ∀ k, beneath? place k = none → Dict.find? d'.entries k = Dict.find? d.entries k
  here : d'.here = d.here
  limits : d'.limits = d.limits

/-- A disk has become another one, with all folders, and something at all places where there was
something. -/
structure Keeps (d d' : Disk) : Prop where
  folders : ∀ q, d.entry? q = some .folder → d'.entry? q = some .folder
  entries : ∀ q, (d.entry? q).isSome → (d'.entry? q).isSome
  here : d'.here = d.here
  limits : d'.limits = d.limits

/-- Writes to the file of a path what becomes of its text. -/
def rewrite (f : String → String) (d : Disk) (path : String) : Except OsFault Disk := do
  let place ← d.target path
  return d.set place (.file (f (d.contentAt place)))

/-- A name is one that leads down. -/
def IsName (name : String) : Prop := Path.isStep name = true ∧ name ≠ ".." ∧ '/' ∉ name.toList

instance : DecidablePred IsName := fun name =>
  inferInstanceAs (Decidable (Path.isStep name = true ∧ name ≠ ".." ∧ '/' ∉ name.toList))

/-- The keys of the entries are in order, and all names lead down. -/
structure WellFormed (d : Disk) : Prop where
  ascending : Dict.Ascending d.entries
  names : ∀ k ∈ Dict.keys d.entries, ∀ name ∈ Path.names k, IsName name
  here : ∀ name ∈ d.here, IsName name

section
variable {d d' d'' : Disk} {place q : Place} {ns : List String}
  {name p base path content : String} {e : Entry} {f : String → String}

/-! ## Alike disks -/

theorem Alike.refl (place : Place) (d : Disk) : Alike place d d := ⟨fun _ => rfl, rfl⟩

theorem Alike.settle (h : Alike place d d') (ns : List String) (q : Place) :
    d'.settle ns (place ++ q) = d.settle ns (place ++ q) := by
  rw [Disk.settle, Disk.settle, h.entries]

theorem Alike.checkPath (h : Alike place d d') (path : String) :
    d'.checkPath path = d.checkPath path := by
  rw [Disk.checkPath, Disk.checkPath, h.limits]

/-- Ways are the same on alike disks. -/
theorem Alike.walk (h : Alike place d d') (hup : ".." ∉ ns) (q : Place) :
    d'.walk (place ++ q) ns = d.walk (place ++ q) ns := by
  induction ns generalizing q with
  | nil => rfl
  | cons name ns ih =>
    obtain ⟨hname, hns⟩ := not_or.1 (mt List.mem_cons.2 hup)
    have hnext := h.entries (q ++ [name])
    have hwalk := ih hns (q ++ [name])
    rw [← List.append_assoc] at hnext hwalk
    rw [Disk.walk, Disk.walk, h.entries, h.limits, if_neg (Ne.symm hname), if_neg (Ne.symm hname),
      hnext, hwalk, ih hns]

/-- So are the places of files. -/
theorem Alike.fileAt (h : Alike place d d') (q : Place) (name : String) (emptyBehind : Bool) :
    d'.fileAt (place ++ q) name emptyBehind = d.fileAt (place ++ q) name emptyBehind := by
  have hnext := h.entries (q ++ [name])
  rw [← List.append_assoc] at hnext
  rw [Disk.fileAt, Disk.fileAt, h.entries, h.limits, hnext]

/-- Disks stay alike when the same is put at the same place. -/
theorem Alike.set (h : Alike place d d') (q : Place) (e : Entry) :
    Alike place (d.set (place ++ q) e) (d'.set (place ++ q) e) where
  entries r := by
    by_cases hr : place ++ r = []
    · rw [hr]
      rfl
    · rw [entry?_set hr, entry?_set hr, h.entries]
  limits := h.limits

/-- Folders are made in the same way on alike disks, which stay alike. -/
theorem Alike.makeAlong (h : Alike place d d') (hup : ".." ∉ ns) (q : Place) :
    (d'.makeAlong (place ++ q) ns).1 = (d.makeAlong (place ++ q) ns).1 ∧
      Alike place (d.makeAlong (place ++ q) ns).2 (d'.makeAlong (place ++ q) ns).2 := by
  induction ns generalizing d d' q with
  | nil => exact ⟨rfl, h⟩
  | cons name ns ih =>
    obtain ⟨hname, hns⟩ := not_or.1 (mt List.mem_cons.2 hup)
    rw [Disk.makeAlong, Disk.makeAlong, h.limits]
    by_cases hvoid : Path.isVoid name = true
    · rw [if_pos hvoid, if_pos hvoid]
      exact ih h hns q
    rw [if_neg hvoid, if_neg hvoid, if_neg (Ne.symm hname), if_neg (Ne.symm hname)]
    by_cases hlong : exceeds name d.limits.name = true
    · rw [if_pos hlong, if_pos hlong]
      exact ⟨rfl, h⟩
    rw [if_neg hlong, if_neg hlong]
    simp only [List.append_assoc, h.entries]
    cases d.entry? (place ++ (q ++ [name])) with
    | some e =>
      cases e with
      | folder => exact ih h hns (q ++ [name])
      | file => exact ⟨rfl, h⟩
    | none =>
      by_cases hlast : (ns.all Path.isVoid && ns.contains ".") = true
      · simp only [if_pos hlast]
        exact ⟨trivial, h⟩
      · simp only [if_neg hlast]
        exact ih (h.set _ _) hns (q ++ [name])

/-! ## Changes beneath a place -/

theorem Within.refl (place : Place) (d : Disk) : Within place d d := ⟨fun _ _ => rfl, rfl, rfl⟩

theorem Within.trans (h : Within place d d') (h' : Within place d' d'') : Within place d d'' where
  entries k hk := (h'.entries k hk).trans (h.entries k hk)
  here := h'.here.trans h.here
  limits := h'.limits.trans h.limits

theorem Within.set (d : Disk) (place : Place) (hq : q ≠ []) (e : Entry) :
    Within place d (d.set (place ++ q) e) where
  entries k hk := by
    rw [Disk.set, Dict.find?_insert, if_neg]
    rintro rfl
    rw [beneath?_keyOf_append place hq] at hk
    cases hk
  here := rfl
  limits := rfl

/-- Making folders on a way that does not go up changes nothing but beneath its start. -/
theorem Within.makeAlong (d : Disk) (hup : ".." ∉ ns) (place q : Place) :
    Within place d (d.makeAlong (place ++ q) ns).2 := by
  induction ns generalizing d q with
  | nil => exact .refl place d
  | cons name ns ih =>
    obtain ⟨hname, hns⟩ := not_or.1 (mt List.mem_cons.2 hup)
    have hnext : q ++ [name] ≠ [] := List.append_ne_nil_of_right_ne_nil _ (List.cons_ne_nil _ _)
    rcases makeAlong_cases d (place ++ q) name ns with ⟨-, heq⟩ | ⟨rfl, -⟩ | ⟨fault, heq⟩ |
      ⟨-, -, -, heq⟩ | ⟨-, -, -, heq⟩
    · rw [heq]
      exact ih d hns q
    · exact absurd rfl hname
    · rw [heq]
      exact .refl place d
    · rw [heq, List.append_assoc]
      exact ih d hns (q ++ [name])
    · rw [heq, List.append_assoc]
      exact (Within.set d place hnext _).trans (ih _ hns (q ++ [name]))

/-! ## What is kept -/

theorem Keeps.refl (d : Disk) : Keeps d d := ⟨fun _ h => h, fun _ h => h, rfl, rfl⟩

theorem Keeps.trans (h : Keeps d d') (h' : Keeps d' d'') : Keeps d d'' where
  folders q hq := h'.folders q (h.folders q hq)
  entries q hq := h'.entries q (h.entries q hq)
  here := h'.here.trans h.here
  limits := h'.limits.trans h.limits

/-- What is put where there is no folder leaves all folders. -/
theorem Keeps.set (h : d.entry? q ≠ some .folder) (e : Entry) : Keeps d (d.set q e) where
  folders r hr := by
    by_cases hne : r = []
    · rw [hne]
      rfl
    · rw [entry?_set hne, if_neg]
      · exact hr
      · intro heq
        by_cases hq : q = []
        · rw [hq] at h
          exact h rfl
        · rw [entry?_of_ne_nil hne, heq, ← entry?_of_ne_nil hq] at hr
          exact h hr
  entries r hr := by
    by_cases hne : r = []
    · rw [hne]
      rfl
    · rw [entry?_set hne]
      split
      · rfl
      · exact hr
  here := rfl
  limits := rfl

theorem Keeps.makeAlong (d : Disk) (place : Place) (ns : List String) :
    Keeps d (d.makeAlong place ns).2 := by
  induction ns generalizing d place with
  | nil => exact .refl d
  | cons name ns ih =>
    rcases makeAlong_cases d place name ns with ⟨-, heq⟩ | ⟨-, heq⟩ | ⟨fault, heq⟩ |
      ⟨-, -, -, heq⟩ | ⟨-, -, hnone, heq⟩
    · exact heq ▸ ih d _
    · exact heq ▸ ih d _
    · exact heq ▸ .refl d
    · exact heq ▸ ih d _
    · have hfree : d.entry? (place ++ [name]) ≠ some .folder := by
        rw [hnone]
        exact nofun
      exact heq ▸ (Keeps.set hfree _).trans (ih _ _)

/-- A path still leads where it has led. -/
theorem Leads.keep (h : d.Leads base place) (hkeeps : Keeps d d') : d'.Leads base place where
  located := by
    obtain ⟨hcheck, hwalk⟩ := locate_eq_ok_iff.1 h.located
    refine locate_eq_ok_iff.2 ⟨?_, ?_⟩
    · rw [checkPath, hkeeps.limits]
      exact hcheck
    · rw [origin, hkeeps.here]
      exact walk_mono hkeeps.folders hkeeps.entries hkeeps.limits hwalk
  folder := hkeeps.folders place h.folder

/-! ## Paths beneath a folder -/

theorem Alike.walk_settle (h : Alike place d d') (hup : ".." ∉ ns) (ms : List String) :
    (d'.walk place ns >>= d'.settle ms) = (d.walk place ns >>= d.settle ms) := by
  have hwalk := h.walk hup []
  rw [List.append_nil] at hwalk
  rw [hwalk]
  cases hway : d.walk place ns with
  | error fault => rfl
  | ok q =>
    rw [eq_append_of_walk hup hway]
    exact h.settle ms _

theorem exists_of_walk_settle (hup : ".." ∉ ns) {ms : List String}
    (h : (d.walk place ns >>= d.settle ms) = .ok q) : q = place ++ ns.filter Path.isStep := by
  cases hway : d.walk place ns with
  | error fault =>
    rw [hway] at h
    cases h
  | ok r =>
    rw [hway] at h
    have hsettle : d.settle ms r = .ok q := h
    rw [Disk.settle] at hsettle
    split at hsettle
    · cases hsettle
    · rw [← Except.ok.inj hsettle, eq_append_of_walk hup hway]

/-- A path that does not go up leads to the same on alike disks. -/
theorem Alike.locate_join (h : Alike place d d') (hl : d.Leads base place)
    (hl' : d'.Leads base place) (hup : ".." ∉ Path.steps path) :
    d'.locate (Path.join base path) = d.locate (Path.join base path) := by
  rw [hl.locate_join, hl'.locate_join, h.checkPath, h.walk_settle hup]

theorem Leads.of_locate_join (h : d.Leads base place) (hup : ".." ∉ Path.steps path)
    (hlocate : d.locate (Path.join base path) = .ok q) : q = place ++ Path.steps path := by
  rw [h.locate_join] at hlocate
  cases hcheck : d.checkPath (Path.join base path) with
  | error fault =>
    rw [hcheck] at hlocate
    cases hlocate
  | ok u =>
    rw [hcheck] at hlocate
    rw [exists_of_walk_settle hup hlocate, Path.filter_steps]

/-- A file that it leads to has the same text there. -/
theorem Alike.readFile_join (h : Alike place d d') (hl : d.Leads base place)
    (hl' : d'.Leads base place) (hup : ".." ∉ Path.steps path) :
    d'.readFile (Path.join base path) = d.readFile (Path.join base path) := by
  rw [readFile, readFile, h.locate_join hl hl' hup]
  cases hlocate : d.locate (Path.join base path) with
  | error fault => rfl
  | ok q =>
    obtain rfl := hl.of_locate_join hup hlocate
    have hentry := h.entries (Path.steps path)
    simp only [bind, Except.bind, hentry]

/-! ## Files that are written -/

theorem of_fileAt {b : Bool} (h : d.fileAt q name b = .ok place) :
    place = q ++ [name] ∧ name ≠ "." ∧ name ≠ ".." ∧ d.entry? place ≠ some .folder := by
  rw [fileAt] at h
  split_ifs at h with hfolder hname hlong hthere
  simp only [Bool.or_eq_true, decide_eq_true_eq, not_or] at hname
  obtain rfl := Except.ok.inj h
  exact ⟨rfl, hname.1.1, hname.1.2, hthere⟩

/-- What writing the file of a path does on alike disks: both refuse it, or the same is put at the same
place beneath, where there is no folder. -/
theorem Alike.rewrite_join (h : Alike place d d') (hl : d.Leads base place)
    (hl' : d'.Leads base place) (hup : ".." ∉ Path.names path)
    (hne : ∃ name ∈ Path.names path, name ≠ "") (f : String → String) :
    (∃ fault, d.rewrite f (Path.join base path) = .error fault ∧
        d'.rewrite f (Path.join base path) = .error fault) ∨
      ∃ q e, q ≠ [] ∧ (∀ name ∈ q, IsName name) ∧ d.entry? (place ++ q) ≠ some .folder ∧
        d.rewrite f (Path.join base path) = .ok (d.set (place ++ q) e) ∧
        d'.rewrite f (Path.join base path) = .ok (d'.set (place ++ q) e) := by
  obtain ⟨name, rest, hlast, hsubset, hmem, hnonempty⟩ := Path.exists_dropWhile_isEmpty hne
  have hrest : ".." ∉ rest.reverse.filter Path.isStep := fun hmem =>
    hup (hsubset (List.mem_reverse.1 (List.mem_of_mem_filter hmem)))
  have habove : ∀ name ∈ rest.reverse.filter Path.isStep, IsName name := by
    intro n hn
    refine ⟨List.of_mem_filter hn, fun heq => hrest (heq ▸ hn), ?_⟩
    exact Path.slash_notMem_of_mem_names
      (hsubset (List.mem_reverse.1 (List.mem_of_mem_filter hn)))
  rw [rewrite, rewrite, hl.target_join hlast, hl'.target_join hlast, h.checkPath]
  cases d.checkPath (Path.join base path) with
  | error fault => exact .inl ⟨fault, rfl, rfl⟩
  | ok u =>
    have hwalk := h.walk hrest []
    rw [List.append_nil] at hwalk
    rw [hwalk]
    cases hway : d.walk place (rest.reverse.filter Path.isStep) with
    | error fault => exact .inl ⟨fault, rfl, rfl⟩
    | ok r =>
      obtain ⟨q, rfl, hq⟩ : ∃ q, r = place ++ q ∧ ∀ name ∈ q, IsName name :=
        ⟨_, eq_append_of_walk hrest hway, fun n hn => habove n (List.mem_of_mem_filter hn)⟩
      let b := (Path.names path).reverse.head? == some ""
      have hfile : d'.fileAt (place ++ q) name b = d.fileAt (place ++ q) name b := h.fileAt q name b
      cases hat : d.fileAt (place ++ q) name b with
      | error fault =>
        rw [hat] at hfile
        refine .inl ⟨fault, ?_, ?_⟩
        · exact congrArg (· >>= _) hat
        · exact congrArg (· >>= _) hfile
      | ok p =>
        rw [hat] at hfile
        obtain ⟨rfl, hpoint, hpoints, hfree⟩ := of_fileAt hat
        have hname : IsName name := by
          refine ⟨?_, hpoints, Path.slash_notMem_of_mem_names hmem⟩
          simp [Path.isStep, Path.isVoid, hnonempty, hpoint]
        rw [List.append_assoc] at hat hfile hfree
        have hcontent : d'.contentAt (place ++ (q ++ [name])) = d.contentAt (place ++ (q ++ [name])) := by
          rw [contentAt, contentAt, h.entries]
        refine .inr ⟨q ++ [name], .file (f (d.contentAt (place ++ (q ++ [name])))), ?_,
          List.forall_mem_append.2 ⟨hq, List.forall_mem_singleton.2 hname⟩, hfree, ?_, ?_⟩
        · exact List.append_ne_nil_of_right_ne_nil _ (List.cons_ne_nil _ _)
        · exact congrArg (· >>= _) hat
        · exact (congrArg (· >>= _) hfile).trans (by rw [← hcontent]; rfl)

/-! ## Files beneath a place -/

/-- The file that an entry is, by its path from a place above it. -/
def fileBeneath? (place : Place) : String × Entry → Option (String × String)
  | (k, .file content) => (beneath? place k).map (·, content)
  | (_, .folder) => none

theorem filesBeneath_eq (d : Disk) (place : Place) :
    d.filesBeneath place = d.entries.filterMap (fileBeneath? place) := by
  refine List.filterMap_congr fun ⟨k, e⟩ _ => ?_
  cases e with
  | folder => rfl
  | file content =>
    rw [fileBeneath?]
    cases hpath : beneath? place k with
    | none => simp [hpath]
    | some p => simp [hpath]

theorem fileBeneath?_eq_some {entry : String × Entry}
    (h : fileBeneath? place entry = some (p, content)) :
    entry = (keyOf (place ++ [p]), .file content) := by
  obtain ⟨k, e⟩ := entry
  cases e with
  | folder => cases h
  | file text =>
    obtain ⟨_, hpath, heq⟩ := Option.map_eq_some_iff.1 h
    rw [Prod.mk.injEq] at heq
    obtain ⟨rfl, rfl⟩ := heq
    rw [eq_keyOf_of_beneath? hpath]

/-- The files beneath a place are what is found there. -/
theorem mem_filesBeneath (h : Dict.Ascending d.entries) :
    (p, content) ∈ d.filesBeneath place ↔ d.entry? (place ++ [p]) = some (.file content) := by
  have hne : place ++ [p] ≠ [] := List.append_ne_nil_of_right_ne_nil _ (List.cons_ne_nil _ _)
  rw [entry?_of_ne_nil hne, Dict.find?_eq_some_iff h.nodup, filesBeneath_eq, List.mem_filterMap]
  constructor
  · rintro ⟨entry, hmem, hfile⟩
    exact fileBeneath?_eq_some hfile ▸ hmem
  · intro hmem
    refine ⟨_, hmem, ?_⟩
    rw [fileBeneath?, beneath?_keyOf_append place (List.cons_ne_nil p []), keyOf_singleton]
    rfl

/-- They are in the order of their paths. -/
theorem ascending_filesBeneath (h : Dict.Ascending d.entries) (place : Place) :
    Dict.Ascending (d.filesBeneath place) := by
  rw [Dict.Ascending, Dict.keys, List.pairwise_map, filesBeneath_eq]
  have hentries : d.entries.Pairwise fun a b => a.1 < b.1 := List.pairwise_map.1 h
  refine hentries.filterMap _ ?_
  intro entry entry' hlt file hfile file' hfile'
  rw [fileBeneath?_eq_some hfile, fileBeneath?_eq_some hfile'] at hlt
  by_cases hplace : place = []
  · rwa [hplace] at hlt
  · simp only [keyOf_append hplace (List.cons_ne_nil _ _), keyOf_singleton] at hlt
    rcases lt_trichotomy file.1 file'.1 with hless | heq | hgreater
    · exact hless
    · rw [heq] at hlt
      exact absurd hlt (lt_irrefl _)
    · refine absurd hlt (lt_asymm ?_)
      rw [String.lt_iff_toList_lt, String.toList_append, String.toList_append (t := file.1)]
      exact append_lt_append_left _ (String.lt_iff_toList_lt.1 hgreater)

/-- Alike disks have the same files. -/
theorem Alike.filesBeneath (h : Alike place d d') (hd : Dict.Ascending d.entries)
    (hd' : Dict.Ascending d'.entries) (q : Place) :
    d'.filesBeneath (place ++ q) = d.filesBeneath (place ++ q) := by
  refine (ascending_filesBeneath hd' _).ext (ascending_filesBeneath hd _) ?_
  rintro ⟨p, content⟩
  rw [mem_filesBeneath hd', mem_filesBeneath hd, List.append_assoc, h.entries]

/-! ## Files in a folder -/

/-- The names of the files in a folder. -/
def namesIn (d : Disk) (place : Place) : List String :=
  ((d.filesBeneath place).map (·.1)).filter fun p => !p.toList.contains '/'

theorem mem_namesIn (h : Dict.Ascending d.entries) : name ∈ d.namesIn place ↔
    '/' ∉ name.toList ∧ ∃ content, d.entry? (place ++ [name]) = some (.file content) := by
  rw [namesIn, List.mem_filter, List.mem_map]
  simp only [← mem_filesBeneath h, Bool.not_eq_true', List.contains_eq_mem, decide_eq_false_iff_not]
  constructor
  · rintro ⟨⟨⟨p, content⟩, hmem, rfl⟩, hslash⟩
    exact ⟨hslash, content, hmem⟩
  · rintro ⟨hslash, content, hmem⟩
    exact ⟨⟨_, hmem, rfl⟩, hslash⟩

/-- Each of them stands once. -/
theorem nodup_namesIn (h : Dict.Ascending d.entries) (place : Place) : (d.namesIn place).Nodup :=
  (ascending_filesBeneath h place).nodup.filter _

/-- What is listed of a path are the names in the folder to which it leads. -/
theorem filesIn_eq (d : Disk) (path : String) : d.filesIn path = d.locate path >>= fun q =>
    if d.entry? q = some .folder then .ok (d.namesIn q) else .error .notADirectory := by
  rw [filesIn]
  cases d.locate path with
  | error fault => rfl
  | ok q =>
    by_cases hq : d.entry? q = some .folder
    · exact (if_neg (not_not.2 hq)).trans (if_pos hq).symm
    · exact (if_pos hq).trans (if_neg hq).symm

/-- The folder of a path beneath another one, where it has been found. -/
theorem Leads.of_locate_parent_join (h : d.Leads base place) (hup : ".." ∉ Path.steps path)
    (hsteps : Path.steps path ≠ [])
    (hlocate : d.locate (Path.parent (Path.join base path)) = .ok q) :
    q = place ++ (Path.steps path).dropLast := by
  rw [h.locate_parent_join hsteps] at hlocate
  cases hcheck : d.checkPath (Path.parent (Path.join base path)) with
  | error fault =>
    rw [hcheck] at hlocate
    cases hlocate
  | ok u =>
    rw [hcheck] at hlocate
    have hall : (Path.steps path).dropLast.filter Path.isStep = (Path.steps path).dropLast :=
      List.filter_eq_self.2 fun name hname =>
        List.of_mem_filter (List.dropLast_subset _ hname)
    rw [exists_of_walk_settle (fun hmem => hup (List.dropLast_subset _ hmem)) hlocate, hall]

/-- It is listed alike on alike disks. -/
theorem Alike.filesIn_parent_join (h : Alike place d d') (hl : d.Leads base place)
    (hl' : d'.Leads base place) (hd : Dict.Ascending d.entries) (hd' : Dict.Ascending d'.entries)
    (hup : ".." ∉ Path.steps path) (hsteps : Path.steps path ≠ []) :
    d'.filesIn (Path.parent (Path.join base path)) =
      d.filesIn (Path.parent (Path.join base path)) := by
  have hlocate : d'.locate (Path.parent (Path.join base path)) =
      d.locate (Path.parent (Path.join base path)) := by
    rw [hl.locate_parent_join hsteps, hl'.locate_parent_join hsteps, h.checkPath,
      h.walk_settle fun hmem => hup (List.dropLast_subset _ hmem)]
  rw [filesIn_eq, filesIn_eq, hlocate]
  cases hway : d.locate (Path.parent (Path.join base path)) with
  | error fault => rfl
  | ok q =>
    obtain rfl := hl.of_locate_parent_join hup hsteps hway
    let q := place ++ (Path.steps path).dropLast
    have hnames : d'.namesIn q = d.namesIn q := by
      rw [namesIn, namesIn, h.filesBeneath hd hd']
    have hfolder : d'.entry? q = d.entry? q := h.entries _
    change (if d'.entry? q = some .folder then Except.ok (d'.namesIn q)
      else Except.error OsFault.notADirectory) = _
    rw [hfolder, hnames]
    rfl

/-! ## Well-formed disks -/

theorem names_keyOf (h : place ≠ []) (hplace : ∀ name ∈ place, IsName name) :
    Path.names (keyOf place) = place :=
  Path.names_intercalate h fun name hname => (hplace name hname).2.2

theorem wellFormed_empty : empty.WellFormed := ⟨List.Pairwise.nil, nofun, nofun⟩

theorem WellFormed.set (h : d.WellFormed) (hne : place ≠ []) (hplace : ∀ name ∈ place, IsName name)
    (e : Entry) : (d.set place e).WellFormed where
  ascending := h.ascending.insert _ _
  names k hk := by
    rcases Dict.mem_keys_insert hk with rfl | hk
    · rw [names_keyOf hne hplace]
      exact hplace
    · exact h.names k hk
  here := h.here

/-- Making folders on the way along names keeps a disk well-formed. -/
theorem WellFormed.makeAlong (h : d.WellFormed) (hplace : ∀ name ∈ place, IsName name)
    (hns : ∀ name ∈ ns, '/' ∉ name.toList) : (d.makeAlong place ns).2.WellFormed := by
  induction ns generalizing d place with
  | nil => exact h
  | cons name ns ih =>
    obtain ⟨hname, hns⟩ := List.forall_mem_cons.1 hns
    have hnext (hvoid : Path.isVoid name = false) (hup : name ≠ "..") :
        ∀ n ∈ place ++ [name], IsName n :=
      List.forall_mem_append.2 ⟨hplace,
        List.forall_mem_singleton.2 ⟨by simp [Path.isStep, hvoid], hup, hname⟩⟩
    rcases makeAlong_cases d place name ns with ⟨-, heq⟩ | ⟨-, heq⟩ | ⟨fault, heq⟩ |
      ⟨hvoid, hup, -, heq⟩ | ⟨hvoid, hup, -, heq⟩
    · exact heq ▸ ih h hplace hns
    · exact heq ▸ ih h (fun n hn => hplace n (List.dropLast_subset _ hn)) hns
    · exact heq ▸ h
    · exact heq ▸ ih h (hnext hvoid hup) hns
    · have hne : place ++ [name] ≠ [] := List.append_ne_nil_of_right_ne_nil _ (List.cons_ne_nil _ _)
      exact heq ▸ ih (h.set hne (hnext hvoid hup) _) (hnext hvoid hup) hns

/-- What there is under a name without slashes has a name that leads down. -/
theorem WellFormed.isName (h : d.WellFormed) (hentry : d.entry? (place ++ [name]) = some e)
    (hslash : '/' ∉ name.toList) : IsName name := by
  have hne : place ++ [name] ≠ [] := List.append_ne_nil_of_right_ne_nil _ (List.cons_ne_nil _ _)
  rw [entry?_of_ne_nil hne] at hentry
  have hkey : keyOf (place ++ [name]) ∈ Dict.keys d.entries :=
    Dict.find?_isSome_iff.1 (Option.isSome_of_eq_some hentry)
  refine h.names _ hkey name ?_
  by_cases hplace : place = []
  · rw [hplace, List.nil_append, keyOf_singleton, Path.names_of_notMem hslash]
    exact List.mem_singleton_self _
  · rw [keyOf_append hplace (List.cons_ne_nil _ _), keyOf_singleton, Path.names_append_slash,
      Path.names_of_notMem hslash]
    exact List.mem_append_right _ (List.mem_singleton_self _)

theorem isName_foldl_follow (hplace : ∀ name ∈ place, IsName name)
    (hns : ∀ name ∈ ns, Path.isStep name = true ∧ '/' ∉ name.toList) :
    ∀ name ∈ ns.foldl Path.follow place, IsName name := by
  induction ns generalizing place with
  | nil => exact hplace
  | cons name ns ih =>
    obtain ⟨⟨hstep, hslash⟩, hns⟩ := List.forall_mem_cons.1 hns
    refine ih ?_ hns
    rw [Path.follow]
    split
    · exact fun n hn => hplace n (List.dropLast_subset _ hn)
    · next hup =>
      exact List.forall_mem_append.2 ⟨hplace, List.forall_mem_singleton.2 ⟨hstep, hup, hslash⟩⟩

/-- All names of the place to which a path leads lead down. -/
theorem Leads.isName (h : d.Leads base place) (hd : d.WellFormed) : ∀ name ∈ place, IsName name := by
  rw [eq_of_walk h.walk_steps, Path.filter_steps]
  refine isName_foldl_follow ?_ fun name hname =>
    ⟨List.of_mem_filter hname, Path.slash_notMem_of_mem_steps hname⟩
  rw [origin]
  split
  · exact List.forall_mem_nil _
  · exact hd.here

end

end Disk

end Taskweave
