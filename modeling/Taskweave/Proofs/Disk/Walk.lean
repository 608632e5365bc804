import Taskweave.Disk.Basic
import Taskweave.Proofs.Dict
import Taskweave.Proofs.Disk.Path

/-!
# Ways through a disk

Names that are void do not lead anywhere, so that a way through a disk is that of its steps, but for
one thing: where it ends in a void name there must be a folder (`Disk.walk_filter`). What is beneath a
path that leads to a folder is found from there on (`Disk.locate_join`, `Disk.target_join`), and the
folders on the way to it are made from there on (`Disk.makeFolders_parent_join`).
-/

namespace Taskweave

namespace Disk

/-- Names that end in a void one lead to folders only. -/
def settle (d : Disk) (ns : List String) (place : Place) : Except OsFault Place :=
  if ns.getLast?.any Path.isVoid ∧ d.entry? place ≠ some .folder then .error .notADirectory
  else .ok place

/-- A path leads to a folder. -/
structure Leads (d : Disk) (path : String) (place : Place) : Prop where
  located : d.locate path = .ok place
  folder : d.entry? place = some .folder

section
variable {d d' d'' : Disk} {place q r : Place} {ns ms : List String}
  {name k p base path : String}
  {e : Entry}

/-! ## Places -/

theorem keyOf_append (hplace : place ≠ []) (hq : q ≠ []) :
    keyOf (place ++ q) = keyOf place ++ "/" ++ keyOf q :=
  String.intercalate_append_of_ne_nil hplace hq

theorem keyOf_singleton (p : String) : keyOf [p] = p := rfl

@[simp] theorem entry?_nil (d : Disk) : d.entry? [] = some .folder := rfl

theorem entry?_of_ne_nil (h : place ≠ []) : d.entry? place = Dict.find? d.entries (keyOf place) := by
  unfold entry?
  rw [if_neg (by simpa using h)]

theorem entry?_set (h : q ≠ []) (d : Disk) (place : Place) (e : Entry) :
    entry? (d.set place e) q = if keyOf q = keyOf place then some e else d.entry? q := by
  rw [entry?_of_ne_nil h, entry?_of_ne_nil h, set, Dict.find?_insert]

/-- What is beneath a place has a path from there. -/
theorem beneath?_keyOf_append (place : Place) (hq : q ≠ []) :
    beneath? place (keyOf (place ++ q)) = some (keyOf q) := by
  rw [beneath?]
  by_cases hplace : place = []
  · rw [hplace]
    rfl
  · have hkey : (keyOf (place ++ q)).toList = (keyOf place ++ "/").toList ++ (keyOf q).toList := by
      rw [keyOf_append hplace hq, String.toList_append]
    rw [if_neg (by simpa using hplace), hkey]
    simp only
    rw [if_pos (List.isPrefixOf_iff_prefix.2 (List.prefix_append _ _)), List.drop_left,
      String.ofList_toList]

/-- And with its path from there it is found. -/
theorem eq_keyOf_of_beneath? (h : beneath? place k = some p) : k = keyOf (place ++ [p]) := by
  rw [beneath?] at h
  split at h
  · next hplace =>
    rw [List.isEmpty_iff.1 hplace]
    exact Option.some.inj h
  · next hplace =>
    rw [List.isEmpty_iff] at hplace
    simp only at h
    split at h
    · next hprefix =>
      obtain ⟨more, hmore⟩ := List.isPrefixOf_iff_prefix.1 hprefix
      rw [Option.some.injEq, ← hmore, List.drop_left] at h
      rw [keyOf_append hplace (List.cons_ne_nil _ _), keyOf_singleton, ← String.toList_inj, ← hmore, ← h]
      simp
    · cases h

/-! ## Ways -/

theorem walk_append (d : Disk) (place : Place) (ns ms : List String) :
    d.walk place (ns ++ ms) = d.walk place ns >>= fun q => d.walk q ms := by
  induction ns generalizing place with
  | nil => rfl
  | cons name ns ih =>
    rw [List.cons_append, walk, walk]
    split_ifs
    · rfl
    · exact ih _
    · exact ih _
    · rfl
    · rfl
    · exact ih _

theorem settle_cons_of_isStep (d : Disk) (h : Path.isStep name = true) (ns : List String) (q : Place) :
    d.settle (name :: ns) q = d.settle ns q := by
  rw [settle, settle]
  cases ns with
  | nil => simp_all
  | cons => rfl

theorem settle_of_folder (ns : List String) (h : d.entry? q = some .folder) : d.settle ns q = .ok q :=
  if_neg fun hsettle => hsettle.2 h

/-- A way is that of its steps. -/
theorem walk_filter (d : Disk) (place : Place) (ns : List String) :
    d.walk place ns = d.walk place (ns.filter Path.isStep) >>= d.settle ns := by
  induction ns generalizing place with
  | nil => rfl
  | cons name ns ih =>
    by_cases hfolder : d.entry? place = some .folder
    · cases hvoid : Path.isVoid name with
      | true =>
        rw [List.filter_cons_of_neg (by simpa using hvoid), walk, if_neg (not_not.2 hfolder), hvoid,
          if_pos rfl, ih]
        cases ns with
        | nil => exact (settle_of_folder _ hfolder).symm
        | cons => rfl
      | false =>
        have hstep : Path.isStep name = true := by simpa using hvoid
        have hsettle : d.settle (name :: ns) = d.settle ns :=
          funext (settle_cons_of_isStep d hstep ns)
        rw [List.filter_cons_of_pos hstep, walk, walk, hsettle, if_neg (not_not.2 hfolder),
          if_neg (not_not.2 hfolder), if_neg (Bool.eq_false_iff.1 hvoid),
          if_neg (Bool.eq_false_iff.1 hvoid)]
        split_ifs
        · exact ih _
        · rfl
        · rfl
        · exact ih _
    · -- Nothing is found behind what is no folder, and names that are all void end in a void one.
      rw [walk, if_pos hfolder]
      cases hsteps : (name :: ns).filter Path.isStep with
      | nil =>
        have hlast : ((name :: ns).getLast?.any Path.isVoid) = true := by
          rw [List.getLast?_eq_some_getLast (List.cons_ne_nil _ _), Option.any_some]
          have hall := List.filter_eq_nil_iff.1 hsteps _ (List.getLast_mem (List.cons_ne_nil name ns))
          simpa using hall
        exact (if_pos ⟨hlast, hfolder⟩).symm
      | cons step steps =>
        rw [walk, if_pos hfolder]
        rfl

/-- Steps lead to where they would if nothing were in the way. -/
theorem eq_of_walk (h : d.walk place ns = .ok q) :
    q = (ns.filter Path.isStep).foldl Path.follow place := by
  induction ns generalizing place with
  | nil => exact (Except.ok.inj h).symm
  | cons name ns ih =>
    rw [walk] at h
    split_ifs at h with hfolder hvoid hup hlong hnone
    · rw [List.filter_cons_of_neg (by simpa using hvoid)]
      exact ih h
    · rw [List.filter_cons_of_pos (by simpa using hvoid), List.foldl_cons, Path.follow, if_pos hup]
      exact ih h
    · rw [List.filter_cons_of_pos (by simpa using hvoid), List.foldl_cons, Path.follow, if_neg hup]
      exact ih h

/-- Without going up they lead beneath the place where they start. -/
theorem eq_append_of_walk (hup : ".." ∉ ns) (h : d.walk place ns = .ok q) :
    q = place ++ ns.filter Path.isStep := by
  rw [eq_of_walk h, Path.foldl_follow fun hmem => hup (List.mem_of_mem_filter hmem)]

/-- A way that leads to a folder does so without the void names. -/
theorem walk_filter_of_folder (h : d.walk place ns = .ok q) :
    d.walk place (ns.filter Path.isStep) = .ok q := by
  rw [walk_filter] at h
  cases hwalk : d.walk place (ns.filter Path.isStep) with
  | error fault =>
    rw [hwalk] at h
    cases h
  | ok r =>
    rw [hwalk] at h
    have hsettle : d.settle ns r = .ok q := h
    rw [settle] at hsettle
    split at hsettle
    · cases hsettle
    · exact hsettle

/-- A way is still there on a disk that has all folders, and something at all places. -/
theorem walk_mono (hfolder : ∀ q, d.entry? q = some .folder → d'.entry? q = some .folder)
    (hsome : ∀ q, (d.entry? q).isSome → (d'.entry? q).isSome) (hlimits : d'.limits = d.limits)
    (h : d.walk place ns = .ok q) : d'.walk place ns = .ok q := by
  induction ns generalizing place with
  | nil => exact h
  | cons name ns ih =>
    rw [walk] at h
    rw [walk, hlimits]
    split_ifs at h with hplace hvoid hup hlong hnone
    · rw [if_neg (not_not.2 (hfolder _ (not_not.1 hplace))), if_pos hvoid]
      exact ih h
    · rw [if_neg (not_not.2 (hfolder _ (not_not.1 hplace))), if_neg hvoid, if_pos hup]
      exact ih h
    · have hnext : (d'.entry? (place ++ [name])).isNone = false := by
        have hthere := hsome (place ++ [name])
        cases hentry : d.entry? (place ++ [name]) with
        | none => simp [hentry] at hnone
        | some e => simpa [hentry] using hthere
      rw [if_neg (not_not.2 (hfolder _ (not_not.1 hplace))), if_neg hvoid, if_neg hup, if_neg hlong,
        if_neg (by simp [hnext])]
      exact ih h

/-! ## Making folders -/

/-- What one name does on the way along which folders are made. -/
theorem makeAlong_cases (d : Disk) (place : Place) (name : String) (ns : List String) :
    (Path.isVoid name = true ∧ d.makeAlong place (name :: ns) = d.makeAlong place ns) ∨
    (name = ".." ∧ d.makeAlong place (name :: ns) = d.makeAlong place.dropLast ns) ∨
    (∃ fault, d.makeAlong place (name :: ns) = (.error fault, d)) ∨
    (Path.isVoid name = false ∧ name ≠ ".." ∧ d.entry? (place ++ [name]) = some .folder ∧
      d.makeAlong place (name :: ns) = d.makeAlong (place ++ [name]) ns) ∨
    (Path.isVoid name = false ∧ name ≠ ".." ∧ d.entry? (place ++ [name]) = none ∧
      d.makeAlong place (name :: ns) =
        (d.set (place ++ [name]) .folder).makeAlong (place ++ [name]) ns) := by
  rw [makeAlong]
  by_cases hvoid : Path.isVoid name = true
  · exact .inl ⟨hvoid, if_pos hvoid⟩
  rw [if_neg hvoid]
  by_cases hup : name = ".."
  · exact .inr (.inl ⟨hup, if_pos hup⟩)
  rw [if_neg hup]
  by_cases hlong : exceeds name d.limits.name = true
  · exact .inr (.inr (.inl ⟨_, if_pos hlong⟩))
  rw [if_neg hlong]
  cases hentry : d.entry? (place ++ [name]) with
  | some e =>
    cases e with
    | folder => exact .inr (.inr (.inr (.inl ⟨Bool.eq_false_iff.2 hvoid, hup, rfl, by simp [hentry]⟩)))
    | file => exact .inr (.inr (.inl ⟨_, by simp only [hentry]; rfl⟩))
  | none =>
    by_cases hlast : (ns.all Path.isVoid && ns.contains ".") = true
    · exact .inr (.inr (.inl ⟨.noSuchFile, by simp only [hentry, if_pos hlast]⟩))
    · exact .inr (.inr (.inr (.inr ⟨Bool.eq_false_iff.2 hvoid, hup, rfl,
        by simp only [hentry, if_neg hlast]⟩)))

theorem makeAlong_of_forall_isVoid (d : Disk) (place : Place)
    (h : ∀ name ∈ ns, Path.isVoid name = true) : d.makeAlong place ns = (.ok (), d) := by
  induction ns with
  | nil => rfl
  | cons name ns ih =>
    obtain ⟨hname, hns⟩ := List.forall_mem_cons.1 h
    rw [makeAlong, if_pos hname, ih hns]

/-- The folders that are made along a way are those along its steps, unless void names stand at the
end. -/
theorem makeAlong_filter (d : Disk) (place : Place)
    (h : ns.getLast?.all Path.isStep = true ∨ ns.filter Path.isStep = []) :
    d.makeAlong place ns = d.makeAlong place (ns.filter Path.isStep) := by
  rcases h with h | h
  · induction ns generalizing d place with
    | nil => rfl
    | cons name ns ih =>
      have hns : ns.getLast?.all Path.isStep = true := by
        cases ns with
        | nil => rfl
        | cons => exact h
      cases hvoid : Path.isVoid name with
      | true =>
        rw [List.filter_cons_of_neg (by simpa using hvoid), makeAlong, if_pos hvoid]
        exact ih d place hns
      | false =>
        -- The rest is empty, or has a step at its end, as its steps are.
        have hrest : ns.all String.isEmpty = (ns.filter Path.isStep).all String.isEmpty ∧
            (ns.all Path.isVoid && ns.contains ".") = ((ns.filter Path.isStep).all Path.isVoid &&
              (ns.filter Path.isStep).contains ".") := by
          cases hlast : ns.getLast? with
          | none =>
            rw [List.getLast?_eq_none_iff.1 hlast]
            exact ⟨rfl, rfl⟩
          | some last =>
            rw [hlast, Option.all_some] at hns
            have hmem := List.mem_of_getLast? hlast
            have hstep := List.mem_filter.2 ⟨hmem, hns⟩
            have hvoid : Path.isVoid last = false := by simpa using hns
            have hnonempty : last.isEmpty = false := (Bool.or_eq_false_iff.1 hvoid).1
            rw [List.all_eq_false.2 ⟨last, hmem, by simp [hnonempty]⟩,
              List.all_eq_false.2 ⟨last, hstep, by simp [hnonempty]⟩,
              List.all_eq_false.2 ⟨last, hmem, by simp [hvoid]⟩,
              List.all_eq_false.2 ⟨last, hstep, by simp [hvoid]⟩]
            exact ⟨rfl, rfl⟩
        rw [List.filter_cons_of_pos (by simpa using hvoid), makeAlong, makeAlong, hrest.1, hrest.2]
        simp only [ih _ _ hns]
  · have hvoid : ∀ name ∈ ns, Path.isVoid name = true := by
      simpa [List.filter_eq_nil_iff] using h
    rw [makeAlong_of_forall_isVoid d place hvoid, h]
    rfl

/-- Where the way goes through folders, they are made from its end on. -/
theorem makeAlong_append (hwalk : d.walk place ns = .ok q) (hq : d.entry? q = some .folder)
    (ms : List String) : d.makeAlong place (ns ++ ms) = d.makeAlong q ms := by
  induction ns generalizing place with
  | nil =>
    obtain rfl := Except.ok.inj hwalk
    rfl
  | cons name ns ih =>
    rw [walk] at hwalk
    rw [List.cons_append, makeAlong]
    split_ifs at hwalk with hplace hvoid hup hlong hnone
    · rw [if_pos hvoid]
      exact ih hwalk
    · rw [if_neg hvoid, if_pos hup]
      exact ih hwalk
    · rw [if_neg hvoid, if_neg hup, if_neg hlong]
      have hnext : d.entry? (place ++ [name]) = some .folder := by
        cases ns with
        | nil =>
          obtain rfl := Except.ok.inj hwalk
          exact hq
        | cons name' ns =>
          by_contra hne
          rw [walk, if_pos hne] at hwalk
          cases hwalk
      simp only [hnext]
      exact ih hwalk

/-! ## Paths beneath a folder -/

/-- A path that leads somewhere has been checked, and its names lead there. -/
theorem locate_eq_ok_iff : d.locate path = .ok place ↔
    d.checkPath path = .ok () ∧ d.walk (d.origin path) (Path.names path) = .ok place := by
  rw [locate]
  cases d.checkPath path with
  | error fault => exact ⟨nofun, nofun⟩
  | ok u => exact (and_iff_right rfl).symm

theorem Leads.ne_empty (h : d.Leads base place) : base ≠ "" := by
  rintro rfl
  have hlocated := h.located
  rw [locate_eq_ok_iff] at hlocated
  exact absurd hlocated.1 nofun

/-- The steps of the path lead to the folder. -/
theorem Leads.walk_steps (h : d.Leads base place) :
    d.walk (d.origin base) (Path.steps base) = .ok place :=
  walk_filter_of_folder (locate_eq_ok_iff.1 h.located).2

theorem Leads.origin_join (h : d.Leads base place) (path : String) :
    d.origin (Path.join base path) = d.origin base := by
  rw [origin, origin, Path.isAbsolute_join h.ne_empty]

theorem Leads.origin_parent_join (h : d.Leads base place) (path : String) :
    d.origin (Path.parent (Path.join base path)) = d.origin base := by
  rw [← h.origin_join path, origin, origin, Path.isAbsolute_parent]

/-- A path beneath the folder leads where its steps lead from there. -/
theorem Leads.locate_join (h : d.Leads base place) (path : String) :
    d.locate (Path.join base path) = d.checkPath (Path.join base path) >>= fun _ =>
      d.walk place (Path.steps path) >>= d.settle (Path.names path) := by
  obtain ⟨ns, hns, hjoin⟩ := Path.exists_names_join base
  have hsettle : d.settle (ns ++ Path.names path) = d.settle (Path.names path) := by
    funext q
    rw [settle, settle, List.getLast?_append_of_ne_nil _ (Path.names_ne_nil path)]
  rw [locate, h.origin_join, walk_filter, hjoin, List.filter_append, hns, walk_append, h.walk_steps,
    hsettle]
  rfl

/-- Its parent leads where all steps but the last lead. -/
theorem Leads.locate_parent_join (h : d.Leads base place) (hsteps : Path.steps path ≠ []) :
    d.locate (Path.parent (Path.join base path)) =
      d.checkPath (Path.parent (Path.join base path)) >>= fun _ =>
        d.walk place (Path.steps path).dropLast >>=
          d.settle (Path.names (Path.parent (Path.join base path))) := by
  have hparent := Path.steps_parent_join hsteps base
  rw [Path.steps] at hparent
  rw [locate, h.origin_parent_join, walk_filter, hparent, walk_append, h.walk_steps]
  rfl

/-- The folders above are made from the folder on. -/
theorem Leads.makeFolders_parent_join (h : d.Leads base place) (hsteps : Path.steps path ≠ []) :
    d.makeFolders (Path.parent (Path.join base path)) =
      match d.checkPath (Path.parent (Path.join base path)) with
      | .error fault => (.error fault, d)
      | .ok () => d.makeAlong place (Path.steps path).dropLast := by
  have hparent := Path.steps_parent_join hsteps base
  rw [Path.steps] at hparent
  have hmade : d.makeAlong (d.origin base) (Path.names (Path.parent (Path.join base path))) =
      d.makeAlong place (Path.steps path).dropLast := by
    have hlast := Path.names_parent_last (Path.join base path)
    rw [Path.steps] at hlast
    rw [makeAlong_filter d _ hlast, hparent, makeAlong_append h.walk_steps h.folder]
  cases hcheck : d.checkPath (Path.parent (Path.join base path)) with
  | error fault => simp only [makeFolders, hcheck]
  | ok u => simp only [makeFolders, hcheck, h.origin_parent_join, hmade]

/-- The file of a path is in the folder to which the names before its last one lead. -/
theorem Leads.target_join (h : d.Leads base place) {rest : List String}
    (hlast : (Path.names path).reverse.dropWhile String.isEmpty = name :: rest) :
    d.target (Path.join base path) = d.checkPath (Path.join base path) >>= fun _ =>
      d.walk place (rest.reverse.filter Path.isStep) >>= fun q =>
        d.fileAt q name ((Path.names path).reverse.head? == some "") := by
  obtain ⟨ns, hns, hjoin⟩ := Path.exists_names_join base
  have hrev : (Path.names (Path.join base path)).reverse.dropWhile String.isEmpty =
      name :: (rest ++ ns.reverse) := by
    rw [hjoin, List.reverse_append, List.dropWhile_append, hlast]
    rfl
  have hhead : (Path.names (Path.join base path)).reverse.head? = (Path.names path).reverse.head? := by
    rw [hjoin, List.reverse_append, List.head?_append_of_ne_nil]
    simpa using Path.names_ne_nil path
  have hwalk : d.walk (d.origin base) (rest ++ ns.reverse).reverse =
      d.walk place (rest.reverse.filter Path.isStep) >>= d.settle (rest ++ ns.reverse).reverse := by
    rw [walk_filter, List.reverse_append, List.reverse_reverse, List.filter_append, hns, walk_append,
      h.walk_steps]
    rfl
  -- What settling refuses is refused for the file as well.
  have hsettle (q : Place) (b : Bool) : (d.settle (rest ++ ns.reverse).reverse q >>= fun q =>
      d.fileAt q name b) = d.fileAt q name b := by
    rw [settle]
    split
    · next hnot => exact (if_pos hnot.2).symm
    · rfl
  simp only [target, hrev, hhead, h.origin_join, hwalk, bind_assoc, hsettle]

end

end Disk

end Taskweave
