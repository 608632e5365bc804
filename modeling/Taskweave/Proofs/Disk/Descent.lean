import Taskweave.Proofs.Disk.Beneath

/-!
# Ways down on a disk without limits

Where no name is too long, names that lead down lead to what there is under them if there are folders on
the way (`Disk.walk_down`), and to nothing if one of them is missing (`Disk.walk_missing`). Folders are
made on such a way as long as no file is in it, and nothing else changes (`Disk.exists_makeAlong`).

A path of such names beneath a path that leads to a folder leads where they lead from the folder on
(`Disk.Leads.locate_down`), and its file is written there (`Disk.Leads.target_down`).
-/

namespace Taskweave

namespace Disk

/-- Names and paths are as long as one likes. -/
def Unlimited (d : Disk) : Prop := d.limits = ⟨none, none⟩

section
variable {d d' : Disk} {place q r : Place} {ns : List String} {e : Entry} {base path : String}

theorem Unlimited.exceeds_name (h : d.Unlimited) (name : String) :
    exceeds name d.limits.name = false := by
  rw [h]
  rfl

theorem entry?_congr (hq : q ≠ []) (hr : r ≠ []) (h : keyOf q = keyOf r) : d.entry? q = d.entry? r := by
  rw [entry?_of_ne_nil hq, entry?_of_ne_nil hr, h]

/-- Different paths are those of different places. -/
theorem keyOf_append_inj {p : String} (hq : q ≠ []) :
    keyOf (place ++ [p]) = keyOf (place ++ q) ↔ p = keyOf q := by
  constructor
  · intro heq
    have hpath := beneath?_keyOf_append place (List.cons_ne_nil p [])
    rw [heq, beneath?_keyOf_append place hq, keyOf_singleton, Option.some_inj] at hpath
    exact hpath.symm
  · rintro rfl
    by_cases hplace : place = []
    · rw [hplace]
      rfl
    · rw [keyOf_append hplace hq, keyOf_append hplace (List.cons_ne_nil _ _), keyOf_singleton]

/-- What is at the end of a way down is under its names as a path. -/
theorem entry?_append (d : Disk) (place : Place) (hq : q ≠ []) :
    d.entry? (place ++ q) = d.entry? (place ++ [keyOf q]) := by
  exact entry?_congr (List.append_ne_nil_of_right_ne_nil _ hq)
    (List.append_ne_nil_of_right_ne_nil _ (List.cons_ne_nil _ _)) ((keyOf_append_inj hq).2 rfl).symm

theorem entry?_names (d : Disk) (place : Place) (path : String) :
    d.entry? (place ++ Path.names path) = d.entry? (place ++ [path]) := by
  rw [entry?_append _ _ (Path.names_ne_nil path), keyOf, Path.intercalate_names]

/-- What is put where a path leads is found under that path alone. -/
theorem entry?_set_names (d : Disk) (place : Place) (path p : String) (e : Entry) :
    entry? (d.set (place ++ Path.names path) e) (place ++ [p]) =
      if p = path then some e else d.entry? (place ++ [p]) := by
  have hkey : keyOf (place ++ [p]) = keyOf (place ++ Path.names path) ↔ p = path := by
    rw [keyOf_append_inj (Path.names_ne_nil path), keyOf, Path.intercalate_names]
  rw [entry?_set (List.append_ne_nil_of_right_ne_nil _ (List.cons_ne_nil _ _))]
  simp only [hkey]

/-- Names that lead down through folders to something lead there. -/
theorem walk_down (hd : d.Unlimited) (hns : ∀ name ∈ ns, IsName name)
    (hfolders : ∀ q, q <+: ns → q ≠ ns → d.entry? (place ++ q) = some .folder)
    (hlast : (d.entry? (place ++ ns)).isSome) : d.walk place ns = .ok (place ++ ns) := by
  induction ns generalizing place with
  | nil => rw [walk, List.append_nil]
  | cons name ns ih =>
    obtain ⟨⟨hstep, hup, -⟩, hns⟩ := List.forall_mem_cons.1 hns
    have hassoc (q : Place) : place ++ [name] ++ q = place ++ name :: q := by simp
    have hplace : d.entry? place = some .folder := by
      have hnil := hfolders [] (List.nil_prefix) (List.cons_ne_nil _ _).symm
      rwa [List.append_nil] at hnil
    have hnext : (d.entry? (place ++ [name])).isNone = false := by
      cases ns with
      | nil => simpa using hlast
      | cons name' ns =>
        rw [hfolders [name] (List.cons_prefix_cons.2 ⟨rfl, List.nil_prefix⟩) (by simp)]
        rfl
    rw [walk, if_neg (not_not.2 hplace), if_neg (by simpa using hstep), if_neg hup,
      if_neg (by simp [hd.exceeds_name]), if_neg (by simp [hnext]), ← hassoc ns]
    refine ih hns (fun q hq hne => ?_) ?_
    · rw [hassoc]
      exact hfolders (name :: q) (List.cons_prefix_cons.2 ⟨rfl, hq⟩) fun h => hne (List.cons.inj h).2
    · rw [hassoc]
      exact hlast

/-- Names that lead to nothing, with no file on the way, are missing. -/
theorem walk_missing (hd : d.Unlimited) (hns : ∀ name ∈ ns, IsName name)
    (hplace : d.entry? place = some .folder)
    (hfiles : ∀ q, q <+: ns → q ≠ ns → ∀ content, d.entry? (place ++ q) ≠ some (.file content))
    (hlast : d.entry? (place ++ ns) = none) : d.walk place ns = .error .noSuchFile := by
  induction ns generalizing place with
  | nil =>
    rw [List.append_nil, hplace] at hlast
    cases hlast
  | cons name ns ih =>
    obtain ⟨⟨hstep, hup, -⟩, hns⟩ := List.forall_mem_cons.1 hns
    have hassoc (q : Place) : place ++ [name] ++ q = place ++ name :: q := by simp
    rw [walk, if_neg (not_not.2 hplace), if_neg (by simpa using hstep), if_neg hup,
      if_neg (by simp [hd.exceeds_name])]
    cases hnext : d.entry? (place ++ [name]) with
    | none => rfl
    | some e =>
      rw [if_neg (by simp)]
      have hne : [name] ≠ name :: ns := by
        rintro heq
        rw [← heq, hnext] at hlast
        cases hlast
      cases e with
      | file content =>
        exact absurd hnext (hfiles [name] (List.cons_prefix_cons.2 ⟨rfl, List.nil_prefix⟩) hne content)
      | folder =>
        refine ih hns hnext (fun q hq hqne => ?_) ?_
        · rw [hassoc]
          exact hfiles (name :: q) (List.cons_prefix_cons.2 ⟨rfl, hq⟩)
            fun h => hqne (List.cons.inj h).2
        · rw [hassoc]
          exact hlast

/-- What is put where there was nothing leaves what there is. -/
theorem entry?_set_of_some (hfree : d.entry? q = none) (e' : Entry) (h : d.entry? r = some e) :
    entry? (d.set q e') r = some e := by
  by_cases hr : r = []
  · rw [hr] at h ⊢
    exact h
  · rw [entry?_set hr, if_neg, h]
    intro heq
    have hq : q ≠ [] := by
      rintro rfl
      cases hfree
    rw [entry?_congr hr hq heq, hfree] at h
    cases h

/-- On a way down without files all folders are made, and nothing else changes. -/
theorem exists_makeAlong (hd : d.Unlimited) (hns : ∀ name ∈ ns, IsName name)
    (hplace : d.entry? place = some .folder)
    (hfiles : ∀ q, q <+: ns → ∀ content, d.entry? (place ++ q) ≠ some (.file content)) :
    ∃ d', d.makeAlong place ns = (.ok (), d') ∧
      (∀ q, q <+: ns → d'.entry? (place ++ q) = some .folder) ∧
      (∀ r e, d.entry? r = some e → d'.entry? r = some e) ∧
      ∀ r e, d'.entry? r = some e → d.entry? r = some e ∨
        e = .folder ∧ ∃ q, q <+: ns ∧ q ≠ [] ∧ keyOf r = keyOf (place ++ q) := by
  induction ns generalizing d place with
  | nil =>
    refine ⟨d, rfl, fun q hq => ?_, fun _ _ h => h, fun _ _ h => .inl h⟩
    rw [List.prefix_nil.1 hq, List.append_nil]
    exact hplace
  | cons name ns ih =>
    obtain ⟨⟨hstep, hup, -⟩, hnames⟩ := List.forall_mem_cons.1 hns
    let next := place ++ [name]
    have hnil : next ≠ [] := List.append_ne_nil_of_right_ne_nil _ (List.cons_ne_nil _ _)
    have hassoc (q : Place) : next ++ q = place ++ name :: q := by simp [next]
    have hbelow {q : Place} (hq : q <+: ns) : name :: q <+: name :: ns :=
      List.cons_prefix_cons.2 ⟨rfl, hq⟩
    -- The folders on the way are the one at its start and those from the next place on.
    have hway {d' : Disk} (hstart : d'.entry? place = some .folder)
        (hrest : ∀ q, q <+: ns → d'.entry? (next ++ q) = some .folder) (q : Place)
        (hq : q <+: name :: ns) : d'.entry? (place ++ q) = some .folder := by
      cases q with
      | nil => rwa [List.append_nil]
      | cons name' q =>
        obtain ⟨hname, hrestq⟩ := List.cons_prefix_cons.1 hq
        rw [hname, ← hassoc]
        exact hrest q hrestq
    have hpoint : (ns.all Path.isVoid && ns.contains ".") = false := by
      rw [Bool.and_eq_false_iff]
      right
      rw [List.contains_eq_mem, decide_eq_false_iff_not]
      intro hmem
      exact absurd (hnames "." hmem).1 (by decide)
    rw [makeAlong, if_neg (by simpa using hstep), if_neg hup, if_neg (by simp [hd.exceeds_name])]
    cases hnext : d.entry? next with
    | some e =>
      cases e with
      | file content => exact absurd hnext (hfiles [name] (hbelow List.nil_prefix) content)
      | folder =>
        obtain ⟨d', hmade, hfolders, hkept, hnew⟩ := ih hd hnames hnext fun q hq content => by
          rw [hassoc]
          exact hfiles _ (hbelow hq) content
        simp only [next] at hnext hmade
        refine ⟨d', by simp only [hnext, hmade], hway (hkept _ _ hplace) hfolders, hkept,
          fun r e hr => (hnew r e hr).imp_right ?_⟩
        rintro ⟨rfl, q, hq, -, hkey⟩
        exact ⟨rfl, name :: q, hbelow hq, List.cons_ne_nil _ _, by rw [hkey, hassoc]⟩
    | none =>
      have hthere : entry? (d.set next .folder) next = some .folder := by
        rw [entry?_set hnil, if_pos rfl]
      obtain ⟨d', hmade, hfolders, hkept, hnew⟩ :=
        ih (d := d.set next .folder) hd hnames hthere fun q hq content => by
          rw [entry?_set (List.append_ne_nil_of_left_ne_nil hnil _)]
          split
          · intro heq
            cases heq
          · rw [hassoc]
            exact hfiles _ (hbelow hq) content
      have hset (r : Place) (e : Entry) (h : d.entry? r = some e) : d'.entry? r = some e :=
        hkept r e (entry?_set_of_some hnext _ h)
      refine ⟨d', ?_, hway (hset _ _ hplace) hfolders, hset, fun r e hr => ?_⟩
      · simp only [next] at hnext hmade
        simp only [hnext, hpoint, hmade]
        rfl
      · rcases hnew r e hr with hold | ⟨rfl, q, hq, -, hkey⟩
        · by_cases hr : r = []
          · rw [hr] at hold ⊢
            exact .inl hold
          · rw [entry?_set hr] at hold
            split at hold
            · next hkey =>
              exact .inr ⟨(Option.some.inj hold).symm, [name], hbelow List.nil_prefix,
                List.cons_ne_nil _ _, hkey⟩
            · exact .inl hold
        · exact .inr ⟨rfl, name :: q, hbelow hq, List.cons_ne_nil _ _, by rw [hkey, hassoc]⟩

/-! ## Paths of names that lead down -/

theorem steps_eq_names (h : ∀ name ∈ Path.names path, IsName name) : Path.steps path = Path.names path :=
  List.filter_eq_self.2 fun name hname => (h name hname).1

theorem getLast?_names_all (h : ∀ name ∈ Path.names path, IsName name) :
    (Path.names path).getLast?.all Path.isStep = true := by
  rw [List.getLast?_eq_some_getLast (Path.names_ne_nil path), Option.all_some]
  exact (h _ (List.getLast_mem _)).1

/-- Names that end in a step lead to files as well. -/
theorem settle_of_getLast? (h : ns.getLast?.all Path.isStep = true) (q : Place) :
    d.settle ns q = .ok q := by
  rw [settle]
  cases hlast : ns.getLast? with
  | none => rfl
  | some name =>
    rw [hlast, Option.all_some, Bool.not_eq_true'] at h
    rw [Option.any_some, h]
    exact if_neg fun hvoid => Bool.false_ne_true hvoid.1

/-- Without limits a path is refused if it is empty or has a NUL. -/
theorem Unlimited.checkPath_eq_ok_iff (hd : d.Unlimited) :
    d.checkPath path = .ok () ↔ '\x00' ∉ path.toList ∧ path ≠ "" := by
  rw [checkPath, hd]
  by_cases hnul : '\x00' ∈ path.toList
  · simp [hnul]
  · by_cases hempty : path = ""
    · simp [hempty]
    · simp [hnul, hempty, exceeds]

/-- A path without NUL beneath one that leads to a folder is not refused, and neither is its parent. -/
theorem Leads.checkPath_join (h : d.Leads base place) (hd : d.Unlimited)
    (hnul : '\x00' ∉ path.toList) (hlast : (Path.names path).getLast?.all Path.isStep = true) :
    d.checkPath (Path.join base path) = .ok () ∧
      d.checkPath (Path.parent (Path.join base path)) = .ok () := by
  have hbase := (hd.checkPath_eq_ok_iff.1 (locate_eq_ok_iff.1 h.located).1).1
  have hjoin : '\x00' ∉ (Path.join base path).toList := fun hmem =>
    (Path.mem_of_mem_join (by decide) hmem).elim hbase hnul
  rw [hd.checkPath_eq_ok_iff, hd.checkPath_eq_ok_iff]
  refine ⟨⟨hjoin, Path.join_ne_empty h.ne_empty path⟩, ?_, ?_⟩
  · exact fun hmem => hjoin (Path.mem_of_mem_parent (by decide) (by decide) hmem)
  · exact Path.parent_join_ne_empty h.ne_empty hlast

/-- Where a path beneath a folder leads is where its names lead from there. -/
theorem Leads.locate_down (h : d.Leads base place) (hd : d.Unlimited) (hnul : '\x00' ∉ path.toList)
    (hpath : ∀ name ∈ Path.names path, IsName name) :
    d.locate (Path.join base path) = d.walk place (Path.names path) := by
  have hlast := getLast?_names_all hpath
  rw [h.locate_join, (h.checkPath_join hd hnul hlast).1, steps_eq_names hpath]
  cases d.walk place (Path.names path) with
  | error fault => rfl
  | ok q => exact settle_of_getLast? hlast q

/-- Its parent leads where all names but the last lead. -/
theorem Leads.locate_parent_down (h : d.Leads base place) (hd : d.Unlimited)
    (hnul : '\x00' ∉ path.toList) (hpath : ∀ name ∈ Path.names path, IsName name) :
    d.locate (Path.parent (Path.join base path)) = d.walk place (Path.names path).dropLast := by
  have hsteps := steps_eq_names hpath
  have hne : Path.steps path ≠ [] := hsteps ▸ Path.names_ne_nil path
  rw [h.locate_parent_join hne, (h.checkPath_join hd hnul (getLast?_names_all hpath)).2, hsteps]
  cases hway : d.walk place (Path.names path).dropLast with
  | error fault => rfl
  | ok q =>
    simp only [bind, Except.bind]
    rcases Path.names_parent_last (Path.join base path) with hlast | hnil
    · exact settle_of_getLast? hlast q
    · -- The parent has no steps, so it leads to the folder itself.
      rw [Path.steps_parent_join hne, hsteps, List.append_eq_nil_iff] at hnil
      rw [hnil.2] at hway
      obtain rfl := Except.ok.inj hway
      exact settle_of_folder _ h.folder

/-- The file of the path is written where its names lead, if there are folders on the way. -/
theorem Leads.target_down (h : d.Leads base place) (hd : d.Unlimited) (hnul : '\x00' ∉ path.toList)
    (hpath : ∀ name ∈ Path.names path, IsName name)
    (hfolders : ∀ q, q <+: Path.names path → q ≠ Path.names path →
      d.entry? (place ++ q) = some .folder)
    (hfree : d.entry? (place ++ Path.names path) ≠ some .folder) :
    d.target (Path.join base path) = .ok (place ++ Path.names path) := by
  obtain ⟨front, last, hnames⟩ :=
    (List.eq_nil_or_concat' (Path.names path)).resolve_left (Path.names_ne_nil path)
  rw [hnames] at hpath hfolders hfree
  obtain ⟨hfront, hlast⟩ := List.forall_mem_append.1 hpath
  obtain ⟨hstep, hup, -⟩ := List.forall_mem_singleton.1 hlast
  have hvoid : Path.isVoid last = false := by simpa using hstep
  obtain ⟨hempty, hpoint⟩ := Bool.or_eq_false_iff.1 hvoid
  have hbelow (q : Place) (hq : q <+: front) : d.entry? (place ++ q) = some .folder := by
    refine hfolders q (hq.trans (List.prefix_append _ _)) fun heq => ?_
    have hle := hq.length_le
    rw [heq, List.length_append, List.length_singleton] at hle
    omega
  have hrev : (Path.names path).reverse.dropWhile String.isEmpty = last :: front.reverse := by
    rw [hnames, List.reverse_append, List.reverse_singleton, List.singleton_append,
      List.dropWhile_cons_of_neg (by simp [hempty])]
  have hfilter : front.filter Path.isStep = front :=
    List.filter_eq_self.2 fun name hname => (hfront name hname).1
  have hwalk : d.walk place front = .ok (place ++ front) :=
    walk_down hd hfront (fun q hq _ => hbelow q hq) (by rw [hbelow front (List.prefix_refl _)]; rfl)
  have hcheck : d.checkPath (Path.join base path) = .ok () := by
    refine (h.checkPath_join hd hnul ?_).1
    rw [hnames, List.getLast?_concat, Option.all_some]
    exact hstep
  have hhead : ((Path.names path).reverse.head? == some "") = false := by
    rw [hnames, List.reverse_append, List.reverse_singleton, List.singleton_append, List.head?_cons]
    simpa using hempty
  rw [h.target_join hrev, hhead, hcheck, List.reverse_reverse, hfilter, hwalk, hnames,
    ← List.append_assoc]
  change d.fileAt (place ++ front) last false = _
  have hplace := hbelow front (List.prefix_refl _)
  have hname : (last = "." || last = ".." || false) = false := by simp_all
  rw [fileAt, if_neg (not_not.2 hplace), hname, if_neg Bool.false_ne_true,
    if_neg (by simp [hd.exceeds_name]), if_neg (by rwa [List.append_assoc])]

end

end Disk

end Taskweave
