import Taskweave.Proofs.Disk.Beneath
import Taskweave.Store.Local

/-!
# What a store on a disk can reach

A store refuses a key that is not allowed before it touches the disk. What it does for an allowed key
that has a step is confined to what is beneath its root: nothing else changes, nothing else has any
influence (`LocalStore.Confined`), and all its paths lead there (`LocalStore.accesses_confined`).

A key without steps, such as a single point, is not kept within the root: its folder is the one above
the root. And where the last name of a key is void, the keys that are listed beside it are none of the
store: they start with the text before the last slash, but the names behind it are those in the folder
one further up.
-/

namespace Taskweave.LocalStore

/-- All that can be done with a key is refused, and nothing changes. -/
structure Refuses (s : LocalStore) (key : String) : Prop where
  write : ∀ content, Store.write key content s = (.error (.config (.invalidPath key)), s)
  append : ∀ content, Store.append key content s = (.error (.config (.invalidPath key)), s)
  read : Store.read key s = .error (.config (.invalidPath key))
  has : Store.has key s = false
  siblings : Store.siblings key s = .error (.config (.invalidPath key))

/-- An operation of a store is confined to what is beneath a place: it changes nothing else, and it does
the same, with the same result, on every disk that is alike there. -/
structure Confined {α : Type} (place : Disk.Place) (op : LocalStore → α × LocalStore)
    (s : LocalStore) : Prop where
  root : (op s).2.root = s.root
  within : Disk.Within place s.disk (op s).2.disk
  keeps : Disk.Keeps s.disk (op s).2.disk
  wellFormed : (op s).2.disk.WellFormed
  alone : ∀ d : Disk, d.Leads s.root place → d.WellFormed → Disk.Alike place s.disk d →
    (op { s with disk := d }).1 = (op s).1 ∧
      Disk.Alike place (op s).2.disk (op { s with disk := d }).2.disk

/-- All that can be done with a key is confined to what is beneath a place. -/
structure KeepsWithin (s : LocalStore) (place : Disk.Place) (key : String) : Prop where
  write : ∀ content, s.Confined place (Store.write key content)
  append : ∀ content, s.Confined place (Store.append key content)
  read : s.Confined place fun s => (Store.read key s, s)
  has : s.Confined place fun s => (Store.has key s, s)
  siblings : s.Confined place fun s => (Store.siblings key s, s)

section
variable {s : LocalStore} {place : Disk.Place} {d d' : Disk} {root key : String}

/-! ## Keys that are not allowed -/

theorem refuses_of_not_isAllowed (h : Key.isAllowed key = false) : s.Refuses key := by
  have hcheck : Key.check key = .error (.config (.invalidPath key)) := by
    rw [Key.check, h]
    rfl
  have hchange (doing : String × String) (f : Disk → String → Except OsFault Disk) :
      s.change key doing f = (.error (.config (.invalidPath key)), s) := by
    rw [change, hcheck]
  refine ⟨fun _ => hchange _ _, fun _ => hchange _ _, ?_, ?_, ?_⟩
  · change s.readKey key = _
    rw [readKey, hcheck]
    rfl
  · change (Key.isAllowed key && s.disk.has (s.fileOf key)) = false
    rw [h, Bool.false_and]
  · change s.beside key = _
    rw [beside, hcheck]
    rfl

/-! ## Keys that are allowed -/

theorem check_of_isAllowed (h : Key.isAllowed key = true) : Key.check key = .ok () := by
  rw [Key.check, if_pos h]

/-- What is listed beside an allowed key. -/
theorem beside_of_isAllowed (h : Key.isAllowed key = true) (s : LocalStore) :
    s.beside key = match s.disk.filesIn (Path.parent (s.fileOf key)) with
      | .ok names => .ok (names.map (Key.lead key ++ ·))
      | .error .noSuchFile => .ok []
      | .error fault => .error (.io fault) := by
  rw [beside, check_of_isAllowed h]
  generalize s.disk.filesIn (Path.parent (s.fileOf key)) = files
  cases files with
  | ok names => rfl
  | error fault => cases fault <;> rfl

/-! ## Changes -/

/-- What changing the file of a key does on two disks that are alike beneath the root. -/
theorem exists_change (hl : d.Leads root place) (hl' : d'.Leads root place) (hd : d.WellFormed)
    (h : Disk.Alike place d d') (hallowed : Key.isAllowed key = true)
    (hsteps : Path.steps key ≠ []) (doing : String × String) (f : String → String) :
    ∃ r d₁ d₁', change ⟨root, d⟩ key doing (Disk.rewrite f) = (r, ⟨root, d₁⟩) ∧
      change ⟨root, d'⟩ key doing (Disk.rewrite f) = (r, ⟨root, d₁'⟩) ∧
      Disk.Alike place d₁ d₁' ∧ Disk.Within place d d₁ ∧ Disk.Keeps d d₁ ∧ d₁.WellFormed := by
  have hup : ".." ∉ (Path.steps key).dropLast :=
    fun hmem => Key.up_notMem_steps hallowed (List.dropLast_subset _ hmem)
  rw [change, change, check_of_isAllowed hallowed]
  simp only [fileOf, hl.makeFolders_parent_join hsteps, hl'.makeFolders_parent_join hsteps, h.checkPath]
  cases hcheck : d.checkPath (Path.parent (Path.join root key)) with
  | error fault => exact ⟨_, d, d', rfl, rfl, h, .refl place d, .refl d, hd⟩
  | ok u =>
    -- First the folders are made, and then the file is written on what has become of the disks.
    obtain ⟨hresult, hmade⟩ := h.makeAlong hup []
    have hwithin := Disk.Within.makeAlong d hup place []
    have hkeeps := Disk.Keeps.makeAlong d place (Path.steps key).dropLast
    have hkeeps' := Disk.Keeps.makeAlong d' place (Path.steps key).dropLast
    have hnames : ∀ name ∈ (Path.steps key).dropLast, '/' ∉ name.toList := fun name hname =>
      Path.slash_notMem_of_mem_steps (List.dropLast_subset _ hname)
    have hwell := hd.makeAlong (hl.isName hd) hnames
    rw [List.append_nil] at hresult hmade hwithin
    generalize d.makeAlong place (Path.steps key).dropLast = made at *
    generalize d'.makeAlong place (Path.steps key).dropLast = made' at *
    obtain ⟨r, d₂⟩ := made
    obtain ⟨r', d₂'⟩ := made'
    obtain rfl : r' = r := hresult
    cases r' with
    | error fault => exact ⟨_, d₂, d₂', rfl, rfl, hmade, hwithin, hkeeps, hwell⟩
    | ok u =>
      obtain ⟨name, ns, hkey, hname⟩ := Key.exists_names hallowed
      have hfirst : ∃ name ∈ Path.names key, name ≠ "" := ⟨name, hkey ▸ List.mem_cons_self, hname⟩
      have hl₂ := hl.keep hkeeps
      rcases hmade.rewrite_join hl₂ (hl'.keep hkeeps') (Key.up_notMem_names hallowed) hfirst f with
        ⟨fault, heq, heq'⟩ | ⟨q, e, hq, hqnames, hfree, heq, heq'⟩
      · simp only [heq, heq']
        exact ⟨_, d₂, d₂', rfl, rfl, hmade, hwithin, hkeeps, hwell⟩
      · simp only [heq, heq']
        refine ⟨_, _, _, rfl, rfl, hmade.set q e, hwithin.trans (.set d₂ place hq e),
          hkeeps.trans (.set hfree e), hwell.set ?_ ?_ e⟩
        · exact List.append_ne_nil_of_right_ne_nil _ hq
        · exact List.forall_mem_append.2 ⟨hl₂.isName hwell, hqnames⟩

/-- So changing it is confined. -/
theorem confined_change (hl : s.disk.Leads s.root place) (hd : s.disk.WellFormed)
    (hallowed : Key.isAllowed key = true) (hsteps : Path.steps key ≠ []) (doing : String × String)
    (f : String → String) :
    s.Confined place fun s => s.change key doing (Disk.rewrite f) := by
  obtain ⟨r, d₁, d₁', heq, -, -, hwithin, hkeeps, hwell⟩ :=
    exists_change hl hl hd (.refl place _) hallowed hsteps doing f
  refine ⟨?_, ?_, ?_, ?_, fun d hl' _ halike => ?_⟩
  · exact congrArg (fun r => r.2.root) heq
  · exact (congrArg (fun r => r.2.disk) heq).symm ▸ hwithin
  · exact (congrArg (fun r => r.2.disk) heq).symm ▸ hkeeps
  · exact (congrArg (fun r => r.2.disk) heq).symm ▸ hwell
  · obtain ⟨r, d₁, d₁', heq, heq', halike, -⟩ :=
      exists_change hl hl' hd halike hallowed hsteps doing f
    change (change ⟨s.root, d⟩ key doing (Disk.rewrite f)).1 = (change ⟨s.root, s.disk⟩ key doing _).1 ∧
      Disk.Alike place (change ⟨s.root, s.disk⟩ key doing (Disk.rewrite f)).2.disk
        (change ⟨s.root, d⟩ key doing (Disk.rewrite f)).2.disk
    rw [heq, heq']
    exact ⟨rfl, halike⟩

/-! ## Looking -/

/-- Looking something up is confined if it is the same on every disk that is alike beneath the root. -/
theorem confined_look {α : Type} (hd : s.disk.WellFormed) (look : LocalStore → α)
    (h : ∀ d : Disk, d.Leads s.root place → d.WellFormed → Disk.Alike place s.disk d →
      look { s with disk := d } = look s) :
    s.Confined place fun s => (look s, s) where
  root := rfl
  within := .refl place s.disk
  keeps := .refl s.disk
  wellFormed := hd
  alone d hl' hd' halike := ⟨h d hl' hd' halike, halike⟩

/-- All that is done with an allowed key that has a step is confined to what is beneath the root. -/
theorem keepsWithin (hl : s.disk.Leads s.root place) (hd : s.disk.WellFormed)
    (hallowed : Key.isAllowed key = true) (hsteps : Path.steps key ≠ []) :
    s.KeepsWithin place key where
  write content := confined_change hl hd hallowed hsteps _ fun _ => content
  append content := confined_change hl hd hallowed hsteps _ (· ++ content)
  read := by
    refine confined_look hd _ fun d hl' _ halike => ?_
    have hfile := halike.readFile_join hl hl' (Key.up_notMem_steps hallowed)
    change readKey { s with disk := d } key = s.readKey key
    simp only [readKey, fileOf, hfile]
  has := by
    refine confined_look hd _ fun d hl' _ halike => ?_
    have hlocate := halike.locate_join hl hl' (Key.up_notMem_steps hallowed)
    change (Key.isAllowed key && d.has (Path.join s.root key)) =
      (Key.isAllowed key && s.disk.has (Path.join s.root key))
    rw [Disk.has, Disk.has, hlocate]
  siblings := by
    refine confined_look hd _ fun d hl' hd' halike => ?_
    have hfiles := halike.filesIn_parent_join hl hl' hd.ascending hd'.ascending
      (Key.up_notMem_steps hallowed) hsteps
    change beside { s with disk := d } key = s.beside key
    simp only [beside, fileOf, hfiles]

/-! ## Listings -/

/-- Beside a key whose last name is a step files beneath the root are listed, under their keys. -/
theorem exists_file_of_mem_siblings (hl : s.disk.Leads s.root place) (hd : s.disk.WellFormed)
    (hallowed : Key.isAllowed key = true)
    (hlast : (Path.names key).getLast?.all Path.isStep = true) {ks : List String}
    (hks : Store.siblings key s = .ok ks) {k : String} (hk : k ∈ ks) :
    ∃ content, s.disk.entry? (place ++ Path.steps k) = some (.file content) := by
  obtain ⟨front, last, hnames⟩ :=
    (List.eq_nil_or_concat' (Path.names key)).resolve_left (Path.names_ne_nil key)
  have hsteps : Path.steps key ≠ [] := by
    have hstep := hlast
    rw [hnames, List.getLast?_concat, Option.all_some] at hstep
    refine List.ne_nil_of_mem (List.mem_filter.2 ⟨?_, hstep⟩)
    rw [hnames]
    exact List.mem_append_right _ (List.mem_singleton_self _)
  have hbeside : s.beside key = .ok ks := hks
  rw [beside_of_isAllowed hallowed, Disk.filesIn_eq] at hbeside
  cases hlocate : s.disk.locate (Path.parent (s.fileOf key)) with
  | error fault =>
    -- Of a folder that is not there nothing is listed.
    rw [hlocate] at hbeside
    cases fault
    all_goals cases hbeside
    exact absurd hk List.not_mem_nil
  | ok q =>
    obtain rfl := hl.of_locate_parent_join (Key.up_notMem_steps hallowed) hsteps hlocate
    rw [hlocate] at hbeside
    by_cases hq : s.disk.entry? (place ++ (Path.steps key).dropLast) = some .folder
    · simp only [bind, Except.bind, if_pos hq, Except.ok.injEq] at hbeside
      subst hbeside
      obtain ⟨name, hname, rfl⟩ := List.mem_map.1 hk
      obtain ⟨hslash, content, hfile⟩ := (Disk.mem_namesIn hd.ascending).1 hname
      have hstep := (hd.isName hfile hslash).1
      refine ⟨content, ?_⟩
      rwa [Key.steps_lead_append hslash hstep hlast, ← List.append_assoc]
    · simp only [bind, Except.bind, if_neg hq, reduceCtorEq] at hbeside

/-! ## All keys -/

/-- What is done with a key is refused before the disk is touched, if the key is not allowed. For an
allowed key with a step it is confined to what is beneath the root of the store, where all its paths
lead; and if the last name of the key is a step, all that is listed beside it are files there. A key
without steps has a folder that is not beneath the root, unless that goes up or is the top. -/
theorem accesses_confined (s : LocalStore) (place : Disk.Place) (key : String)
    (hl : s.disk.Leads s.root place) (hd : s.disk.WellFormed) :
    (Key.isAllowed key = false → s.Refuses key) ∧
    (Key.isAllowed key = true → Path.steps key ≠ [] →
      s.KeepsWithin place key ∧
      Path.lexical s.root <+: Path.lexical (s.fileOf key) ∧
      Path.lexical s.root <+: Path.lexical (Path.parent (s.fileOf key))) ∧
    (Key.isAllowed key = true → (Path.names key).getLast?.all Path.isStep = true →
      ∀ ks, Store.siblings key s = .ok ks → ∀ k ∈ ks,
        ∃ content, s.disk.entry? (place ++ Path.steps k) = some (.file content)) ∧
    (Path.steps key = [] → ".." ∉ Path.steps s.root → Path.steps s.root ≠ [] →
      ¬Path.lexical s.root <+: Path.lexical (Path.parent (s.fileOf key))) := by
  refine ⟨refuses_of_not_isAllowed, fun hallowed hsteps => ?_, fun hallowed hlast ks hks k hk => ?_,
    fun hsteps hup hroot => ?_⟩
  · have hup := Key.up_notMem_steps hallowed
    refine ⟨keepsWithin hl hd hallowed hsteps, ?_, ?_⟩
    · rw [fileOf, Path.lexical_join hup]
      exact List.prefix_append _ _
    · rw [fileOf, Path.lexical_parent_join hup hsteps]
      exact List.prefix_append _ _
  · exact exists_file_of_mem_siblings hl hd hallowed hlast hks hk
  · exact Path.lexical_parent_join_of_nil hsteps hup hroot

end

/-! ## A store with a neighbour -/

/-- A disk with a store that has one file. -/
def lonely : Disk :=
  ((Disk.empty.set ["srv"] .folder).set ["srv", "store"] .folder).set ["srv", "store", "x"] (.file "t")

/-- The same disk with a file beside the root of the store. -/
def neighboured : Disk := lonely.set ["srv", "notes"] (.file "n")

theorem wellFormed_lonely : lonely.WellFormed :=
  ((Disk.wellFormed_empty.set (by decide) (by decide +kernel) _).set (by decide)
    (by decide +kernel) _).set (by decide) (by decide +kernel) _

theorem wellFormed_neighboured : neighboured.WellFormed :=
  wellFormed_lonely.set (by decide) (by decide +kernel) _

theorem leads_lonely : lonely.Leads "/srv/store" ["srv", "store"] :=
  ⟨by rfl, by rfl⟩

theorem leads_neighboured : neighboured.Leads "/srv/store" ["srv", "store"] :=
  ⟨by rfl, by rfl⟩

/-- In the store both disks are alike. -/
theorem alike_neighboured : Disk.Alike ["srv", "store"] neighboured lonely where
  entries q := by
    rw [neighboured, Disk.entry?_set (by simp), if_neg]
    intro heq
    by_cases hq : q = []
    · rw [hq] at heq
      exact absurd heq (by decide)
    · have hnone : Disk.beneath? ["srv", "store"] (Disk.keyOf ["srv", "notes"]) = none := by
        decide +kernel
      rw [← heq, Disk.beneath?_keyOf_append ["srv", "store"] hq] at hnone
      cases hnone
  limits := rfl

/-- Beside a key with a step the file of the store is listed, whatever there is beside the root. -/
theorem accesses_confined_neighboured :
    neighboured.Leads "/srv/store" ["srv", "store"] ∧ neighboured.WellFormed ∧
      KeepsWithin ⟨"/srv/store", neighboured⟩ ["srv", "store"] "y" ∧
      Store.siblings "y" (⟨"/srv/store", neighboured⟩ : LocalStore) = .ok ["x"] ∧
      ∃ content, neighboured.entry? ["srv", "store", "x"] = some (.file content) := by
  obtain ⟨-, hconfined, hlisted, -⟩ := accesses_confined ⟨"/srv/store", neighboured⟩ ["srv", "store"]
    "y" leads_neighboured wellFormed_neighboured
  have hsiblings : Store.siblings "y" (⟨"/srv/store", neighboured⟩ : LocalStore) = .ok ["x"] := by rfl
  refine ⟨leads_neighboured, wellFormed_neighboured, (hconfined (by decide) (by decide)).1,
    hsiblings, ?_⟩
  exact hlisted (by decide) (by decide) _ hsiblings "x" (List.mem_singleton_self _)

/-- Beside a single point the file beside the root is listed, of which the store has none under that
name, and beside a key that ends in a slash a key is listed that has no file. -/
theorem siblings_astray :
    neighboured.Leads "/srv/store" ["srv", "store"] ∧ neighboured.WellFormed ∧
      Key.isAllowed "." = true ∧
      Store.siblings "." (⟨"/srv/store", neighboured⟩ : LocalStore) = .ok ["notes"] ∧
      neighboured.entry? (["srv", "store"] ++ Path.steps "notes") = none ∧
      ¬Confined ["srv", "store"] (fun s : LocalStore => (Store.siblings "." s, s))
        ⟨"/srv/store", neighboured⟩ ∧
      Key.isAllowed "x/" = true ∧
      Store.siblings "x/" (⟨"/srv/store", neighboured⟩ : LocalStore) = .ok ["x/x"] ∧
      neighboured.entry? (["srv", "store"] ++ Path.steps "x/x") = none := by
  have hsiblings : Store.siblings "." (⟨"/srv/store", neighboured⟩ : LocalStore) = .ok ["notes"] := by
    rfl
  refine ⟨leads_neighboured, wellFormed_neighboured, by decide, hsiblings, by decide +kernel, ?_,
    by decide, by rfl, by decide +kernel⟩
  intro hconfined
  have halone := (hconfined.alone lonely leads_lonely wellFormed_lonely alike_neighboured).1
  have hlonely : Store.siblings "." (⟨"/srv/store", lonely⟩ : LocalStore) = .ok [] := by rfl
  rw [hsiblings] at halone
  exact absurd (hlonely.symm.trans halone) nofun

end Taskweave.LocalStore
