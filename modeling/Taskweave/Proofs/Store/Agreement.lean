import Mathlib.Data.Nat.Find
import Taskweave.Proofs.Store.Confinement
import Taskweave.Proofs.Store.Plain

/-!
# The stores agree

A store on a disk agrees with one in memory (`LocalStore.Agrees`) when there are exactly the files of
the keys beneath its root, and the folders above them. For plain keys every call is then answered alike
and keeps the stores in agreement (`Agrees.perform`), and so does a list of calls (`Agrees.performAll`).
An empty folder agrees with the empty store, so that both give the same answers to all calls from the
start (`LocalStore.answers_eq`).
-/

namespace Taskweave

namespace Store

/-- What is asked of a store. -/
inductive Call where
  | write (path content : String)
  | append (path content : String)
  | read (path : String)
  | has (path : String)
  | saveVersion (path : String) (now : Instant) (metadata : Json)
  | versions (path : String)
  | latestVersion (path : String)

/-- What comes of it. -/
inductive Answer where
  | done (result : Except Error Unit)
  | text (result : Except Error String)
  | found (result : Bool)
  | keys (result : Except Error (List String))
  | key? (result : Except Error (Option String))
deriving DecidableEq

/-- The key that a call names. -/
def Call.path : Call → String
  | .write path _ | .append path _ | .read path | .has path | .saveVersion path _ _ | .versions path
  | .latestVersion path => path

section
variable {σ : Type} [Store σ]

/-- The answer to a call, and what becomes of the store. -/
def Call.perform (digest : String → String) : Call → σ → Answer × σ
  | .write path content, s => (Store.write path content s).map .done id
  | .append path content, s => (Store.append path content s).map .done id
  | .read path, s => (.text (Store.read path s), s)
  | .has path, s => (.found (Store.has path s), s)
  | .saveVersion path now metadata, s =>
    (Store.saveVersion digest now path metadata 0 s).map .text id
  | .versions path, s => (.keys (Store.versions path s), s)
  | .latestVersion path, s => (.key? (Store.latestVersion path s), s)

/-- The answers to one call after the other. -/
def performAll (digest : String → String) : List Call → σ → List Answer × σ
  | [], s => ([], s)
  | c :: cs, s =>
    let (answer, s) := c.perform digest s
    let (answers, s) := performAll digest cs s
    (answer :: answers, s)

/-- The keys in memory stay. -/
theorem keys_subset_perform (digest : String → String) (c : Call) (s : MemoryStore) :
    s.keys ⊆ (c.perform digest s).2.keys := by
  cases c with
  | write path content => exact MemoryStore.keys_subset_put path content s
  | append path content => exact MemoryStore.keys_subset_put path _ s
  | saveVersion path now metadata =>
    intro k hk
    rw [Call.perform]
    rcases MemoryStore.saveVersion_cases digest now path metadata 0 s with
      ⟨e, heq⟩ | ⟨content, -, -, heq⟩
    · rw [heq]
      exact hk
    · rw [heq]
      exact MemoryStore.mem_keys_withVersion.2 (.inr (.inr hk))
  | read | has | versions | latestVersion => exact List.Subset.refl _

theorem keys_subset_performAll (digest : String → String) (cs : List Call) (s : MemoryStore) :
    s.keys ⊆ (performAll digest cs s).2.keys := by
  induction cs generalizing s with
  | nil => exact List.Subset.refl _
  | cons c cs ih => exact List.Subset.trans (keys_subset_perform digest c s) (ih _)

end

/-- The keys that calls name, and those that they make, from an empty store on. -/
def keysOf (digest : String → String) (cs : List Call) : List String :=
  cs.map Call.path ++ (performAll digest cs MemoryStore.empty).2.keys

end Store

namespace LocalStore

/-- On the disk there are the files of a store in memory, and the folders above them. -/
structure Agrees (ks : List String) (place : Disk.Place) (s : MemoryStore) (t : LocalStore) :
    Prop where
  plain : Key.IsPlain ks
  keys : s.keys ⊆ ks
  wellFormed : s.WellFormed
  leads : t.disk.Leads t.root place
  unlimited : t.disk.Unlimited
  tree : t.disk.WellFormed
  files : ∀ p content,
    t.disk.entry? (place ++ [p]) = some (.file content) ↔ s.find? p = some content
  folders : ∀ p, t.disk.entry? (place ++ [p]) = some .folder ↔ ∃ k ∈ s.keys, Key.IsAbove p k

section
variable {ks : List String} {place q : Disk.Place} {s : MemoryStore} {t : LocalStore} {d : Disk}
  {k content : String} {digest : String → String}

/-! ## Finding keys -/

theorem Agrees.mem_keys_of_file (h : Agrees ks place s t)
    (hfile : t.disk.entry? (place ++ [k]) = some (.file content)) : k ∈ s.keys :=
  MemoryStore.mem_keys.2 (Option.isSome_of_eq_some ((h.files k content).1 hfile))

/-- Where a key leads that is not stored there is nothing. -/
theorem Agrees.entry?_eq_none (h : Agrees ks place s t) (hk : k ∈ ks) (hnew : k ∉ s.keys) :
    t.disk.entry? (place ++ Path.names k) = none := by
  rw [Disk.entry?_names]
  cases hentry : t.disk.entry? (place ++ [k]) with
  | none => rfl
  | some e =>
    cases e with
    | file content => exact absurd (h.mem_keys_of_file hentry) hnew
    | folder =>
      obtain ⟨k', hk', habove⟩ := (h.folders k).1 hentry
      exact absurd habove (h.plain.apart k hk k' (h.keys hk'))

/-- There is no folder where a key leads. -/
theorem Agrees.entry?_ne_folder (h : Agrees ks place s t) (hk : k ∈ ks) :
    t.disk.entry? (place ++ [k]) ≠ some .folder := by
  intro hfolder
  obtain ⟨k', hk', habove⟩ := (h.folders k).1 hfolder
  exact h.plain.apart k hk k' (h.keys hk') habove

/-- On the way to a key there is no file. -/
theorem Agrees.entry?_ne_file (h : Agrees ks place s t) (hk : k ∈ ks) (hq : q <+: Path.names k)
    (hne : q ≠ Path.names k) (content : String) :
    t.disk.entry? (place ++ q) ≠ some (.file content) := by
  intro hfile
  by_cases hnil : q = []
  · rw [hnil, List.append_nil, h.leads.folder] at hfile
    cases hfile
  · rw [Disk.entry?_append _ _ hnil] at hfile
    exact h.plain.apart _ (h.keys (h.mem_keys_of_file hfile)) k hk (Key.isAbove_keyOf hnil hq hne)

/-- On the way to a stored key there are folders. -/
theorem Agrees.entry?_eq_folder (h : Agrees ks place s t) (hk : k ∈ s.keys)
    (hq : q <+: Path.names k) (hne : q ≠ Path.names k) :
    t.disk.entry? (place ++ q) = some .folder := by
  by_cases hnil : q = []
  · rw [hnil, List.append_nil]
    exact h.leads.folder
  · rw [Disk.entry?_append _ _ hnil, h.folders]
    exact ⟨k, hk, Key.isAbove_keyOf hnil hq hne⟩

theorem Agrees.entry?_of_find? (h : Agrees ks place s t) (hfind : s.find? k = some content) :
    t.disk.entry? (place ++ Path.names k) = some (.file content) := by
  rw [Disk.entry?_names]
  exact (h.files k content).2 hfind

/-- A key leads to its file if it is stored. -/
theorem Agrees.locate (h : Agrees ks place s t) (hk : k ∈ ks) : t.disk.locate (t.fileOf k) =
    if k ∈ s.keys then .ok (place ++ Path.names k) else .error .noSuchFile := by
  have hnames := h.plain.isName hk
  rw [fileOf, h.leads.locate_down h.unlimited (h.plain.chars k hk).2 hnames]
  split
  · next hmem =>
    refine Disk.walk_down h.unlimited hnames (fun q hq hne => h.entry?_eq_folder hmem hq hne) ?_
    obtain ⟨content, hfind⟩ := Option.isSome_iff_exists.1 (MemoryStore.mem_keys.1 hmem)
    rw [h.entry?_of_find? hfind]
    rfl
  · next hmem =>
    exact Disk.walk_missing h.unlimited hnames h.leads.folder (fun q hq hne => h.entry?_ne_file hk hq hne)
      (h.entry?_eq_none hk hmem)

theorem Agrees.read_eq (h : Agrees ks place s t) (hk : k ∈ ks) : Store.read k t = Store.read k s := by
  change t.readKey k = _
  rw [MemoryStore.read_eq, readKey, check_of_isAllowed (h.plain.isAllowed hk), Disk.readFile,
    h.locate hk]
  cases hfind : s.find? k with
  | none =>
    rw [if_neg (by simp [MemoryStore.mem_keys, hfind])]
    rfl
  | some content =>
    rw [if_pos (MemoryStore.mem_keys.2 (Option.isSome_of_eq_some hfind))]
    simp only [bind, Except.bind, h.entry?_of_find? hfind]
    rfl

theorem Agrees.has_iff (h : Agrees ks place s t) (hk : k ∈ ks) :
    Store.has k t = true ↔ k ∈ s.keys := by
  change (Key.isAllowed k && t.disk.has (t.fileOf k)) = true ↔ _
  rw [h.plain.isAllowed hk, Bool.true_and, Disk.has, h.locate hk]
  by_cases hmem : k ∈ s.keys
  · rw [if_pos hmem]
    exact iff_of_true rfl hmem
  · rw [if_neg hmem]
    exact iff_of_false Bool.false_ne_true hmem

/-! ## Changing keys -/

/-- The disk of a store has become another one that has in addition the folders above a key. -/
structure HasWay (t : LocalStore) (place : Disk.Place) (k : String) (d : Disk) : Prop where
  leads : d.Leads t.root place
  unlimited : d.Unlimited
  tree : d.WellFormed
  kept : ∀ r e, t.disk.entry? r = some e → d.entry? r = some e
  made : ∀ q, q <+: Path.names k → q ≠ Path.names k → d.entry? (place ++ q) = some .folder
  new : ∀ p e, d.entry? (place ++ [p]) = some e →
    t.disk.entry? (place ++ [p]) = some e ∨ e = .folder ∧ Key.IsAbove p k

/-- The folders above a key are made, and nothing else. -/
theorem Agrees.exists_makeFolders (h : Agrees ks place s t) (hk : k ∈ ks) :
    ∃ d, t.disk.makeFolders (Path.parent (t.fileOf k)) = (.ok (), d) ∧ t.HasWay place k d := by
  have hnames := h.plain.isName hk
  have hsteps := Disk.steps_eq_names hnames
  have hne : Path.steps k ≠ [] := hsteps ▸ Path.names_ne_nil k
  have hcheck := (h.leads.checkPath_join h.unlimited (h.plain.chars k hk).2
    (Disk.getLast?_names_all hnames)).2
  have hfolders : t.disk.makeFolders (Path.parent (t.fileOf k)) =
      t.disk.makeAlong place (Path.names k).dropLast := by
    rw [fileOf, h.leads.makeFolders_parent_join hne, hcheck, hsteps]
  have hfront : ∀ name ∈ (Path.names k).dropLast, Disk.IsName name := fun name hname =>
    hnames name (List.dropLast_subset _ hname)
  obtain ⟨d, hmade, hthere, hkept, hnew⟩ := Disk.exists_makeAlong h.unlimited hfront
    h.leads.folder fun q hq content => by
      obtain ⟨honway, hqne⟩ := Path.isPrefix_dropLast_iff.1 hq
      exact h.entry?_ne_file hk honway hqne content
  have hkeeps := Disk.Keeps.makeAlong t.disk place (Path.names k).dropLast
  have hwell := h.tree.makeAlong (h.leads.isName h.tree) fun name hname => (hfront name hname).2.2
  rw [hmade] at hkeeps hwell
  refine ⟨d, by rw [hfolders, hmade],
    { leads := h.leads.keep hkeeps
      unlimited := hkeeps.limits.trans h.unlimited
      tree := hwell
      kept := hkept
      made := fun q hq hqne => hthere q (Path.isPrefix_dropLast_iff.2 ⟨hq, hqne⟩)
      new := fun p e hp => (hnew _ e hp).imp_right ?_ }⟩
  rintro ⟨rfl, q, hq, hnil, hkey⟩
  obtain ⟨honway, hqne⟩ := Path.isPrefix_dropLast_iff.1 hq
  rw [(Disk.keyOf_append_inj hnil).1 hkey]
  exact ⟨rfl, Key.isAbove_keyOf hnil honway hqne⟩

/-- Where the key leads there is still no folder. -/
theorem Agrees.ne_folder_of_hasWay (h : Agrees ks place s t) (hk : k ∈ ks)
    (hway : t.HasWay place k d) : d.entry? (place ++ Path.names k) ≠ some .folder := by
  rw [Disk.entry?_names]
  intro hfolder
  rcases hway.new k _ hfolder with hold | ⟨-, habove⟩
  · exact h.entry?_ne_folder hk hold
  · exact (Key.isAbove_iff_names.1 habove).2 rfl

/-- And the files are those that there have been. -/
theorem Agrees.file_iff_of_hasWay (h : Agrees ks place s t) (hway : t.HasWay place k d)
    (p content : String) :
    d.entry? (place ++ [p]) = some (.file content) ↔ s.find? p = some content := by
  rw [← h.files]
  refine ⟨fun hp => ?_, hway.kept _ _⟩
  exact (hway.new p _ hp).resolve_right fun hfolder => by cases hfolder.1

theorem Agrees.contentAt_of_hasWay (h : Agrees ks place s t) (hway : t.HasWay place k d) :
    d.contentAt (place ++ Path.names k) = (s.find? k).getD "" := by
  have hfile := h.file_iff_of_hasWay hway k
  rw [Disk.contentAt, Disk.entry?_names]
  cases hfind : s.find? k with
  | some content => rw [(hfile content).2 hfind, Option.getD_some]
  | none =>
    cases hentry : d.entry? (place ++ [k]) with
    | none => rfl
    | some e =>
      cases e with
      | folder => rfl
      | file content =>
        rw [(hfile content).1 hentry] at hfind
        cases hfind

/-- When the file of the key has been written there, the stores agree again. -/
theorem Agrees.set_of_hasWay (h : Agrees ks place s t) (hk : k ∈ ks)
    (hway : t.HasWay place k d) (content : String) :
    Agrees ks place (s.set k content) ⟨t.root, d.set (place ++ Path.names k) (.file content)⟩ where
  plain := h.plain
  keys k' hk' := by
    rcases MemoryStore.mem_keys_set.1 hk' with rfl | hk'
    · exact hk
    · exact h.keys hk'
  wellFormed := h.wellFormed.set _ _
  leads := hway.leads.keep (.set (h.ne_folder_of_hasWay hk hway) _)
  unlimited := hway.unlimited
  tree := hway.tree.set (List.append_ne_nil_of_right_ne_nil _ (Path.names_ne_nil k))
    (List.forall_mem_append.2 ⟨hway.leads.isName hway.tree, h.plain.isName hk⟩) _
  files p content := by
    rw [Disk.entry?_set_names, MemoryStore.find?_set]
    split
    · simp
    · exact h.file_iff_of_hasWay hway p content
  folders p := by
    rw [Disk.entry?_set_names]
    split
    · next heq =>
      -- The key itself is above no other.
      refine iff_of_false (fun hfolder => by cases hfolder) ?_
      rintro ⟨k', hk', habove⟩
      rw [heq] at habove
      rcases MemoryStore.mem_keys_set.1 hk' with rfl | hk'
      · exact (Key.isAbove_iff_names.1 habove).2 rfl
      · exact h.plain.apart k hk k' (h.keys hk') habove
    · constructor
      · intro hp
        rcases hway.new p _ hp with hold | ⟨-, habove⟩
        · obtain ⟨k', hk', habove⟩ := (h.folders p).1 hold
          exact ⟨k', MemoryStore.mem_keys_set.2 (.inr hk'), habove⟩
        · exact ⟨k, MemoryStore.mem_keys_set.2 (.inl rfl), habove⟩
      · rintro ⟨k', hk', habove⟩
        rcases MemoryStore.mem_keys_set.1 hk' with rfl | hk'
        · rw [← Disk.entry?_names]
          obtain ⟨honway, hne⟩ := Key.isAbove_iff_names.1 habove
          exact hway.made _ honway hne
        · exact hway.kept _ _ ((h.folders p).2 ⟨k', hk', habove⟩)

/-- Changing the text of a key makes the folders above it, writes its file, and keeps the agreement. -/
theorem Agrees.exists_change (h : Agrees ks place s t) (hk : k ∈ ks) (doing : String × String)
    (f : String → String) :
    ∃ d, t.change k doing (Disk.rewrite f) = (.ok (), ⟨t.root, d⟩) ∧
      Agrees ks place (s.set k (f ((s.find? k).getD ""))) ⟨t.root, d⟩ := by
  obtain ⟨d, hmade, hway⟩ := h.exists_makeFolders hk
  have htarget : d.target (t.fileOf k) = .ok (place ++ Path.names k) :=
    hway.leads.target_down hway.unlimited (h.plain.chars k hk).2 (h.plain.isName hk) hway.made
      (h.ne_folder_of_hasWay hk hway)
  refine ⟨_, ?_, h.set_of_hasWay hk hway (f ((s.find? k).getD ""))⟩
  rw [change, check_of_isAllowed (h.plain.isAllowed hk)]
  simp only [hmade, Disk.rewrite, htarget, bind, Except.bind, pure, Except.pure,
    h.contentAt_of_hasWay hway]

theorem Agrees.exists_write (h : Agrees ks place s t) (hk : k ∈ ks) (content : String) :
    ∃ t', Store.write k content t = ((Store.write k content s).1, t') ∧
      Agrees ks place (Store.write k content s).2 t' := by
  rw [MemoryStore.write_eq, MemoryStore.put_of_isAllowed (h.plain.isAllowed hk)]
  obtain ⟨d, hchange, hagrees⟩ := h.exists_change hk ("writing file ", "") fun _ => content
  exact ⟨_, hchange, hagrees⟩

theorem Agrees.exists_append (h : Agrees ks place s t) (hk : k ∈ ks) (content : String) :
    ∃ t', Store.append k content t = ((Store.append k content s).1, t') ∧
      Agrees ks place (Store.append k content s).2 t' := by
  have hmemory : Store.append k content s = (.ok (), s.set k ((s.find? k).getD "" ++ content)) :=
    MemoryStore.put_of_isAllowed (h.plain.isAllowed hk)
  rw [hmemory]
  obtain ⟨d, hchange, hagrees⟩ := h.exists_change hk ("opening file ", " for append") (· ++ content)
  exact ⟨_, hchange, hagrees⟩

/-! ## Listing versions -/

/-- Where the folder of a key is there, there are all folders above it. -/
theorem Agrees.entry?_above (h : Agrees ks place s t) (hq : ∀ name ∈ q, Disk.IsName name)
    (hfolder : t.disk.entry? (place ++ q) = some .folder) {r : Disk.Place} (hr : r <+: q) :
    t.disk.entry? (place ++ r) = some .folder := by
  by_cases hnil : q = []
  · subst hnil
    rwa [List.prefix_nil.1 hr]
  · rw [Disk.entry?_append _ _ hnil, h.folders] at hfolder
    obtain ⟨k, hk, habove⟩ := hfolder
    obtain ⟨honway, hne⟩ := Key.isAbove_iff_names.1 habove
    rw [Disk.names_keyOf hnil hq] at honway hne
    refine h.entry?_eq_folder hk (hr.trans honway) fun heq => ?_
    exact hne (honway.eq_of_length_le (heq ▸ hr.length_le))

/-- The files in the folder of a key are the keys beside it. -/
theorem Agrees.exists_beside (h : Agrees ks place s t) (hk : k ∈ ks) :
    ∃ found, t.beside k = .ok found ∧ found.Nodup ∧ ∀ x, x ∈ found ↔ x ∈ s.beside k := by
  let front := (Path.names k).dropLast
  have hnames := h.plain.isName hk
  have hfront : ∀ name ∈ front, Disk.IsName name := fun name hname =>
    hnames name (List.dropLast_subset _ hname)
  have hmem (x : String) :
      x ∈ s.beside k ↔ ∃ name, '/' ∉ name.toList ∧ x = Key.lead k ++ name ∧ x ∈ s.keys := by
    rw [MemoryStore.beside, List.mem_filter, beq_iff_eq, Key.folder?_eq_iff, and_comm]
    simp only [← exists_and_right, and_assoc]
  have hfile (name : String) (hname : '/' ∉ name.toList) :
      (∃ content, t.disk.entry? (place ++ front ++ [name]) = some (.file content)) ↔
        Key.lead k ++ name ∈ s.keys := by
    rw [List.append_assoc, ← Key.names_lead_append hname, Disk.entry?_names, MemoryStore.mem_keys,
      Option.isSome_iff_exists]
    simp only [h.files]
  rw [beside_of_isAllowed (h.plain.isAllowed hk), Disk.filesIn_eq, fileOf,
    h.leads.locate_parent_down h.unlimited (h.plain.chars k hk).2 hnames]
  by_cases hfolder : t.disk.entry? (place ++ front) = some .folder
  · have hwalk : t.disk.walk place front = .ok (place ++ front) :=
      Disk.walk_down h.unlimited hfront (fun q hq _ => h.entry?_above hfront hfolder hq)
        (by rw [hfolder]; rfl)
    simp only [front] at hwalk hfolder
    simp only [hwalk, bind, Except.bind, hfolder, if_true]
    refine ⟨_, rfl, ?_, fun x => ?_⟩
    · exact List.Pairwise.map _ (fun a b hne heq => hne ((String.append_right_inj _).1 heq))
        (Disk.nodup_namesIn h.tree.ascending _)
    · rw [hmem, List.mem_map]
      simp only [Disk.mem_namesIn h.tree.ascending]
      constructor
      · rintro ⟨name, ⟨hname, hthere⟩, rfl⟩
        exact ⟨name, hname, rfl, (hfile name hname).1 hthere⟩
      · rintro ⟨name, hname, rfl, hkey⟩
        exact ⟨name, ⟨hname, (hfile name hname).2 hkey⟩, rfl⟩
  · have hway {r : Disk.Place} (hr : r <+: front) := Path.isPrefix_dropLast_iff.1 hr
    have hnone : t.disk.entry? (place ++ front) = none := by
      cases hentry : t.disk.entry? (place ++ front) with
      | none => rfl
      | some e =>
        cases e with
        | folder => exact absurd hentry hfolder
        | file content =>
          obtain ⟨honway, hne⟩ := hway (List.prefix_refl front)
          exact absurd hentry (h.entry?_ne_file hk honway hne content)
    have hwalk : t.disk.walk place front = .error .noSuchFile :=
      Disk.walk_missing h.unlimited hfront h.leads.folder
        (fun r hr _ => h.entry?_ne_file hk (hway hr).1 (hway hr).2) hnone
    simp only [front] at hwalk
    simp only [hwalk, bind, Except.bind]
    refine ⟨[], rfl, List.nodup_nil, fun x => iff_of_false List.not_mem_nil ?_⟩
    rw [hmem]
    rintro ⟨name, hname, rfl, hkey⟩
    refine hfolder (h.entry?_eq_folder hkey ?_ ?_)
    · rw [Key.names_lead_append hname]
      exact List.prefix_append _ _
    · rw [Key.names_lead_append hname]
      exact fun heq => List.cons_ne_nil _ _ (List.self_eq_append_right.1 heq)

/-- So the same versions are listed. -/
theorem Agrees.versions_eq (h : Agrees ks place s t) (hk : k ∈ ks) :
    Store.versions k t = Store.versions k s := by
  obtain ⟨found, hfound, hnodup, hmem⟩ := h.exists_beside hk
  have hdisk : Store.siblings k t = .ok found := hfound
  have hmemory : Store.siblings k s = .ok (s.beside k) := rfl
  rw [Store.versions, Store.versions, hdisk, hmemory]
  cases Glob.read (Store.versionGlob k) with
  | error fault => rfl
  | ok g =>
    have hbeside : (s.beside k).Nodup := h.wellFormed.nodup.filter _
    refine congrArg Except.ok (sortedStrings_congr (hnodup.filter _) (hbeside.filter _) fun x => ?_)
    rw [List.mem_filter, List.mem_filter, hmem]

/-! ## Saving versions -/

/-- The files beneath the root are what is in memory. -/
theorem Agrees.filesBeneath_eq (h : Agrees ks place s t) : t.disk.filesBeneath place = s.files := by
  refine (Disk.ascending_filesBeneath h.tree.ascending place).ext h.wellFormed ?_
  rintro ⟨p, content⟩
  rw [Disk.mem_filesBeneath h.tree.ascending, h.files, MemoryStore.find?,
    Dict.find?_eq_some_iff h.wellFormed.nodup]

/-- The same key is free for a version. -/
theorem Agrees.freeKey_eq (h : Agrees ks place s t) {now : Instant}
    (hfree : Store.freeKey now k 0 s ∈ ks) :
    Store.freeKey now k 0 t = Store.freeKey now k 0 s := by
  obtain ⟨first, hnew, hbusy⟩ := Key.exists_first_candidate (Key.version k now) s.keys
  have hsize : s.keys.length ≤ Store.size t := by
    have hle : (t.disk.filesBeneath place).length ≤ t.disk.entries.length :=
      List.length_filterMap_le _ _
    rw [h.filesBeneath_eq, ← MemoryStore.length_keys] at hle
    exact Nat.le_succ_of_le hle
  rw [MemoryStore.freeKey_eq hnew hbusy] at hfree ⊢
  refine Key.firstFree_eq ?_ (Nat.zero_le _) (fun n _ hn => ?_) ?_
  · rw [Bool.eq_false_iff]
    exact fun htaken => hnew ((h.has_iff hfree).1 htaken)
  · exact (h.has_iff (h.keys (hbusy n hn))).2 (hbusy n hn)
  · have hle := Key.le_length_of_candidates hbusy
    omega

/-- So the same version is saved, if the keys that are made are among the plain ones. -/
theorem Agrees.exists_saveVersion (h : Agrees ks place s t) (hk : k ∈ ks) {now : Instant}
    {metadata : Json} (hkeys : (Store.saveVersion digest now k metadata 0 s).2.keys ⊆ ks) :
    ∃ t', Store.saveVersion digest now k metadata 0 t =
        ((Store.saveVersion digest now k metadata 0 s).1, t') ∧
      Agrees ks place (Store.saveVersion digest now k metadata 0 s).2 t' := by
  cases hfind : s.find? k with
  | none =>
    refine ⟨t, ?_, ?_⟩
    · rw [Store.saveVersion, Store.saveVersion, h.read_eq hk, MemoryStore.read_eq, hfind]
    · rwa [Store.saveVersion, MemoryStore.read_eq, hfind]
  | some content =>
    rw [MemoryStore.saveVersion_of_isAllowed (h.plain.isAllowed hk) hfind] at hkeys ⊢
    have hversion : Store.freeKey now k 0 s ∈ ks :=
      hkeys (MemoryStore.mem_keys_withVersion.2 (.inr (.inl rfl)))
    have haccount : Key.account (Store.freeKey now k 0 s) ∈ ks :=
      hkeys (MemoryStore.mem_keys_withVersion.2 (.inl rfl))
    obtain ⟨t₁, hfirst, h₁⟩ := h.exists_write hversion content
    rw [MemoryStore.write_eq, MemoryStore.put_of_isAllowed (h.plain.isAllowed hversion)] at hfirst h₁
    obtain ⟨t₂, hsecond, h₂⟩ :=
      h₁.exists_write haccount (Store.account digest now k content metadata).compact
    rw [MemoryStore.write_eq, MemoryStore.put_of_isAllowed (h.plain.isAllowed haccount)]
      at hsecond h₂
    refine ⟨t₂, ?_, h₂⟩
    rw [Store.saveVersion, h.read_eq hk, MemoryStore.read_eq, hfind]
    simp only [h.freeKey_eq hversion, hfirst, hsecond]

/-! ## Calls -/

/-- A call is answered alike, and the stores agree after it. -/
theorem Agrees.perform (h : Agrees ks place s t) (c : Store.Call) (hpath : c.path ∈ ks)
    (hkeys : (c.perform digest s).2.keys ⊆ ks) :
    (c.perform digest t).1 = (c.perform digest s).1 ∧
      Agrees ks place (c.perform digest s).2 (c.perform digest t).2 := by
  cases c with
  | write path content =>
    obtain ⟨t', ht', hagrees⟩ := h.exists_write (k := path) hpath content
    rw [Store.Call.perform, ht']
    exact ⟨rfl, hagrees⟩
  | append path content =>
    obtain ⟨t', ht', hagrees⟩ := h.exists_append (k := path) hpath content
    rw [Store.Call.perform, ht']
    exact ⟨rfl, hagrees⟩
  | read path => exact ⟨congrArg Store.Answer.text (h.read_eq hpath), h⟩
  | has path =>
    refine ⟨congrArg Store.Answer.found (Bool.eq_iff_iff.2 ?_), h⟩
    rw [h.has_iff (k := path) hpath, MemoryStore.has_eq_true]
  | saveVersion path now metadata =>
    obtain ⟨t', ht', hagrees⟩ := h.exists_saveVersion (k := path) hpath hkeys
    rw [Store.Call.perform, ht']
    exact ⟨rfl, hagrees⟩
  | versions path => exact ⟨congrArg Store.Answer.keys (h.versions_eq hpath), h⟩
  | latestVersion path =>
    refine ⟨congrArg Store.Answer.key? ?_, h⟩
    rw [Store.latestVersion, Store.latestVersion, h.versions_eq (k := path) hpath]

/-- So are calls one after the other. -/
theorem Agrees.performAll (h : Agrees ks place s t) {cs : List Store.Call}
    (hpaths : ∀ c ∈ cs, c.path ∈ ks) (hkeys : (Store.performAll digest cs s).2.keys ⊆ ks) :
    (Store.performAll digest cs t).1 = (Store.performAll digest cs s).1 ∧
      Agrees ks place (Store.performAll digest cs s).2 (Store.performAll digest cs t).2 := by
  induction cs generalizing s t with
  | nil => exact ⟨rfl, h⟩
  | cons c cs ih =>
    obtain ⟨hpath, hpaths⟩ := List.forall_mem_cons.1 hpaths
    -- What a call makes stays to the end.
    have hstay := Store.keys_subset_performAll digest cs (c.perform digest s).2
    obtain ⟨hanswer, hagrees⟩ := h.perform c hpath (List.Subset.trans hstay hkeys)
    obtain ⟨hanswers, hend⟩ := ih hagrees hpaths hkeys
    exact ⟨congrArg₂ List.cons hanswer hanswers, hend⟩

/-! ## Empty folders -/

/-- A folder is opened as it stands. -/
theorem openAt_of_leads {root : String} (hl : d.Leads root place) :
    openAt root d = (.ok ⟨root, d⟩, d) := by
  obtain ⟨hcheck, hwalk⟩ := Disk.locate_eq_ok_iff.1 hl.located
  have hmade := Disk.makeAlong_append hwalk hl.folder []
  rw [List.append_nil] at hmade
  rw [openAt, Disk.makeFolders, hcheck, hmade]
  rfl

/-- An empty folder agrees with the empty store. -/
theorem agrees_empty {root : String} (hplain : Key.IsPlain ks) (hl : d.Leads root place)
    (hu : d.Unlimited) (hd : d.WellFormed) (hempty : ∀ q, q ≠ [] → d.entry? (place ++ q) = none) :
    Agrees ks place MemoryStore.empty ⟨root, d⟩ where
  plain := hplain
  keys := List.nil_subset _
  wellFormed := MemoryStore.wellFormed_empty
  leads := hl
  unlimited := hu
  tree := hd
  files p content := by
    rw [hempty _ (List.cons_ne_nil _ _)]
    exact ⟨nofun, nofun⟩
  folders p := by
    rw [hempty _ (List.cons_ne_nil _ _)]
    exact ⟨nofun, fun ⟨k, hk, _⟩ => absurd hk List.not_mem_nil⟩

/-- A store that is opened in an empty folder of a disk without limits answers all calls as the empty
store in memory does, if the keys that they name and make are plain. -/
theorem answers_eq (digest : String → String) (cs : List Store.Call) (d : Disk) (root : String)
    (place : Disk.Place) (hl : d.Leads root place) (hu : d.Unlimited) (hd : d.WellFormed)
    (hempty : ∀ q, q ≠ [] → d.entry? (place ++ q) = none)
    (hplain : Key.IsPlain (Store.keysOf digest cs)) :
    ∃ t, openAt root d = (.ok t, d) ∧
      (Store.performAll digest cs t).1 = (Store.performAll digest cs MemoryStore.empty).1 := by
  have hagrees := agrees_empty hplain hl hu hd hempty
  refine ⟨_, openAt_of_leads hl, (hagrees.performAll (fun c hc => ?_) ?_).1⟩
  · exact List.mem_append_left _ (List.mem_map_of_mem hc)
  · exact List.subset_append_right _ _

end

/-! ## An empty folder -/

/-- A disk without limits, with an empty folder. -/
def vacant : Disk :=
  ((⟨[], [], ⟨none, none⟩⟩ : Disk).set ["srv"] .folder).set ["srv", "store"] .folder

theorem wellFormed_vacant : vacant.WellFormed := by
  have hempty : (⟨[], [], ⟨none, none⟩⟩ : Disk).WellFormed := ⟨List.Pairwise.nil, nofun, nofun⟩
  exact (hempty.set (by decide) (by decide +kernel) _).set (by decide) (by decide +kernel) _

theorem entry?_vacant (q : Disk.Place) (hq : q ≠ []) :
    vacant.entry? (["srv", "store"] ++ q) = none := by
  have hne : ["srv", "store"] ++ q ≠ [] := List.append_ne_nil_of_right_ne_nil _ hq
  -- Neither of the two folders is beneath the second one.
  have hfolder (place : Disk.Place)
      (hplace : Disk.beneath? ["srv", "store"] (Disk.keyOf place) = none) :
      Disk.keyOf (["srv", "store"] ++ q) ≠ Disk.keyOf place := by
    intro heq
    rw [← heq, Disk.beneath?_keyOf_append _ hq] at hplace
    cases hplace
  rw [vacant, Disk.entry?_set hne, if_neg (hfolder _ (by decide +kernel)), Disk.entry?_set hne,
    if_neg (hfolder _ (by decide +kernel)), Disk.entry?_of_ne_nil hne]
  rfl

/-- There the second version that is saved in a microsecond gets its number, and what is not there is
missed under its key. -/
theorem answers_eq_vacant :
    let cs : List Store.Call := [.write "notes/plan" "one", .saveVersion "notes/plan" ⟨0⟩ .null,
      .append "notes/plan" ", two", .saveVersion "notes/plan" ⟨0⟩ .null, .read "draft",
      .has "notes/plan", .versions "notes/plan"]
    vacant.Leads "/srv/store" ["srv", "store"] ∧ vacant.Unlimited ∧ vacant.WellFormed ∧
      (∀ q, q ≠ [] → vacant.entry? (["srv", "store"] ++ q) = none) ∧
      Key.IsPlain (Store.keysOf (fun _ => "") cs) ∧
      ∃ t, openAt "/srv/store" vacant = (.ok t, vacant) ∧
        (Store.performAll (fun _ => "") cs t).1 =
          (Store.performAll (fun _ => "") cs MemoryStore.empty).1 ∧
        (Store.performAll (fun _ => "") cs t).1.take 6 =
          [.done (.ok ()), .text (.ok "notes/plan.19700101T000000.000000Z"), .done (.ok ()),
            .text (.ok "notes/plan.19700101T000000.000000Z-0001"),
            .text (.error (.notFound "draft")), .found true] := by
  intro cs
  have hleads : vacant.Leads "/srv/store" ["srv", "store"] := ⟨by rfl, by rfl⟩
  have hkeys : Store.keysOf (fun _ => "") cs =
      ["notes/plan", "notes/plan", "notes/plan", "notes/plan", "draft", "notes/plan", "notes/plan",
        "notes/plan", "notes/plan.19700101T000000.000000Z",
        "notes/plan.19700101T000000.000000Z-0001",
        "notes/plan.19700101T000000.000000Z-0001.meta.json",
        "notes/plan.19700101T000000.000000Z.meta.json"] := by decide +kernel
  have hplain : Key.IsPlain (Store.keysOf (fun _ => "") cs) := by
    rw [hkeys]
    exact ⟨by decide +kernel, by decide +kernel, by decide +kernel⟩
  obtain ⟨t, hopen, hanswers⟩ := answers_eq (fun _ => "") cs vacant "/srv/store" ["srv", "store"]
    hleads rfl wellFormed_vacant entry?_vacant hplain
  refine ⟨hleads, rfl, wellFormed_vacant, entry?_vacant, hplain, t, hopen, hanswers, ?_⟩
  rw [hanswers]
  decide +kernel

end LocalStore

end Taskweave
