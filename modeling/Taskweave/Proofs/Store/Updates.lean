import Taskweave.Proofs.Store.Channels
import Taskweave.Proofs.Store.States
import Taskweave.Proofs.Store.Versioning

/-!
# The updates of roles in one store

`RoleMemory.Event` is what role memories do in a store that they share: updates of their states, and
values that they hand over. `RoleMemory.runAll` is what becomes of the store.

The keys of a role whose name has no point are no extensions of the key of another one's state
(`RoleMemory.eq_of_extends`), so that what the others do leaves the state and the versions of a role
alone (`RoleMemory.find?_happen`). From this, by induction on what has happened, under the key of
the state is the document of all updates of the role (`RoleMemory.Current.runAll`), and under the keys of
the versions are those of its updates up to each (`RoleMemory.Recorded.runAll`). The history reads
the latter back in the order of the updates as long as the versions ascend
(`RoleMemory.remembers`).
-/

namespace Taskweave.RoleMemory

/-- An update of the state of a role. -/
structure Update where
  memory : RoleMemory
  now : Instant
  fields : Dict Json

/-- What a role memory does. -/
inductive Event where
  | update (u : Update)
  | share (h : Handover)

/-- What becomes of a store. -/
def happen (digest : String → String) (s : MemoryStore) : Event → MemoryStore
  | .update u => (u.memory.update digest u.now (.obj u.fields) s).2
  | .share h => handOver s h

/-- What becomes of a store by one event after the other. -/
def runAll (digest : String → String) (s : MemoryStore) (events : List Event) : MemoryStore :=
  events.foldl (happen digest) s

/-- The update of an event, if it is one of a role. -/
def Event.updateOf? (role : RoleName) : Event → Option Update
  | .update u => if u.memory.role = role then some u else none
  | .share _ => none

/-- The updates of a role. -/
def updatesOf (role : RoleName) (events : List Event) : List Update :=
  events.filterMap (Event.updateOf? role)

/-- The fields of updates put together, of two with one name the later staying. -/
def merged (us : List Update) : Dict Json := us.foldl (fun state u => Dict.merge state u.fields) []

/-- The documents of updates that follow a state. -/
def documentsFrom (state : Dict Json) : List Update → List Json
  | [] => []
  | u :: us =>
    u.memory.document u.now (Dict.merge state u.fields) ::
      documentsFrom (Dict.merge state u.fields) us

/-- The name has ASCII letters and digits, underscores and dashes only. -/
def IsPlainName (role : RoleName) : Prop :=
  ∀ c ∈ role.toList, c.isAlphanum = true ∨ c = '_' ∨ c = '-'

/-- An update of a role with a plain name by fields that can be kept: their numbers and those of the
context can be read back, and no value has more than 125 levels. -/
structure Update.Sound (u : Update) : Prop where
  name : IsPlainName u.memory.role
  fields : (Json.obj u.fields).IsStable
  context : (Json.obj u.memory.context).IsStable
  depth : Json.depthFields u.fields ≤ 125
  depthContext : Json.depthFields u.memory.context ≤ 125

section
variable {m m' : RoleMemory} {digest : String → String} {role : RoleName} {now : Instant}
  {s s' : MemoryStore} {u : Update} {us : List Update} {e : Event} {events : List Event}
  {state : Dict Json} {key k : String} {vs : List MemoryStore.Version}

/-! ## Names -/

theorem IsPlainName.notMem (h : IsPlainName role) {c : Char} (hc : c.isAlphanum = false)
    (hunderscore : c ≠ '_') (hdash : c ≠ '-') : c ∉ role.toList := by
  intro hmem
  rcases h c hmem with h | h | h
  · rw [hc] at h
    cases h
  · exact hunderscore h
  · exact hdash h

theorem statePath_toList (m : RoleMemory) : m.statePath.toList =
    "states/".toList ++ ((m.role.toList ++ "_state".toList) ++ ".json".toList) := by
  simp [statePath]

/-- The key of the state of a role with a plain name is allowed. -/
theorem IsPlainName.isAllowed (h : IsPlainName m.role) : Key.isAllowed m.statePath = true := by
  have hfolder : Key.isAllowed "states/" = true := by decide +kernel
  refine Key.isAllowed_append (c := 's') hfolder (statePath_toList m) ?_ (by simp) (by decide)
  have hrole : ∀ c ∈ m.role.toList, Key.isSeparator c = false := by
    intro c hc
    rw [Key.isSeparator, Bool.or_eq_false_iff, beq_eq_false_iff_ne, beq_eq_false_iff_ne]
    constructor
    · rintro rfl
      exact h.notMem (by decide) (by decide) (by decide) hc
    · rintro rfl
      exact h.notMem (by decide) (by decide) (by decide) hc
  rw [List.forall_mem_append, List.forall_mem_append]
  exact ⟨⟨hrole, by simp [Key.isSeparator]⟩, by simp [Key.isSeparator]⟩

theorem IsPlainName.backslash_notMem (h : IsPlainName m.role) : '\\' ∉ m.statePath.toList := by
  have hrole : '\\' ∉ m.role.toList := h.notMem (by decide) (by decide) (by decide)
  rw [statePath_toList, List.mem_append, List.mem_append, List.mem_append, not_or, not_or, not_or]
  exact ⟨by decide, ⟨hrole, by decide⟩, by decide⟩

/-- What is written behind the key of the state of one role does not make it extend that of another:
the first point in both is that before the `json`. -/
theorem eq_of_extends (h : IsPlainName m.role) (h' : IsPlainName m'.role) {added : List Char}
    (hkey : k.toList = m'.statePath.toList ++ added) (hextends : m.statePath.toList <+: k.toList) :
    m.role = m'.role := by
  have hpoint {role : RoleName} (h : IsPlainName role) (cs : List Char) :
      ((role.toList ++ "_state".toList) ++ '.' :: cs).takeWhile (· != '.') =
        role.toList ++ "_state".toList := by
    rw [List.takeWhile_append_of_pos, List.takeWhile_cons_of_neg (by decide), List.append_nil]
    rw [List.forall_mem_append]
    refine ⟨fun c hc => ?_, by simp⟩
    rw [bne_iff_ne]
    rintro rfl
    exact h.notMem (by decide) (by decide) (by decide) hc
  obtain ⟨more, hmore⟩ := hextends
  have hroles : (m.role.toList ++ "_state".toList) ++ '.' :: ("json".toList ++ more) =
      (m'.role.toList ++ "_state".toList) ++ '.' :: ("json".toList ++ added) := by
    simpa [hkey, statePath_toList] using hmore
  have hfront := congrArg (List.takeWhile (· != '.')) hroles
  rw [hpoint h, hpoint h'] at hfront
  exact String.toList_inj.1 (List.append_cancel_right hfront)

/-! ## What others do -/

/-- Saving the state of a role leaves the keys alone that extend the key of another's. -/
theorem find?_afterSave_of_extends (h : IsPlainName m.role) (h' : IsPlainName m'.role)
    (hne : m.role ≠ m'.role) (hextends : m.statePath.toList <+: k.toList) :
    (m'.afterSave digest now state s).find? k = s.find? k := by
  have hkey (added : List Char) : k.toList ≠ m'.statePath.toList ++ added :=
    fun hkey => hne (eq_of_extends h h' hkey hextends)
  obtain ⟨n, hn⟩ := MemoryStore.exists_freeKey now m'.statePath 0
    (s.set m'.statePath (m'.document now state).compact)
  have hversion : k ≠ Key.candidate (Key.version m'.statePath now) n := by
    rintro rfl
    exact hkey _ (Key.candidate_version_toList _ _ _)
  have haccount : k ≠ Key.account (Key.candidate (Key.version m'.statePath now) n) := by
    rintro rfl
    refine hkey ('.' :: (now.stamp.toList ++ Key.suffixChars n) ++ Key.metaSuffix.toList) ?_
    rw [Key.account, String.toList_append, Key.candidate_version_toList, List.append_assoc]
  have hstate : k ≠ m'.statePath := by
    rintro rfl
    exact hkey [] (List.append_nil _).symm
  rw [← hn] at hversion haccount
  rw [afterSave, MemoryStore.find?_withVersion_of_ne hversion haccount, MemoryStore.find?_set,
    if_neg hstate]

/-- What is handed over is kept under keys that extend no key of a state. -/
theorem not_extends_sharedPath (m : RoleMemory) (sender receiver : RoleName) :
    ¬m.statePath.toList <+: (sharedPath sender receiver).toList := by
  rintro ⟨more, hmore⟩
  simp [statePath, sharedPath] at hmore

/-- Handing something over leaves all keys alone that extend the key of a state. -/
theorem find?_handOver (hextends : m.statePath.toList <+: k.toList) (h : Handover) :
    (handOver s h).find? k = s.find? k := by
  cases hallowed : Key.isAllowed h.path with
  | false =>
    rw [handOver, share, MemoryStore.write_eq]
    exact congrArg (fun r => r.2.find? k) (MemoryStore.put_of_not_isAllowed hallowed)
  | true =>
    have hne : k ≠ h.path := by
      rintro rfl
      exact not_extends_sharedPath m _ _ hextends
    rw [handOver_eq hallowed, MemoryStore.find?_set, if_neg hne]

/-- An update of a role with a plain name saves the state with the fields put in, if it can be loaded,
and changes nothing otherwise. -/
theorem happen_update (h : IsPlainName u.memory.role) :
    happen digest s (.update u) = match u.memory.load s with
      | .ok state => u.memory.afterSave digest u.now (Dict.merge state u.fields) s
      | .error _ => s := by
  rw [happen]
  cases hload : u.memory.load s with
  | ok state => rw [update_of_load_ok h.isAllowed hload]
  | error e => rw [update_of_load_error hload]

/-- An event that is no update of a role leaves the keys alone that extend the key of its state. -/
theorem find?_happen (h : IsPlainName m.role)
    (hplain : ∀ u, e = .update u → IsPlainName u.memory.role) (hother : e.updateOf? m.role = none)
    (hextends : m.statePath.toList <+: k.toList) :
    (happen digest s e).find? k = s.find? k := by
  cases e with
  | share handover => exact find?_handOver hextends handover
  | update u =>
    have hne : m.role ≠ u.memory.role := by
      rintro heq
      rw [Event.updateOf?, if_pos heq.symm] at hother
      cases hother
    rw [happen_update (hplain u rfl)]
    split
    · exact find?_afterSave_of_extends h (hplain u rfl) hne hextends
    · rfl

/-! ## Updates put together -/

theorem merged_append (us : List Update) (u : Update) :
    merged (us ++ [u]) = Dict.merge (merged us) u.fields := by
  rw [merged, List.foldl_append]
  rfl

theorem documentsFrom_append (state : Dict Json) (us : List Update) (u : Update) :
    documentsFrom state (us ++ [u]) = documentsFrom state us ++
      [u.memory.document u.now
        (Dict.merge (us.foldl (fun state u => Dict.merge state u.fields) state) u.fields)] := by
  induction us generalizing state with
  | nil => rfl
  | cons u' us ih => exact congrArg (_ :: ·) (ih _)

theorem length_documentsFrom (state : Dict Json) (us : List Update) :
    (documentsFrom state us).length = us.length := by
  induction us generalizing state with
  | nil => rfl
  | cons u us ih => exact congrArg (· + 1) (ih _)

/-- The document of an update holds the state with all updates up to this one. -/
theorem getElem?_documentsFrom (state : Dict Json) (us : List Update) (n : Nat) :
    (documentsFrom state us)[n]? = us[n]?.map fun u => u.memory.document u.now
      ((us.take (n + 1)).foldl (fun state u => Dict.merge state u.fields) state) := by
  induction us generalizing state n with
  | nil => rfl
  | cons u us ih =>
    cases n with
    | zero => rfl
    | succ n => exact ih _ n

/-- Sound updates make a state that can be read back. -/
theorem merged_sound (h : ∀ u ∈ us, u.Sound) :
    (Json.obj (merged us)).IsStable ∧ Json.depthFields (merged us) ≤ 125 := by
  induction us using List.reverseRecOn with
  | nil => exact ⟨rfl, Nat.zero_le _⟩
  | append_singleton us u ih =>
    obtain ⟨hus, hu⟩ := List.forall_mem_append.1 h
    obtain ⟨hstable, hdepth⟩ := ih hus
    have hu : u.Sound := hu u (List.mem_singleton_self u)
    rw [merged_append]
    exact ⟨hstable.merge hu.fields, Json.depthFields_merge_le hdepth hu.depth⟩

/-- The document of a sound update is read as it was written. -/
theorem read?_compact_document_of_sound (hu : u.Sound) (hstable : (Json.obj state).IsStable)
    (hdepth : Json.depthFields state ≤ 125) :
    Json.read? (u.memory.document u.now state).compact = some (u.memory.document u.now state) := by
  refine Json.read?_compact_eq_some_iff.2 ⟨?_, isStable_document hu.context hstable⟩
  rw [depth_document_eq]
  exact Nat.add_le_add_right (Nat.max_le.2 ⟨hu.depthContext, hdepth⟩) 2

theorem updatesOf_append (role : RoleName) (events : List Event) (e : Event) :
    updatesOf role (events ++ [e]) = updatesOf role events ++ (e.updateOf? role).toList := by
  rw [updatesOf, List.filterMap_append]
  cases h : e.updateOf? role with
  | none => simp [updatesOf, h]
  | some u => simp [updatesOf, h]

theorem runAll_append (digest : String → String) (s : MemoryStore) (events : List Event) (e : Event) :
    runAll digest s (events ++ [e]) = happen digest (runAll digest s events) e := by
  rw [runAll, List.foldl_append]
  rfl

/-- The updates of a role are updates by memories of the role. -/
theorem updateOf?_eq_some (h : e.updateOf? role = some u) : e = .update u ∧ u.memory.role = role := by
  cases e with
  | share handover => cases h
  | update u' =>
    rw [Event.updateOf?] at h
    split at h
    · next hrole =>
      obtain rfl := Option.some.inj h
      exact ⟨rfl, hrole⟩
    · cases h

theorem mem_updatesOf (h : u ∈ updatesOf role events) :
    .update u ∈ events ∧ u.memory.role = role := by
  obtain ⟨e, he, hu⟩ := List.mem_filterMap.1 h
  obtain ⟨rfl, hrole⟩ := updateOf?_eq_some hu
  exact ⟨he, hrole⟩

/-! ## The state -/

/-- Under the key of the state of a role is the document of its updates. -/
def Current (m : RoleMemory) (us : List Update) (s : MemoryStore) : Prop :=
  s.find? m.statePath = us.getLast?.map fun u => (u.memory.document u.now (merged us)).compact

theorem statePath_congr (h : m.role = m'.role) : m.statePath = m'.statePath := by
  rw [statePath, statePath, h]

theorem load_congr (h : m.role = m'.role) (s : MemoryStore) : m.load s = m'.load s := by
  rw [load_eq, load_eq, statePath_congr h]

/-- So what is loaded are the updates put together. -/
theorem Current.load (h : Current m us s) (hus : ∀ u ∈ us, u.Sound) : m.load s = .ok (merged us) := by
  rw [load_eq, h]
  cases hlast : us.getLast? with
  | none =>
    rw [List.getLast?_eq_none_iff.1 hlast]
    rfl
  | some u =>
    obtain ⟨hstable, hdepth⟩ := merged_sound hus
    have hu : u.Sound := hus u (List.mem_of_getLast? hlast)
    simp only [Option.map_some, parse, read?_compact_document_of_sound hu hstable hdepth]
    rfl

/-- One event more. -/
theorem Current.happen (h : Current m us s) (hus : ∀ u ∈ us, u.Sound) (hm : IsPlainName m.role)
    (he : ∀ u, e = .update u → u.Sound) :
    Current m (us ++ (e.updateOf? m.role).toList) (happen digest s e) := by
  cases hupdate : e.updateOf? m.role with
  | none =>
    have hsame : (RoleMemory.happen digest s e).find? m.statePath = s.find? m.statePath :=
      find?_happen hm (fun u hu => (he u hu).name) hupdate (List.prefix_refl _)
    rw [Option.toList_none, List.append_nil, Current, hsame]
    exact h
  | some u =>
    obtain ⟨rfl, hrole⟩ := updateOf?_eq_some hupdate
    have hu := he u rfl
    rw [happen_update hu.name, load_congr hrole, h.load hus, Current, Option.toList_some,
      List.getLast?_append, statePath_congr hrole.symm, find?_afterSave, merged_append]
    rfl

/-- What has happened so far is current. -/
theorem Current.runAll (digest : String → String) (hm : IsPlainName m.role)
    (hsound : ∀ u, .update u ∈ events → u.Sound) :
    Current m (updatesOf m.role events) (runAll digest .empty events) := by
  induction events using List.reverseRecOn with
  | nil => rfl
  | append_singleton events e ih =>
    rw [updatesOf_append, runAll_append]
    refine Current.happen (ih fun u hu => hsound u (List.mem_append_left _ hu)) ?_ hm ?_
    · exact fun u hu => hsound u (List.mem_append_left _ (mem_updatesOf hu).1)
    · rintro u rfl
      exact hsound u (List.mem_append_right _ (List.mem_singleton_self _))

/-! ## The versions -/

/-- Under the keys of the versions of a role's state are the documents of its updates. -/
structure Recorded (m : RoleMemory) (us : List Update) (vs : List MemoryStore.Version)
    (s : MemoryStore) : Prop where
  kept : MemoryStore.Kept m.statePath ⟨vs, s⟩
  times : vs.map (·.time) = us.map (·.now)
  texts : vs.map (fun v => s.find? v.key) = (documentsFrom [] us).map fun doc => some doc.compact

theorem wellFormed_happen (hs : s.WellFormed) (he : ∀ u, e = .update u → IsPlainName u.memory.role) :
    (happen digest s e).WellFormed := by
  cases e with
  | update u =>
    rw [happen_update (he u rfl)]
    split
    · exact (hs.set _ _).withVersion
    · exact hs
  | share h =>
    cases hallowed : Key.isAllowed h.path with
    | false =>
      rw [happen, handOver, share, MemoryStore.write_eq]
      exact (congrArg (fun r => r.2.WellFormed) (MemoryStore.put_of_not_isAllowed hallowed)).mpr hs
    | true =>
      rw [happen, handOver_eq hallowed]
      exact hs.set _ _

/-- What leaves the state and its versions alone leaves them recorded. -/
theorem Recorded.of_same (h : Recorded m us vs s) (hs' : s'.WellFormed)
    (hsame : ∀ k, m.statePath.toList <+: k.toList → s'.find? k = s.find? k) :
    Recorded m us vs s' where
  kept := h.kept.of_same hs' hsame
  times := h.times
  texts := by
    rw [← h.texts]
    refine List.map_congr_left fun v hv => hsame _ ?_
    obtain ⟨n, -, hkey⟩ := h.kept.numbered.exists_number hv
    rw [hkey]
    exact MemoryStore.extends_candidate _ _ _

/-- Saving the state with an update records one more version. -/
theorem Recorded.afterSave (digest : String → String) (h : Recorded u.memory us vs s)
    (hu : IsPlainName u.memory.role)
    (hyears : ∀ v ∈ vs, v.time.HasPlainYear) (hnow : u.now.HasPlainYear) :
    ∃ vs', Recorded u.memory (us ++ [u]) vs'
      (u.memory.afterSave digest u.now (merged (us ++ [u])) s) := by
  let path := u.memory.statePath
  let text := (u.memory.document u.now (merged (us ++ [u]))).compact
  let role : Json := .obj [("role", .str u.memory.role)]
  let written := s.set path text
  let key := Key.candidate (Key.version path u.now) (MemoryStore.ordinal vs u.now)
  have hwritten : MemoryStore.Kept path ⟨vs, written⟩ := by
    have hwrite := h.kept.write text
    rwa [MemoryStore.write_eq, MemoryStore.put_of_isAllowed hu.isAllowed] at hwrite
  have hkey : Store.freeKey u.now path 0 written = key := hwritten.freeKey_eq hyears hnow
  have hafter : u.memory.afterSave digest u.now (merged (us ++ [u])) s =
      written.withVersion digest u.now path text role key := by
    rw [← hkey]
    rfl
  have hsaved : MemoryStore.Kept path
      ⟨vs ++ [⟨u.now, key⟩], written.withVersion digest u.now path text role key⟩ := by
    have hrevise : MemoryStore.Kept path
        (MemoryStore.Archive.revise digest path ⟨vs, written⟩ (.save u.now role)) :=
      hwritten.revise hyears fun t ht => Option.some.inj ht ▸ hnow
    have hfind : written.find? path = some text := by rw [MemoryStore.find?_set, if_pos rfl]
    have hsave : Store.saveVersion digest u.now path role 0 written = _ :=
      MemoryStore.saveVersion_of_isAllowed hu.isAllowed hfind
    rwa [MemoryStore.Archive.revise, hsave, hkey] at hrevise
  refine ⟨_, hafter ▸ hsaved, ?_, ?_⟩
  · rw [List.map_append, List.map_append, h.times]
    rfl
  · rw [List.map_append, documentsFrom_append, List.map_append, ← h.texts, hafter]
    refine congrArg₂ (· ++ ·) (List.map_congr_left fun v hv => ?_) ?_
    · -- The key of an earlier version is none of the three that are written.
      obtain ⟨n, -, hn⟩ := h.kept.numbered.exists_number hv
      have hversion : v.key ≠ key := h.kept.numbered.key_ne hv (hyears v hv) hnow
      have haccount : v.key ≠ Key.account key := by
        rw [hn]
        exact (MemoryStore.account_ne_candidate (hyears v hv) n).symm
      have hstate : v.key ≠ path := by
        rw [hn]
        exact Key.candidate_version_ne path v.time n
      rw [MemoryStore.find?_withVersion_of_ne hversion haccount, MemoryStore.find?_set, if_neg hstate]
    · have hne : key ≠ Key.account key := (MemoryStore.account_ne_candidate hnow _).symm
      rw [List.map_singleton, List.map_singleton, MemoryStore.withVersion, MemoryStore.find?_set,
        if_neg hne, MemoryStore.find?_set, if_pos rfl]
      simp only [text, merged_append]
      rfl

theorem Recorded.congr (h : Recorded m us vs s) (hrole : m.role = m'.role) :
    Recorded m' us vs s := by
  obtain ⟨hkept, htimes, htexts⟩ := h
  exact ⟨statePath_congr hrole ▸ hkept, htimes, htexts⟩

/-- One event more. -/
theorem Recorded.happen (h : Recorded m us vs s) (hcurrent : Current m us s)
    (hus : ∀ u ∈ us, u.Sound) (hm : IsPlainName m.role) (he : ∀ u, e = .update u → u.Sound)
    (hyears : ∀ u ∈ us ++ (e.updateOf? m.role).toList, u.now.HasPlainYear) :
    ∃ vs', Recorded m (us ++ (e.updateOf? m.role).toList) vs' (happen digest s e) := by
  cases hupdate : e.updateOf? m.role with
  | none =>
    rw [Option.toList_none, List.append_nil]
    refine ⟨vs, h.of_same (wellFormed_happen h.kept.wellFormed fun u hu => (he u hu).name)
      fun k hk => find?_happen hm (fun u hu => (he u hu).name) hupdate hk⟩
  | some u =>
    obtain ⟨rfl, hrole⟩ := updateOf?_eq_some hupdate
    rw [hupdate, Option.toList_some] at hyears
    obtain ⟨hold, hnew⟩ := List.forall_mem_append.1 hyears
    have hversions : ∀ v ∈ vs, v.time.HasPlainYear := by
      intro v hv
      have htime : v.time ∈ us.map (·.now) := h.times ▸ List.mem_map_of_mem hv
      obtain ⟨u', hu', heq⟩ := List.mem_map.1 htime
      exact heq ▸ hold u' hu'
    obtain ⟨vs', hvs'⟩ := (h.congr hrole.symm).afterSave digest (he u rfl).name hversions
      (hnew u (List.mem_singleton_self u))
    refine ⟨vs', ?_⟩
    rw [happen_update (he u rfl).name, load_congr hrole, hcurrent.load hus, Option.toList_some]
    simp only [← merged_append]
    exact hvs'.congr hrole

/-- What has happened so far is recorded. -/
theorem Recorded.runAll (digest : String → String) (hm : IsPlainName m.role)
    (hsound : ∀ u, .update u ∈ events → u.Sound)
    (hyears : ∀ u ∈ updatesOf m.role events, u.now.HasPlainYear) :
    ∃ vs, Recorded m (updatesOf m.role events) vs (runAll digest .empty events) := by
  induction events using List.reverseRecOn with
  | nil =>
    exact ⟨[], .of_no_extension MemoryStore.wellFormed_empty fun k hk => absurd hk List.not_mem_nil,
      rfl, rfl⟩
  | append_singleton events e ih =>
    have hbefore : ∀ u, .update u ∈ events → u.Sound :=
      fun u hu => hsound u (List.mem_append_left _ hu)
    rw [updatesOf_append] at hyears ⊢
    rw [runAll_append]
    obtain ⟨vs, hvs⟩ := ih hbefore fun u hu => hyears u (List.mem_append_left _ hu)
    refine hvs.happen (Current.runAll digest hm hbefore) (fun u hu => hbefore u (mem_updatesOf hu).1) hm
      ?_ hyears
    rintro u rfl
    exact hsound u (List.mem_append_right _ (List.mem_singleton_self _))

/-! ## The history -/

/-- The documents of sound updates can be read. -/
theorem read?_of_mem_documentsFrom (hstate : (Json.obj state).IsStable)
    (hdepth : Json.depthFields state ≤ 125) (hus : ∀ u ∈ us, u.Sound) :
    ∀ doc ∈ documentsFrom state us, Json.read? doc.compact = some doc := by
  induction us generalizing state with
  | nil => exact List.forall_mem_nil _
  | cons u us ih =>
    obtain ⟨hu, hus⟩ := List.forall_mem_cons.1 hus
    have hmerged := hstate.merge hu.fields
    have hshallow := Json.depthFields_merge_le hdepth hu.depth
    refine List.forall_mem_cons.2 ⟨?_, ih hmerged hshallow hus⟩
    exact read?_compact_document_of_sound hu hmerged hshallow

theorem documentOf?_eq (k : String) (s : MemoryStore) :
    documentOf? k s = (s.find? k).bind Json.read? := by
  rw [documentOf?, MemoryStore.read_eq]
  cases s.find? k with
  | none => rfl
  | some text => rfl

/-- The documents that are recorded are the history, in the order of the updates. -/
theorem Recorded.history (h : Recorded m us vs s) (hm : IsPlainName m.role)
    (hus : ∀ u ∈ us, u.Sound) (hsteady : MemoryStore.Steady (us.map (·.now)))
    (hfew : ∀ t : Instant, us.countP (fun u => u.now.micros = t.micros) ≤ 10000) :
    m.history s = .ok (documentsFrom [] us) := by
  let a : MemoryStore.Archive := ⟨vs, s⟩
  have htimes : a.times = us.map (·.now) := h.times
  have hsteady : MemoryStore.Steady a.times := htimes ▸ hsteady
  have hcount (t : Instant) : MemoryStore.ordinal vs t ≤ 10000 := by
    have hordinal := MemoryStore.ordinal_eq_countP a t
    rw [htimes, List.countP_map] at hordinal
    exact hordinal ▸ hfew t
  have hascending := (h.kept.numbered.ascending_iff hsteady.versions hsteady.pairwise).2 hcount
  have hlisted := (h.kept.inOrder hsteady.versions hascending).listed hm.backslash_notMem
  have hread : (vs.map (·.key)).filterMap (documentOf? · s) = documentsFrom [] us := by
    calc (vs.map (·.key)).filterMap (documentOf? · s)
        = (vs.map fun v => s.find? v.key).filterMap (·.bind Json.read?) := by
          rw [List.filterMap_map, List.filterMap_map]
          exact List.filterMap_congr fun v _ => documentOf?_eq v.key s
      _ = (documentsFrom [] us).filterMap fun doc => Json.read? doc.compact := by
          rw [h.texts, List.filterMap_map]
          rfl
      _ = (documentsFrom [] us).filterMap some :=
          List.filterMap_congr (read?_of_mem_documentsFrom rfl (Nat.zero_le _) hus)
      _ = documentsFrom [] us := List.filterMap_some
  rw [RoleMemory.history, hlisted]
  exact congrArg Except.ok hread

/-! ## What a role remembers -/

/-- Whatever roles with plain names do in a new store, each has its own updates put together as its
state, and that is what each of its updates returns. Under a clock that never goes back and stays in
the years 0 to 9999, its history has a document for each of its updates, in their order, with the
state as it was then and the context. -/
theorem remembers (digest : String → String) (m : RoleMemory) (events : List Event)
    (hm : IsPlainName m.role) (hsound : ∀ u, .update u ∈ events → u.Sound) :
    m.load (RoleMemory.runAll digest .empty events) = .ok (merged (updatesOf m.role events)) ∧
    (∀ before u after, events = before ++ .update u :: after →
      (u.memory.update digest u.now (.obj u.fields)
          (RoleMemory.runAll digest .empty before)).1 =
        .ok (merged (updatesOf u.memory.role (before ++ [.update u])))) ∧
    (MemoryStore.Steady ((updatesOf m.role events).map (·.now)) →
      (∀ t : Instant,
        (updatesOf m.role events).countP (fun u => u.now.micros = t.micros) ≤ 10000) →
      ∃ docs, m.history (RoleMemory.runAll digest .empty events) = .ok docs ∧
        docs.length = (updatesOf m.role events).length ∧
        ∀ (n : Nat) (u : Update), (updatesOf m.role events)[n]? = some u →
          ∃ doc, docs[n]? = some doc ∧
            doc.field? "state" = some (.obj (merged ((updatesOf m.role events).take (n + 1)))) ∧
            doc.field? "context" = some (.obj u.memory.context)) := by
  have hus : ∀ u ∈ updatesOf m.role events, u.Sound := fun u hu => hsound u (mem_updatesOf hu).1
  refine ⟨(Current.runAll digest hm hsound).load hus, ?_, fun hsteady hfew => ?_⟩
  · rintro before u after rfl
    have hu : u.Sound := hsound u (List.mem_append_right _ List.mem_cons_self)
    have hbefore : ∀ u', .update u' ∈ before → u'.Sound :=
      fun u' hu' => hsound u' (List.mem_append_left _ hu')
    have hload := (Current.runAll digest hu.name hbefore).load
      fun u' hu' => hbefore u' (mem_updatesOf hu').1
    have hown : Event.updateOf? u.memory.role (.update u) = some u := if_pos rfl
    rw [update_of_load_ok hu.name.isAllowed hload, updatesOf_append, hown, Option.toList_some,
      merged_append]
  · have hyears : ∀ u ∈ updatesOf m.role events, u.now.HasPlainYear :=
      fun u hu => hsteady.years _ (List.mem_map_of_mem hu)
    obtain ⟨vs, hrecorded⟩ := Recorded.runAll digest hm hsound hyears
    refine ⟨_, hrecorded.history hm hus hsteady hfew, length_documentsFrom _ _, fun n u hu => ?_⟩
    rw [getElem?_documentsFrom, hu]
    exact ⟨_, rfl, rfl, rfl⟩

end

/-! ## Two roles -/

instance (role : RoleName) : Decidable (IsPlainName role) :=
  List.decidableBAll (fun c : Char => c.isAlphanum = true ∨ c = '_' ∨ c = '-') role.toList

/-- A role with two updates in one microsecond, and another one with an update between them. -/
def interleaved : List Event :=
  [.update ⟨new "user", ⟨0⟩, [("x", .num (.int 1))]⟩,
    .share ⟨new "user", ⟨0⟩, "user_story", .bool true⟩,
    .update ⟨⟨"user_story", [("goal", .str "tell")]⟩, ⟨0⟩, [("x", .num (.int 2)), ("z", .null)]⟩,
    .update ⟨new "user", ⟨999⟩, [("x", .num (.int 3)), ("y", .arr [])]⟩]

theorem sound_interleaved : ∀ u, .update u ∈ interleaved → u.Sound := by
  intro u hu
  simp only [interleaved, List.mem_cons, Event.update.injEq, reduceCtorEq, false_or, List.not_mem_nil,
    or_false] at hu
  rcases hu with rfl | rfl | rfl
  · exact ⟨by decide, by decide +kernel, rfl, by decide, by decide⟩
  · exact ⟨by decide, by decide +kernel, by decide +kernel, by decide, by decide⟩
  · exact ⟨by decide, by decide +kernel, rfl, by decide, by decide⟩

/-- The first role remembers both of its updates, and nothing of the other. -/
theorem remembers_interleaved :
    IsPlainName "user" ∧ (∀ u, .update u ∈ interleaved → u.Sound) ∧
      (new "user").load (runAll (fun _ => "") .empty interleaved) =
        .ok [("x", .num (.int 3)), ("y", .arr [])] ∧
      ∃ doc doc', (new "user").history (runAll (fun _ => "") .empty interleaved) =
          .ok [doc, doc'] ∧
        doc.field? "state" = some (.obj [("x", .num (.int 1))]) ∧
        doc'.field? "state" = some (.obj [("x", .num (.int 3)), ("y", .arr [])]) := by
  have hname : IsPlainName "user" := by decide
  obtain ⟨hload, -, hhistory⟩ :=
    remembers (fun _ => "") (new "user") interleaved hname sound_interleaved
  have hsteady : MemoryStore.Steady ((updatesOf "user" interleaved).map (·.now)) := by
    refine ⟨fun t ht => ?_, by decide⟩
    rcases List.mem_cons.1 ht with rfl | ht
    · exact MemoryStore.hasPlainYear_of_nonneg (by decide) (by decide)
    · obtain rfl := List.mem_singleton.1 ht
      exact MemoryStore.hasPlainYear_of_nonneg (by decide) (by decide)
  obtain ⟨docs, hdocs, hlength, hstates⟩ := hhistory hsteady fun t =>
    Nat.le_trans List.countP_le_length (by decide)
  obtain ⟨doc, doc', rfl⟩ := List.length_eq_two.1 hlength
  obtain ⟨_, hfirst, hstate, -⟩ := hstates 0 _ rfl
  obtain ⟨_, hsecond, hstate', -⟩ := hstates 1 _ rfl
  obtain rfl := Option.some.inj hfirst
  obtain rfl := Option.some.inj hsecond
  refine ⟨hname, sound_interleaved, hload.trans ?_, doc, doc', hdocs, hstate.trans ?_,
    hstate'.trans ?_⟩
  · decide +kernel
  · decide +kernel
  · decide +kernel

/-- A role with one update, at the beginning of the year 10000. -/
def farFuture : List Event :=
  [.update ⟨new "user", ⟨253402300800000000000⟩, [("x", .num (.int 1))]⟩]

/-- A year of five digits is stamped with a sign, and the version is not among those that are found:
the state is there, but not in the history. -/
theorem not_recorded_farFuture :
    IsPlainName "user" ∧ (∀ u, .update u ∈ farFuture → u.Sound) ∧
      ((updatesOf "user" farFuture).map (·.now)).Pairwise (fun t t' => t.nanos ≤ t'.nanos) ∧
      (∀ t : Instant, (updatesOf "user" farFuture).countP (fun u => u.now.micros = t.micros) ≤ 1) ∧
      (updatesOf "user" farFuture).length = 1 ∧
      ((new "user").load (runAll (fun _ => "") .empty farFuture)).toOption =
        some [("x", .num (.int 1))] ∧
      ((new "user").history (runAll (fun _ => "") .empty farFuture)).toOption = some [] := by
  refine ⟨by decide, fun u hu => ?_, by decide, fun t => List.countP_le_length, rfl,
    by decide +kernel, by decide +kernel⟩
  simp only [farFuture, List.mem_cons, Event.update.injEq, List.not_mem_nil, or_false] at hu
  subst hu
  exact ⟨by decide, by decide +kernel, rfl, by decide, by decide⟩

end Taskweave.RoleMemory
