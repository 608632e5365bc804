import Mathlib.Data.List.Induction
import Taskweave.Proofs.Json.Rereading
import Taskweave.Proofs.Store.Memory
import Taskweave.Store.RoleMemory

/-!
# What one role hands to another

A `Handover` is a value that a role hands to another one. A store keeps the last handover under a key
that is made from the names of the two roles (`RoleMemory.find?_handOverAll`), and the receiver reads
it back as it was handed over, since a document of a value that is read back is read back as well,
unless the one level that it adds is one too many (`RoleMemory.read?_document`).

The key does not tell the names apart where they have underscores. So what a role hears from another
is what that one handed over last exactly as long as no other pair has used the same key since
(`RoleMemory.sharedFrom_eq_latest_iff`). With names that have no underscore no other pair can
(`RoleMemory.eq_of_sharedPath_eq`).
-/

namespace Taskweave.RoleMemory

/-- A value that the role of a memory hands to another. -/
structure Handover where
  memory : RoleMemory
  now : Instant
  receiver : RoleName
  data : Json

namespace Handover

/-- The key of a handover. -/
def path (h : Handover) : String := sharedPath h.memory.role h.receiver

/-- The document of a handover. -/
def document (h : Handover) : Json :=
  .obj [("data", h.data), ("from_role", .str h.memory.role),
    ("timestamp", .str h.now.rfc3339Offset), ("to_role", .str h.receiver)]

/-- The handover is from one given role to another. -/
def IsBetween (sender receiver : RoleName) (h : Handover) : Prop :=
  h.memory.role = sender ∧ h.receiver = receiver

instance (sender receiver : RoleName) (h : Handover) : Decidable (h.IsBetween sender receiver) :=
  inferInstanceAs (Decidable (_ ∧ _))

end Handover

/-- Hands a value over in a store. -/
def handOver (s : MemoryStore) (h : Handover) : MemoryStore :=
  (h.memory.share h.now h.receiver h.data s).2

/-- Hands values over one after the other. -/
def handOverAll (s : MemoryStore) (hs : List Handover) : MemoryStore := hs.foldl handOver s

/-- The last handover under a key. -/
def lastUnder? (key : String) (hs : List Handover) : Option Handover :=
  (hs.filter fun h => h.path = key).getLast?

/-- The last handover between two roles. -/
def latest? (sender receiver : RoleName) (hs : List Handover) : Option Handover :=
  (hs.filter fun h => h.IsBetween sender receiver).getLast?

section
variable {m : RoleMemory} {s : MemoryStore} {sender receiver sender' receiver' : RoleName}
  {key : String} {h h' : Handover} {hs : List Handover}

/-! ## Keys -/

/-- Names without underscores can be told from their key. -/
theorem eq_of_sharedPath_eq (hsender : '_' ∉ sender.toList) (hreceiver : '_' ∉ receiver.toList)
    (heq : sharedPath sender' receiver' = sharedPath sender receiver) :
    sender' = sender ∧ receiver' = receiver := by
  have hlist := congrArg String.toList heq
  simp only [sharedPath, String.toList_append, List.append_assoc, List.append_cancel_left_eq] at hlist
  rw [← List.append_assoc, ← List.append_assoc, ← List.append_assoc, ← List.append_assoc,
    List.append_cancel_right_eq, List.append_assoc, List.append_assoc] at hlist
  obtain ⟨hs, -, hr⟩ := (List.append_cons_inj_of_notMem hsender hreceiver).1 hlist.symm
  exact ⟨String.toList_inj.1 hs.symm, String.toList_inj.1 hr.symm⟩

theorem Handover.IsBetween.path_eq (hbetween : h.IsBetween sender receiver) :
    h.path = sharedPath sender receiver := by
  rw [Handover.path, hbetween.1, hbetween.2]

/-! ## Documents -/

/-- A document is one level deeper than what is handed over. -/
theorem depth_document (h : Handover) : h.document.depth = h.data.depth + 1 := by
  simp [Handover.document, Json.depth, Json.depthFields]

/-- A document is read back where what is handed over is, unless it is nested too deeply. -/
theorem read?_document (hdata : Json.read? h.data.compact = some h.data) :
    Json.read? h.document.compact = if h.data.depth < Json.maxDepth then some h.document else none := by
  have hreread : h.document.reread? = some h.document := by
    have hascending : ["data", "from_role", "timestamp", "to_role"].Pairwise (· < ·) := by
      decide +kernel
    refine Json.reread?_obj hascending ?_
    simp [Json.rereadFields?, (Json.read?_compact_eq_some_iff.1 hdata).2, Json.reread?]
  rw [Json.read?_compact, Json.rereadWithin?, hreread, depth_document]
  rfl

/-! ## The store -/

/-- An accepted handover is kept under its key. -/
theorem handOver_eq (haccepted : Key.isAllowed h.path = true) :
    handOver s h = s.set h.path h.document.compact := by
  rw [handOver, share, MemoryStore.write_eq]
  exact congrArg Prod.snd (MemoryStore.put_of_isAllowed haccepted)

theorem lastUnder?_append (key : String) (hs : List Handover) (h : Handover) :
    lastUnder? key (hs ++ [h]) = if h.path = key then some h else lastUnder? key hs := by
  rw [lastUnder?, List.filter_append]
  by_cases hkey : h.path = key
  · simp [hkey]
  · simp [hkey, lastUnder?]

/-- Under each key is the document of the last handover under it. -/
theorem find?_handOverAll (haccepted : ∀ h ∈ hs, Key.isAllowed h.path = true) :
    (handOverAll s hs).find? key =
      ((lastUnder? key hs).map fun h => h.document.compact).or (s.find? key) := by
  induction hs using List.reverseRecOn with
  | nil => rfl
  | append_singleton hs h ih =>
    obtain ⟨hbefore, hlast⟩ := List.forall_mem_append.1 haccepted
    have hfold : handOverAll s (hs ++ [h]) = handOver (handOverAll s hs) h := by
      rw [handOverAll, List.foldl_append]
      rfl
    rw [hfold, handOver_eq (hlast h (List.mem_singleton_self h)), MemoryStore.find?_set, ih hbefore,
      lastUnder?_append]
    by_cases hkey : h.path = key
    · rw [if_pos hkey.symm, if_pos hkey]
      rfl
    · rw [if_neg (Ne.symm hkey), if_neg hkey]

/-- What a role hears from another is the document of the last handover under their key. -/
theorem sharedFrom_handOverAll (hnew : s.find? (sharedPath sender m.role) = none)
    (haccepted : ∀ h ∈ hs, Key.isAllowed h.path = true)
    (hdata : ∀ h ∈ hs, Json.read? h.data.compact = some h.data) :
    m.sharedFrom sender (handOverAll s hs) =
      match lastUnder? (sharedPath sender m.role) hs with
      | none => .ok none
      | some h => if h.data.depth < Json.maxDepth then .ok (some h.document) else .error .json := by
  rw [sharedFrom, MemoryStore.read_eq, find?_handOverAll haccepted, hnew]
  cases hlast : lastUnder? (sharedPath sender m.role) hs with
  | none => rfl
  | some h =>
    have hmem : h ∈ hs := List.mem_of_mem_filter (List.mem_of_getLast? hlast)
    simp only [Option.map_some, Option.some_or, parse, read?_document (hdata h hmem)]
    by_cases hdepth : h.data.depth < Json.maxDepth
    · rw [if_pos hdepth, if_pos hdepth]
      rfl
    · rw [if_neg hdepth, if_neg hdepth]
      rfl

/-! ## Channels -/

/-- Where the last handover under the key of two roles is between them, it is their latest. -/
theorem latest?_eq_of_lastUnder? (hlast : lastUnder? (sharedPath sender receiver) hs = some h)
    (hbetween : h.IsBetween sender receiver) : latest? sender receiver hs = some h := by
  obtain ⟨before, hfilter⟩ := List.getLast?_eq_some_iff.1 hlast
  have hboth : hs.filter (fun h => h.IsBetween sender receiver) =
      (hs.filter fun h => h.path = sharedPath sender receiver).filter
        fun h => h.IsBetween sender receiver := by
    rw [List.filter_filter]
    refine List.filter_congr fun h _ => ?_
    by_cases hpair : h.IsBetween sender receiver
    · simp [hpair, hpair.path_eq]
    · simp [hpair]
  rw [latest?, hboth, hfilter, List.filter_append, List.filter_singleton, decide_eq_true hbetween]
  simp

/-- Roles that have not used their key have handed nothing over. -/
theorem latest?_eq_none (hlast : lastUnder? (sharedPath sender receiver) hs = none) :
    latest? sender receiver hs = none := by
  rw [lastUnder?, List.getLast?_eq_none_iff, List.filter_eq_nil_iff] at hlast
  rw [latest?, List.getLast?_eq_none_iff, List.filter_eq_nil_iff]
  intro h hmem hbetween
  exact hlast h hmem (decide_eq_true (of_decide_eq_true hbetween).path_eq)

theorem isBetween_of_latest? (hlatest : latest? sender receiver hs = some h) :
    h.IsBetween sender receiver := by
  have hmem := List.mem_of_getLast? hlatest
  rw [List.mem_filter] at hmem
  exact of_decide_eq_true hmem.2

/-- What a role hears from another is what that one handed over last, and nothing if it never did,
exactly when the last handover under their key is between them and can be read. No other names have
the key of names without underscores. -/
theorem sharedFrom_eq_latest_iff (m : RoleMemory) (sender : RoleName)
    (hnew : s.find? (sharedPath sender m.role) = none)
    (haccepted : ∀ h ∈ hs, Key.isAllowed h.path = true)
    (hdata : ∀ h ∈ hs, Json.read? h.data.compact = some h.data) :
    (m.sharedFrom sender (handOverAll s hs) =
        .ok ((latest? sender m.role hs).map Handover.document) ↔
      ∀ h, lastUnder? (sharedPath sender m.role) hs = some h →
        h.IsBetween sender m.role ∧ h.data.depth < Json.maxDepth) ∧
    ('_' ∉ sender.toList → '_' ∉ m.role.toList → (∀ h ∈ hs, h.data.depth < Json.maxDepth) →
      m.sharedFrom sender (handOverAll s hs) =
        .ok ((latest? sender m.role hs).map Handover.document)) := by
  have hiff : m.sharedFrom sender (handOverAll s hs) =
        .ok ((latest? sender m.role hs).map Handover.document) ↔
      ∀ h, lastUnder? (sharedPath sender m.role) hs = some h →
        h.IsBetween sender m.role ∧ h.data.depth < Json.maxDepth := by
    rw [sharedFrom_handOverAll hnew haccepted hdata]
    cases hlast : lastUnder? (sharedPath sender m.role) hs with
    | none =>
      rw [latest?_eq_none hlast]
      exact iff_of_true rfl nofun
    | some h =>
      simp only [Option.some.injEq, forall_eq']
      constructor
      · intro heq
        split at heq
        · next hdepth =>
          refine ⟨?_, hdepth⟩
          -- The document names both roles.
          obtain ⟨h', hlatest, hdocument⟩ := Option.map_eq_some_iff.1 (Except.ok.inj heq).symm
          have hbetween := isBetween_of_latest? hlatest
          simp only [Handover.document, Json.obj.injEq, List.cons.injEq, Prod.mk.injEq, true_and,
            Json.str.injEq, and_true] at hdocument
          exact ⟨hdocument.2.1 ▸ hbetween.1, hdocument.2.2.2 ▸ hbetween.2⟩
        · cases heq
      · rintro ⟨hbetween, hdepth⟩
        rw [if_pos hdepth, latest?_eq_of_lastUnder? hlast hbetween]
        rfl
  refine ⟨hiff, fun hsender hrole hshallow => hiff.2 fun h hlast => ?_⟩
  have hmem := List.mem_filter.1 (List.mem_of_getLast? hlast)
  exact ⟨eq_of_sharedPath_eq hsender hrole (of_decide_eq_true hmem.2), hshallow h hmem.1⟩

end

/-! ## Two pairs -/

/-- A role with an underscore in its name hears from another, and the other from it. -/
def conversation : List Handover :=
  [⟨.new "architect", ⟨0⟩, "user_story", .obj [("layers", .num (.int 3))]⟩,
    ⟨.new "user_story", ⟨1⟩, "architect", .null⟩,
    ⟨.new "architect", ⟨2⟩, "user_story", .arr [.str "done"]⟩]

/-- The role hears what was handed over last. -/
theorem sharedFrom_conversation :
    (MemoryStore.empty.find? (sharedPath "architect" "user_story") = none ∧
      (∀ h ∈ conversation, Key.isAllowed h.path = true) ∧
      (∀ h ∈ conversation, Json.read? h.data.compact = some h.data)) ∧
    (new "user_story").sharedFrom "architect" (handOverAll .empty conversation) =
      .ok (some (.obj [("data", .arr [.str "done"]), ("from_role", .str "architect"),
        ("timestamp", .str (Instant.rfc3339Offset ⟨2⟩)), ("to_role", .str "user_story")])) := by
  have haccepted : ∀ h ∈ conversation, Key.isAllowed h.path = true := by decide +kernel
  have hdata : ∀ h ∈ conversation, Json.read? h.data.compact = some h.data := by decide +kernel
  refine ⟨⟨rfl, haccepted, hdata⟩, ?_⟩
  refine (sharedFrom_eq_latest_iff (new "user_story") "architect" rfl haccepted hdata).1.2 ?_
  intro h hlast
  obtain rfl := Option.some.inj hlast
  exact ⟨⟨rfl, rfl⟩, by decide⟩

/-- What one role hands to another under a key that two others share with them. -/
def misdirected : Handover := ⟨.new "user_story", ⟨0⟩, "writer", .obj [("x", .num (.int 1))]⟩

/-- A role hears from another, which has handed nothing over, what a third one has handed to a
fourth, since the names have the same key. -/
theorem sharedFrom_misdirected :
    MemoryStore.empty.find? (sharedPath "user" "story_writer") = none ∧
      Key.isAllowed misdirected.path = true ∧
      Json.read? misdirected.data.compact = some misdirected.data ∧
      latest? "user" "story_writer" [misdirected] = none ∧
      (new "story_writer").sharedFrom "user" (handOverAll .empty [misdirected]) =
        .ok (some misdirected.document) ∧
      misdirected.document.field? "from_role" = some (.str "user_story") ∧
      misdirected.document.field? "to_role" = some (.str "writer") := by
  have haccepted : ∀ h ∈ [misdirected], Key.isAllowed h.path = true := by decide +kernel
  have hdata : ∀ h ∈ [misdirected], Json.read? h.data.compact = some h.data := by decide +kernel
  refine ⟨rfl, haccepted _ (List.mem_singleton_self _), hdata _ (List.mem_singleton_self _), rfl, ?_,
    rfl, rfl⟩
  rw [sharedFrom_handOverAll rfl haccepted hdata]
  rfl

end Taskweave.RoleMemory
