import Taskweave.Proofs.Disk.Descent
import Taskweave.Proofs.Store.Listing

/-!
# Plain keys

A set of keys is plain (`Key.IsPlain`) if it can be the files of a tree of folders as it stands: the
names of its keys lead down, and none of the keys is that of a folder in which another one would be
(`Key.IsAbove`). Beside a key are the keys that have another name behind the same lead
(`Key.folder?_eq_iff`).
-/

namespace Taskweave

namespace Key

/-- A key stands above another one, as the path of a folder does above the paths of its files. -/
def IsAbove (path key : String) : Prop := (path ++ "/").toList <+: key.toList

instance (path key : String) : Decidable (IsAbove path key) :=
  inferInstanceAs (Decidable ((path ++ "/").toList <+: key.toList))

/-- The keys have names that are neither empty nor points, and no backslashes or NULs, and none is above
another one. -/
structure IsPlain (ks : List String) : Prop where
  names : ∀ k ∈ ks, ∀ name ∈ Path.names k, name ≠ "" ∧ name ≠ "." ∧ name ≠ ".."
  chars : ∀ k ∈ ks, '\\' ∉ k.toList ∧ '\x00' ∉ k.toList
  apart : ∀ k ∈ ks, ∀ k' ∈ ks, ¬IsAbove k k'

section
variable {path key name : String} {ks : List String} {q r : Disk.Place}

/-! ## Keys above others -/

theorem isAbove_iff : IsAbove path key ↔ ∃ rest, key = path ++ "/" ++ rest := by
  constructor
  · rintro ⟨rest, hrest⟩
    refine ⟨String.ofList rest, ?_⟩
    rw [← String.toList_inj, String.toList_append (t := String.ofList rest), String.toList_ofList, hrest]
  · rintro ⟨rest, rfl⟩
    rw [IsAbove, String.toList_append (s := path ++ "/")]
    exact List.prefix_append _ _

/-- The names of a key above another one are the first ones of that. -/
theorem IsAbove.names (h : IsAbove path key) :
    ∃ ns, ns ≠ [] ∧ Path.names key = Path.names path ++ ns := by
  obtain ⟨rest, rfl⟩ := isAbove_iff.1 h
  exact ⟨_, Path.names_ne_nil rest, Path.names_append_slash path rest⟩

/-- Some of the first names of a key make a key above it. -/
theorem isAbove_keyOf (hq : q ≠ []) (hway : q <+: Path.names key) (hne : q ≠ Path.names key) :
    IsAbove (Disk.keyOf q) key := by
  obtain ⟨ns, hns⟩ := hway
  have hnil : ns ≠ [] := by
    rintro rfl
    exact hne (by rwa [List.append_nil] at hns)
  refine isAbove_iff.2 ⟨Disk.keyOf ns, ?_⟩
  rw [← Disk.keyOf_append hq hnil, hns]
  exact (Path.intercalate_names key).symm

/-- The folders above a key are those on the way to its last name. -/
theorem isAbove_iff_names : IsAbove path key ↔
    Path.names path <+: Path.names key ∧ Path.names path ≠ Path.names key := by
  constructor
  · intro h
    obtain ⟨ns, hns, hnames⟩ := h.names
    rw [hnames]
    exact ⟨List.prefix_append _ _, fun heq => hns (List.self_eq_append_right.1 heq)⟩
  · rintro ⟨hway, hne⟩
    have habove := isAbove_keyOf (Path.names_ne_nil path) hway hne
    rwa [Disk.keyOf, Path.intercalate_names] at habove

/-! ## Plain keys -/

/-- The names of plain keys lead down. -/
theorem IsPlain.isName (h : IsPlain ks) (hk : key ∈ ks) : ∀ name ∈ Path.names key, Disk.IsName name := by
  intro name hname
  obtain ⟨hempty, hpoint, hup⟩ := h.names key hk name hname
  refine ⟨?_, hup, Path.slash_notMem_of_mem_names hname⟩
  simp [Path.isStep, Path.isVoid, hempty, hpoint]

theorem IsPlain.isAllowed (h : IsPlain ks) (hk : key ∈ ks) : isAllowed key = true :=
  isAllowed_of_names (fun name hname => ⟨(h.names key hk name hname).1, (h.names key hk name hname).2.2⟩)
    (h.chars key hk).1

/-! ## Keys beside others -/

/-- A key is its lead with a last name behind it. -/
theorem exists_lead (key : String) : ∃ name, '/' ∉ name.toList ∧ key = lead key ++ name := by
  rw [lead, folder?]
  cases h : split? key with
  | none => exact ⟨key, of_split?_none h, (String.empty_append).symm⟩
  | some parts =>
    obtain ⟨hkey, hlast⟩ := of_split? h
    exact ⟨parts.2, hlast, hkey⟩

theorem folder?_lead_append (hname : '/' ∉ name.toList) (key : String) :
    folder? (lead key ++ name) = folder? key := by
  obtain ⟨last, hlast, hkey⟩ := exists_lead key
  have hlead : folder? key = folder? (lead key) := by
    have hchars : key.toList = (lead key).toList ++ last.toList := by
      rw [← String.toList_append, ← hkey]
    exact folder?_append hchars hlast
  rw [hlead]
  exact folder?_append String.toList_append hname

/-- The keys beside a key have its lead. -/
theorem folder?_eq_iff :
    folder? path = folder? key ↔ ∃ name, '/' ∉ name.toList ∧ path = lead key ++ name := by
  constructor
  · intro h
    obtain ⟨name, hname, hpath⟩ := exists_lead path
    refine ⟨name, hname, ?_⟩
    rwa [lead, h, ← lead] at hpath
  · rintro ⟨name, hname, rfl⟩
    exact folder?_lead_append hname key

end

end Key

end Taskweave
