import Mathlib.Data.List.Basic
import Taskweave.Disk.Path
import Taskweave.Proofs.Store.Keys

/-!
# The steps of a path

What a path does is in its names that are not void: its steps. Those of a path beneath another one are
those of both (`Path.steps_join`), and the parent of an absolute path has all of them but the last
(`Path.steps_parent`), also where the last one is that of the path above.

A key is cut at backslashes too when it is checked, so that no step of an allowed key goes up
(`Key.up_notMem_names`).
-/

namespace Taskweave

/-! ## Pieces -/

namespace Text

/-- The pieces of a text are those of its list of characters. -/
theorem piecesFrom_eq (isCut : Char → Bool) (read : List String) (piece cs : List Char) :
    piecesFrom isCut read piece cs =
      read.reverse ++ (cs.splitOnPPrepend isCut piece).map String.ofList := by
  induction cs generalizing read piece with
  | nil => simp [piecesFrom]
  | cons c cs ih =>
    rw [piecesFrom, List.splitOnPPrepend_cons_eq_if]
    split
    · rw [ih]
      simp
    · rw [ih]

theorem pieces_eq (isCut : Char → Bool) (s : String) :
    pieces isCut s = (s.toList.splitOnP isCut).map String.ofList :=
  piecesFrom_eq isCut [] [] s.toList

theorem pieces_ne_nil (isCut : Char → Bool) (s : String) : pieces isCut s ≠ [] := by
  rw [pieces_eq, Ne, List.map_eq_nil_iff]
  exact List.splitOnP_ne_nil _ _

/-- There is nothing to cut in a piece. -/
theorem of_mem_splitOnP {p : Char → Bool} {cs piece : List Char} (h : piece ∈ cs.splitOnP p) :
    ∀ c ∈ piece, p c = false := by
  induction cs generalizing piece with
  | nil =>
    obtain rfl := List.mem_singleton.1 (List.splitOnP_nil (p := p) ▸ h)
    exact List.forall_mem_nil _
  | cons c cs ih =>
    rw [List.splitOnP_cons_eq_if_modifyHead] at h
    split at h
    · rcases List.mem_cons.1 h with rfl | h
      · exact List.forall_mem_nil _
      · exact ih h
    · next hc =>
      obtain ⟨a, as, ha⟩ := List.exists_cons_of_ne_nil (List.splitOnP_ne_nil p cs)
      rw [ha] at h ih
      rcases List.mem_cons.1 h with rfl | h
      · exact List.forall_mem_cons.2 ⟨Bool.eq_false_iff.2 hc, ih List.mem_cons_self⟩
      · exact ih (List.mem_cons_of_mem _ h)

/-- Cutting a text at more characters leaves the pieces as they are that have none of them. -/
theorem mem_splitOnP_of_imp {p q : Char → Bool} (hpq : ∀ c, p c = true → q c = true)
    {cs piece : List Char} (hpiece : ∀ c ∈ piece, q c = false) (h : piece ∈ cs.splitOnP p) :
    piece ∈ cs.splitOnP q := by
  -- The first piece is apart, since what comes before the text goes into it.
  have key : ∀ cs : List Char, ∃ a as b bs, cs.splitOnP p = a :: as ∧ cs.splitOnP q = b :: bs ∧
      ((∀ c ∈ a, q c = false) → a = b) ∧
        ∀ piece ∈ as, (∀ c ∈ piece, q c = false) → piece ∈ bs := by
    intro cs
    induction cs with
    | nil => exact ⟨[], [], [], [], rfl, rfl, fun _ => rfl, fun _ h _ => h⟩
    | cons c cs ih =>
      obtain ⟨a, as, b, bs, ha, hb, hfirst, hrest⟩ := ih
      rw [List.splitOnP_cons_eq_if_modifyHead, List.splitOnP_cons_eq_if_modifyHead, ha, hb]
      have hmem (piece : List Char) (hpiece : piece ∈ a :: as) (hcut : ∀ c ∈ piece, q c = false) :
          piece ∈ b :: bs := by
        rcases List.mem_cons.1 hpiece with rfl | hpiece
        · exact hfirst hcut ▸ List.mem_cons_self
        · exact List.mem_cons_of_mem _ (hrest piece hpiece hcut)
      cases hp : p c with
      | true =>
        rw [hpq c hp]
        exact ⟨[], _, [], _, rfl, rfl, fun _ => rfl, hmem⟩
      | false =>
        cases hq : q c with
        | true =>
          refine ⟨c :: a, as, [], _, rfl, rfl, fun hcut => ?_, fun piece hpiece hcut =>
            hmem piece (List.mem_cons_of_mem _ hpiece) hcut⟩
          rw [hcut c List.mem_cons_self] at hq
          cases hq
        | false =>
          refine ⟨c :: a, as, c :: b, bs, rfl, rfl, fun hcut => ?_, hrest⟩
          rw [hfirst fun c' hc' => hcut c' (List.mem_cons_of_mem _ hc')]
  obtain ⟨a, as, b, bs, ha, hb, hfirst, hrest⟩ := key cs
  rw [ha] at h
  rw [hb]
  rcases List.mem_cons.1 h with rfl | h
  · exact hfirst hpiece ▸ List.mem_cons_self
  · exact List.mem_cons_of_mem _ (hrest piece h hpiece)

/-- Every character that is not cut at is in a piece. -/
theorem exists_mem_splitOnP {p : Char → Bool} {cs : List Char} {c : Char} (hc : c ∈ cs)
    (hcut : p c = false) : ∃ piece ∈ cs.splitOnP p, c ∈ piece := by
  induction cs with
  | nil => cases hc
  | cons c' cs ih =>
    obtain ⟨a, as, ha⟩ := List.exists_cons_of_ne_nil (List.splitOnP_ne_nil p cs)
    rw [List.splitOnP_cons_eq_if_modifyHead, ha]
    rw [ha] at ih
    rcases List.mem_cons.1 hc with rfl | hc
    · rw [hcut]
      exact ⟨c :: a, List.mem_cons_self, List.mem_cons_self⟩
    · obtain ⟨piece, hpiece, hmem⟩ := ih hc
      split
      · exact ⟨piece, List.mem_cons_of_mem _ hpiece, hmem⟩
      · rcases List.mem_cons.1 hpiece with rfl | hpiece
        · exact ⟨c' :: piece, List.mem_cons_self, List.mem_cons_of_mem _ hmem⟩
        · exact ⟨piece, List.mem_cons_of_mem _ hpiece, hmem⟩

/-- And what is in a piece is in the text. -/
theorem mem_of_mem_splitOnP {p : Char → Bool} {cs piece : List Char} {c : Char}
    (hpiece : piece ∈ cs.splitOnP p) (hc : c ∈ piece) : c ∈ cs := by
  induction cs generalizing piece with
  | nil =>
    obtain rfl := List.mem_singleton.1 (List.splitOnP_nil (p := p) ▸ hpiece)
    cases hc
  | cons c' cs ih =>
    obtain ⟨a, as, ha⟩ := List.exists_cons_of_ne_nil (List.splitOnP_ne_nil p cs)
    rw [List.splitOnP_cons_eq_if_modifyHead, ha] at hpiece
    rw [ha] at ih
    split at hpiece
    · rcases List.mem_cons.1 hpiece with rfl | hpiece
      · cases hc
      · exact List.mem_cons_of_mem _ (ih hpiece hc)
    · rcases List.mem_cons.1 hpiece with rfl | hpiece
      · rcases List.mem_cons.1 hc with rfl | hc
        · exact List.mem_cons_self
        · exact List.mem_cons_of_mem _ (ih List.mem_cons_self hc)
      · exact List.mem_cons_of_mem _ (ih (List.mem_cons_of_mem _ hpiece) hc)

/-- Only the characters that there are count for the cuts. -/
theorem splitOnP_congr {p q : Char → Bool} {cs : List Char} (h : ∀ c ∈ cs, p c = q c) :
    cs.splitOnP p = cs.splitOnP q := by
  induction cs with
  | nil => rfl
  | cons c cs ih =>
    obtain ⟨hc, hcs⟩ := List.forall_mem_cons.1 h
    rw [List.splitOnP_cons_eq_if_modifyHead, List.splitOnP_cons_eq_if_modifyHead, hc, ih hcs]

end Text

namespace Path

/-- Whether a name leads to another place. -/
abbrev isStep (name : String) : Bool := !isVoid name

/-- The names of a path that are not void. -/
def steps (path : String) : List String := (names path).filter isStep

section
variable {base path name : String} {ns : List String}

/-! ## Names -/

theorem names_eq (path : String) : names path = (path.toList.splitOn '/').map String.ofList :=
  Text.pieces_eq _ path

theorem names_ne_nil (path : String) : names path ≠ [] := Text.pieces_ne_nil _ path

/-- There is no slash in a name. -/
theorem slash_notMem_of_mem_names (h : name ∈ names path) : '/' ∉ name.toList := by
  rw [names_eq, List.mem_map] at h
  obtain ⟨cs, hcs, rfl⟩ := h
  rw [String.toList_ofList]
  intro hslash
  have hcut := Text.of_mem_splitOnP hcs '/' hslash
  simp at hcut

/-- Two paths with a slash between them have the names of both. -/
theorem names_append_slash (base path : String) :
    names (base ++ "/" ++ path) = names base ++ names path := by
  have hlist : (base ++ "/" ++ path).toList = base.toList ++ '/' :: path.toList := by simp
  rw [names_eq, names_eq, names_eq, hlist, List.splitOn_append_cons_self, List.map_append]

/-- On the way to the last name of a path are its first names, but not all of them. -/
theorem isPrefix_dropLast_iff :
    ns <+: (names path).dropLast ↔ ns <+: names path ∧ ns ≠ names path := by
  constructor
  · intro h
    refine ⟨h.trans (List.dropLast_prefix _), fun heq => ?_⟩
    have hle := h.length_le
    have hpos := List.length_pos_of_ne_nil (names_ne_nil path)
    rw [heq, List.length_dropLast] at hle
    omega
  · rintro ⟨⟨more, hmore⟩, hne⟩
    have hnil : more ≠ [] := by
      rintro rfl
      exact hne (by rwa [List.append_nil] at hmore)
    rw [← hmore, List.dropLast_append_of_ne_nil hnil]
    exact List.prefix_append _ _

/-- A path is its names with slashes between them. -/
theorem intercalate_names (path : String) : "/".intercalate (names path) = path := by
  have hmap : ((path.toList.splitOn '/').map String.ofList).map String.toList =
      path.toList.splitOn '/' := by simp
  have hslash : "/".toList = ['/'] := rfl
  rw [← String.toList_inj, String.toList_intercalate, names_eq, hmap, hslash,
    List.intercalate_splitOn]

/-- And it has these names. -/
theorem names_intercalate (h : ns ≠ []) (hns : ∀ name ∈ ns, '/' ∉ name.toList) :
    names ("/".intercalate ns) = ns := by
  have hslash : "/".toList = ['/'] := rfl
  rw [names_eq, String.toList_intercalate, hslash, List.splitOn_intercalate]
  · simp
  · intro cs hcs
    obtain ⟨name, hname, rfl⟩ := List.mem_map.1 hcs
    exact hns name hname
  · simpa using h

/-- A text without a slash is one name. -/
theorem names_of_notMem (h : '/' ∉ path.toList) : names path = [path] :=
  names_intercalate (List.cons_ne_nil _ _) (List.forall_mem_singleton.2 h)

/-- A text that starts with a slash is a path from the top. -/
theorem isAbsolute_iff : isAbsolute path = true ↔ ∃ ns, names path = "" :: ns ∧ ns ≠ [] := by
  rw [isAbsolute, names_eq]
  cases h : path.toList with
  | nil => simp [List.splitOn]
  | cons c cs =>
    obtain ⟨a, as, ha⟩ := List.exists_cons_of_ne_nil (List.splitOn_ne_nil '/' cs)
    rw [List.splitOn, List.splitOnP_cons_eq_if_modifyHead, ← List.splitOn, ha]
    by_cases hc : c = '/'
    · simp [hc]
    · simp [hc]

/-! ## Steps -/

/-- All steps are kept. -/
theorem filter_steps (path : String) : (steps path).filter isStep = steps path := by
  rw [steps, List.filter_filter]
  simp

theorem slash_notMem_of_mem_steps (h : name ∈ steps path) : '/' ∉ name.toList :=
  slash_notMem_of_mem_names (List.mem_of_mem_filter h)

/-- Beneath another path a path keeps its names, whatever it is. -/
theorem exists_names_join (base : String) : ∃ ns, ns.filter isStep = steps base ∧
    ∀ path, names (join base path) = ns ++ names path := by
  by_cases h : base.isEmpty || base.toList.getLast? == some '/'
  · have hjoin (path : String) : join base path = base ++ path := if_pos h
    rw [Bool.or_eq_true, String.isEmpty_iff, beq_iff_eq] at h
    rcases h with rfl | h
    · refine ⟨[], by decide, fun path => ?_⟩
      rw [hjoin, String.empty_append]
      rfl
    · -- The slash is there already.
      obtain ⟨front, hfront⟩ := List.getLast?_eq_some_iff.1 h
      have hbase (path : String) : base ++ path = String.ofList front ++ "/" ++ path := by
        rw [← String.toList_inj, String.toList_append, hfront]
        simp
      refine ⟨names (String.ofList front), ?_, fun path => ?_⟩
      · have hempty : (names "").filter isStep = [] := by decide
        rw [steps, ← String.append_empty (s := base), hbase, names_append_slash, List.filter_append,
          hempty, List.append_nil]
      · rw [hjoin, hbase, names_append_slash]
  · refine ⟨names base, rfl, fun path => ?_⟩
    rw [join, if_neg h, names_append_slash]

/-- The steps of a path beneath another one are those of both. -/
theorem steps_join (base path : String) : steps (join base path) = steps base ++ steps path := by
  obtain ⟨ns, hns, hjoin⟩ := exists_names_join base
  rw [steps, hjoin, List.filter_append, hns]
  rfl

/-- A path beneath another one starts where that one does. -/
theorem isAbsolute_join (h : base ≠ "") (path : String) :
    isAbsolute (join base path) = isAbsolute base := by
  obtain ⟨c, cs, hbase⟩ := List.exists_cons_of_ne_nil (mt String.toList_eq_nil_iff.1 h)
  rw [join]
  split
  · rw [isAbsolute, isAbsolute, String.toList_append, hbase]
    rfl
  · rw [isAbsolute, isAbsolute, String.toList_append, String.toList_append, hbase]
    rfl

/-- A path beneath one that is not empty is not empty. -/
theorem join_ne_empty (h : base ≠ "") (path : String) : join base path ≠ "" := by
  rw [join]
  split
  · exact fun heq => h (String.append_eq_empty_iff.1 heq).1
  · intro heq
    exact h (String.append_eq_empty_iff.1 (String.append_eq_empty_iff.1 heq).1).1

/-- What is in a path beneath another one is in one of them, but for the slash. -/
theorem mem_of_mem_join {c : Char} (hslash : c ≠ '/') (h : c ∈ (join base path).toList) :
    c ∈ base.toList ∨ c ∈ path.toList := by
  rw [join] at h
  split at h
  · rwa [String.toList_append, List.mem_append] at h
  · rw [String.toList_append, String.toList_append, List.mem_append, List.mem_append] at h
    exact h.imp_left fun hc => hc.resolve_right fun hc => hslash (List.mem_singleton.1 hc)

/-- The names without the void ones at the end. -/
def untrailed (ns : List String) : List String := (trimmed ns).reverse

/-- What is left off at the end is void, and what is left is empty or ends in a name that is not. -/
theorem untrailed_append (ns : List String) :
    ∃ void, ns = untrailed ns ++ void ∧ (∀ name ∈ void, isVoid name = true) ∧
      (untrailed ns).getLast?.all isStep = true := by
  refine ⟨(ns.reverse.takeWhile isVoid).reverse, ?_, fun name hname => ?_, ?_⟩
  · rw [untrailed, trimmed, ← List.reverse_append, List.takeWhile_append_dropWhile,
      List.reverse_reverse]
  · exact List.all_eq_true.1 List.all_takeWhile name (List.mem_reverse.1 hname)
  · rw [untrailed, trimmed, List.getLast?_reverse]
    cases h : (ns.reverse.dropWhile isVoid).head? with
    | none => rfl
    | some name =>
      have hvoid := List.head?_dropWhile_not isVoid ns.reverse
      rw [h] at hvoid
      simpa using hvoid

theorem filter_untrailed (ns : List String) :
    (untrailed ns).filter isStep = ns.filter isStep := by
  obtain ⟨void, hns, hvoid, -⟩ := untrailed_append ns
  have hnone : void.filter isStep = [] :=
    List.filter_eq_nil_iff.2 fun name hname => by simp [hvoid name hname]
  conv_rhs => rw [hns, List.filter_append, hnone, List.append_nil]

theorem untrailed_isPrefix (ns : List String) : untrailed ns <+: ns := by
  obtain ⟨void, hns, -⟩ := untrailed_append ns
  exact ⟨void, hns.symm⟩

/-- The last name that is not void is the last step. -/
theorem filter_dropLast_untrailed (ns : List String) :
    (untrailed ns).dropLast.filter isStep =
      (ns.filter isStep).dropLast := by
  obtain ⟨-, -, -, hlast⟩ := untrailed_append ns
  rw [← filter_untrailed ns]
  rcases List.eq_nil_or_concat' (untrailed ns) with hnil | ⟨front, name, heq⟩
  · rw [hnil]
    rfl
  · rw [heq, List.getLast?_concat, Option.all_some] at hlast
    have hone : [name].filter isStep = [name] :=
      List.filter_eq_self.2 (List.forall_mem_singleton.2 hlast)
    rw [heq, List.filter_append, hone, List.dropLast_concat, List.dropLast_concat]

/-- Nothing is left off behind a step. -/
theorem untrailed_concat (h : isStep name = true) (ns : List String) :
    untrailed (ns ++ [name]) = ns ++ [name] := by
  rw [untrailed, trimmed, List.reverse_append, List.reverse_singleton, List.singleton_append,
    List.dropWhile_cons_of_neg (by simpa using h), List.reverse_cons, List.reverse_reverse]

/-- The names of a path without the last step and the void ones at the end. -/
def above (path : String) : List String := untrailed (untrailed (names path)).dropLast

theorem above_isPrefix (path : String) : above path <+: names path :=
  (untrailed_isPrefix _).trans ((List.dropLast_prefix _).trans (untrailed_isPrefix _))

/-- The parent of a path is made of the names above. Where there are none it has no steps. -/
theorem parent_cases (path : String) :
    above path ≠ [] ∧ names (parent path) = above path ∨
      above path = [] ∧ isAbsolute (parent path) = isAbsolute path ∧
        (parent path = "/" ∨ parent path = "." ∨ parent path = "") := by
  have habove : above path = (trimmed (trimmed (names path)).tail.reverse).reverse := by
    rw [above, untrailed, untrailed, List.dropLast_reverse]
  rw [parent]
  by_cases hrest : trimmed (trimmed (names path)).tail.reverse = []
  · right
    rw [habove, hrest]
    simp only [List.isEmpty_nil, Bool.not_true, Bool.false_eq_true, if_false]
    cases h : isAbsolute path with
    | true => exact ⟨rfl, show isAbsolute "/" = true by decide, .inl rfl⟩
    | false =>
      simp only [Bool.false_eq_true, if_false]
      split
      · exact ⟨rfl, by decide, .inr (.inl rfl)⟩
      · exact ⟨rfl, by decide, .inr (.inr rfl)⟩
  · left
    have hne : above path ≠ [] := by rw [habove, Ne, List.reverse_eq_nil_iff]; exact hrest
    refine ⟨hne, ?_⟩
    rw [if_pos (by simpa using hrest), ← habove, names_intercalate hne]
    exact fun name hname => slash_notMem_of_mem_names ((above_isPrefix path).subset hname)

/-- The parent of a path starts where the path does. -/
theorem isAbsolute_parent (path : String) : isAbsolute (parent path) = isAbsolute path := by
  rcases parent_cases path with ⟨hne, hnames⟩ | ⟨-, habsolute, -⟩
  · obtain ⟨name, ns, habove⟩ := List.exists_cons_of_ne_nil hne
    obtain ⟨more, hmore⟩ := above_isPrefix path
    obtain ⟨-, -, -, hlast⟩ := untrailed_append (untrailed (names path)).dropLast
    rw [← above, habove] at hlast
    rw [habove] at hnames hmore
    rw [Bool.eq_iff_iff, isAbsolute_iff, isAbsolute_iff, hnames, ← hmore]
    simp only [List.cons_append, List.cons.injEq]
    constructor
    · rintro ⟨ns', ⟨rfl, rfl⟩, hns⟩
      exact ⟨_, ⟨rfl, rfl⟩, List.append_ne_nil_of_left_ne_nil hns _⟩
    · rintro ⟨ns', ⟨rfl, rfl⟩, -⟩
      refine ⟨_, ⟨rfl, rfl⟩, ?_⟩
      rintro rfl
      exact absurd hlast (by decide)
  · exact habsolute

/-- What a parent is made of is in the path. -/
theorem mem_of_mem_parent {c : Char} (hslash : c ≠ '/') (hpoint : c ≠ '.')
    (h : c ∈ (parent path).toList) : c ∈ path.toList := by
  have hcut : (c == '/') = false := beq_eq_false_iff_ne.2 hslash
  rcases parent_cases path with ⟨-, hnames⟩ | ⟨-, -, hparent⟩
  · obtain ⟨piece, hpiece, hmem⟩ := Text.exists_mem_splitOnP (p := (· == '/')) h hcut
    have hname : String.ofList piece ∈ names path := by
      refine (above_isPrefix path).subset (hnames ▸ ?_)
      rw [names_eq]
      exact List.mem_map_of_mem hpiece
    rw [names_eq, List.mem_map] at hname
    obtain ⟨piece', hpiece', heq⟩ := hname
    rw [String.ofList_inj] at heq
    exact Text.mem_of_mem_splitOnP hpiece' (heq ▸ hmem)
  · rcases hparent with hparent | hparent | hparent
    · rw [hparent] at h
      exact absurd (List.mem_singleton.1 h) hslash
    · rw [hparent] at h
      exact absurd (List.mem_singleton.1 h) hpoint
    · rw [hparent] at h
      cases h

/-- Only of a path with one name at most the parent is empty. -/
theorem dropLast_eq_nil_of_parent (h : parent path = "") : (untrailed (names path)).dropLast = [] := by
  rcases parent_cases path with ⟨-, hnames⟩ | ⟨hnil, habsolute, -⟩
  · obtain ⟨-, -, -, hlast⟩ := untrailed_append (untrailed (names path)).dropLast
    rw [← above, ← hnames, h] at hlast
    exact absurd hlast (by decide)
  · cases hfront : (untrailed (names path)).dropLast with
    | nil => rfl
    | cons name ns =>
      -- The first name is void, but no point and not that of a path from the top.
      exfalso
      have hvoid : isVoid name = true := by
        have hsteps := filter_untrailed (untrailed (names path)).dropLast
        rw [← above, hnil, hfront, eq_comm] at hsteps
        simpa using List.filter_eq_nil_iff.1 hsteps name List.mem_cons_self
      have htail : (trimmed (names path)).tail.getLast? = some name := by
        rw [← List.head?_reverse, ← List.dropLast_reverse, ← untrailed, hfront, List.head?_cons]
      have hrest : trimmed (trimmed (names path)).tail.reverse = [] := by
        rw [← List.reverse_eq_nil_iff, ← untrailed, ← List.dropLast_reverse, ← untrailed]
        exact hnil
      rw [h] at habsolute
      have hrelative : isAbsolute path = false := habsolute.symm
      rw [parent, hrest, htail, hrelative] at h
      simp only [List.isEmpty_nil, Bool.not_true, Bool.false_eq_true, if_false] at h
      have hpoint : name ≠ "." := by
        rintro rfl
        exact absurd h (by decide)
      have hempty : name = "" := by
        rw [isVoid, Bool.or_eq_true, String.isEmpty_iff, beq_iff_eq] at hvoid
        exact hvoid.resolve_right hpoint
      rw [Bool.eq_false_iff, Ne, isAbsolute_iff] at hrelative
      refine hrelative ?_
      obtain ⟨last, hlast⟩ : ∃ last, untrailed (names path) = name :: ns ++ [last] := by
        rcases List.eq_nil_or_concat' (untrailed (names path)) with heq | ⟨front, last, heq⟩
        · rw [heq] at hfront
          cases hfront
        · rw [heq, List.dropLast_concat] at hfront
          exact ⟨last, by rw [heq, hfront]⟩
      obtain ⟨more, hmore⟩ := untrailed_isPrefix (names path)
      rw [hlast, hempty] at hmore
      exact ⟨ns ++ [last] ++ more, hmore.symm, by simp⟩

/-- The parent of a path beneath one that is not empty is not empty, if the path ends in a step. -/
theorem parent_join_ne_empty (h : base ≠ "") (hlast : (names path).getLast?.all isStep = true) :
    parent (join base path) ≠ "" := by
  intro hparent
  obtain ⟨ns, -, hjoin⟩ := exists_names_join base
  obtain ⟨front, last, hnames⟩ :=
    (List.eq_nil_or_concat' (names path)).resolve_left (names_ne_nil path)
  rw [hnames, List.getLast?_concat, Option.all_some] at hlast
  have hnone := dropLast_eq_nil_of_parent hparent
  rw [hjoin, hnames, ← List.append_assoc, untrailed_concat hlast, List.dropLast_concat,
    List.append_eq_nil_iff] at hnone
  refine join_ne_empty h "" ?_
  rw [← intercalate_names (join base ""), hjoin, hnone.1]
  decide

/-- The parent of a path has its steps but for the last one. -/
theorem steps_parent (path : String) : steps (parent path) = (steps path).dropLast := by
  have habove : (above path).filter isStep = (steps path).dropLast := by
    rw [above, filter_untrailed, filter_dropLast_untrailed]
    rfl
  rcases parent_cases path with ⟨-, hnames⟩ | ⟨hnil, -, hparent⟩
  · rw [steps, hnames, habove]
  · rw [← habove, hnil]
    rcases hparent with h | h | h
    · rw [h]
      decide
    · rw [h]
      decide
    · rw [h]
      decide

/-- The parent of a path beneath another one has the steps of both but for the last one. -/
theorem steps_parent_join (h : steps path ≠ []) (base : String) :
    steps (parent (join base path)) = steps base ++ (steps path).dropLast := by
  rw [steps_parent, steps_join, List.dropLast_append_of_ne_nil h]

/-- The parent of a path has no void names at the end, or no others. -/
theorem names_parent_last (path : String) :
    (names (parent path)).getLast?.all isStep = true ∨
      steps (parent path) = [] := by
  rcases parent_cases path with ⟨-, hnames⟩ | ⟨hnil, -, hparent⟩
  · left
    obtain ⟨-, -, -, hlast⟩ := untrailed_append (untrailed (names path)).dropLast
    rw [hnames]
    exact hlast
  · right
    rcases hparent with h | h | h
    · rw [h]
      decide
    · rw [h]
      decide
    · rw [h]
      decide

/-- A list of names that are not all empty has a last one that is not. -/
theorem exists_dropWhile_isEmpty (h : ∃ name ∈ ns, name ≠ "") :
    ∃ name rest, ns.reverse.dropWhile String.isEmpty = name :: rest ∧ rest ⊆ ns ∧ name ∈ ns ∧
      name ≠ "" := by
  obtain ⟨name, hname, hne⟩ := h
  cases hdrop : ns.reverse.dropWhile String.isEmpty with
  | nil =>
    have hall := List.takeWhile_append_dropWhile (p := String.isEmpty) (l := ns.reverse)
    rw [hdrop, List.append_nil] at hall
    have hempty := List.all_eq_true.1 List.all_takeWhile name (hall.symm ▸ List.mem_reverse.2 hname)
    exact absurd (String.isEmpty_iff.1 hempty) hne
  | cons last rest =>
    have hsuffix : last :: rest <:+ ns.reverse := hdrop ▸ List.dropWhile_suffix _
    refine ⟨last, rest, rfl, fun n hn => ?_, ?_, ?_⟩
    · exact List.mem_reverse.1 (hsuffix.subset (List.mem_cons_of_mem _ hn))
    · exact List.mem_reverse.1 (hsuffix.subset List.mem_cons_self)
    · rintro rfl
      have hhead := List.head?_dropWhile_not String.isEmpty ns.reverse
      rw [hdrop, List.head?_cons] at hhead
      exact absurd hhead (by decide)

/-! ## Where paths lead -/

/-- Where a step leads from a place. -/
def follow (place : List String) (step : String) : List String :=
  if step = ".." then place.dropLast else place ++ [step]

/-- Where a path from the top leads where nothing is in the way: the names of its normal form. -/
def lexical (path : String) : List String := (steps path).foldl follow []

theorem foldl_follow (h : ".." ∉ ns) (place : List String) : ns.foldl follow place = place ++ ns := by
  induction ns generalizing place with
  | nil => exact (List.append_nil place).symm
  | cons name ns ih =>
    rw [List.mem_cons, not_or] at h
    rw [List.foldl_cons, follow, if_neg (Ne.symm h.1), ih h.2, List.append_assoc]
    rfl

/-- A path beneath another one that does not go up leads beneath where that one leads. -/
theorem lexical_join (h : ".." ∉ steps path) (base : String) :
    lexical (join base path) = lexical base ++ steps path := by
  rw [lexical, steps_join, List.foldl_append, foldl_follow h]
  rfl

/-- So does its parent, if it has a step itself. -/
theorem lexical_parent_join (h : ".." ∉ steps path) (hsteps : steps path ≠ []) (base : String) :
    lexical (parent (join base path)) = lexical base ++ (steps path).dropLast := by
  rw [lexical, steps_parent_join hsteps, List.foldl_append,
    foldl_follow (fun hmem => h (List.dropLast_subset _ hmem))]
  rfl

/-- The parent of a path beneath another one that has no step itself is not beneath that one. -/
theorem lexical_parent_join_of_nil (hsteps : steps path = []) (hup : ".." ∉ steps base)
    (hbase : steps base ≠ []) : ¬lexical base <+: lexical (parent (join base path)) := by
  have hparent : lexical (parent (join base path)) = (steps base).dropLast := by
    rw [lexical, steps_parent, steps_join, hsteps, List.append_nil,
      foldl_follow (fun hmem => hup (List.dropLast_subset _ hmem)), List.nil_append]
  have hlexical : lexical base = steps base := by
    rw [lexical, foldl_follow hup, List.nil_append]
  rw [hparent, hlexical]
  intro h
  have hle := h.length_le
  have hpos := List.length_pos_of_ne_nil hbase
  rw [List.length_dropLast] at hle
  omega

end

end Path

/-! ## Keys -/

namespace Key

section
variable {path folder last : String}

/-- An allowed key has no name that goes up. -/
theorem up_notMem_names (h : isAllowed path = true) : ".." ∉ Path.names path := by
  simp only [isAllowed, Bool.and_eq_true, Bool.not_eq_true', List.contains_eq_mem,
    decide_eq_false_iff_not, Text.pieces_eq] at h
  rw [Path.names, Text.pieces_eq]
  intro hmem
  obtain ⟨piece, hpiece, hup⟩ := List.mem_map.1 hmem
  obtain rfl : piece = ['.', '.'] := by
    rw [← String.toList_ofList (l := piece), hup]
    rfl
  refine h.2 (List.mem_map.2 ⟨_, Text.mem_splitOnP_of_imp ?_ ?_ hpiece, rfl⟩)
  · intro c hc
    rw [isSeparator, hc, Bool.true_or]
  · simp [isSeparator]

/-- So it has no step that goes up. -/
theorem up_notMem_steps (h : isAllowed path = true) : ".." ∉ Path.steps path :=
  fun hmem => up_notMem_names h (List.mem_of_mem_filter hmem)

/-- A key of names that lead down, without backslashes, is allowed. -/
theorem isAllowed_of_names (hnames : ∀ name ∈ Path.names path, name ≠ "" ∧ name ≠ "..")
    (hback : '\\' ∉ path.toList) : isAllowed path = true := by
  have hcut : ∀ c ∈ path.toList, isSeparator c = (c == '/') := by
    intro c hc
    have hne : (c == '\\') = false := beq_eq_false_iff_ne.2 fun heq => hback (heq ▸ hc)
    rw [isSeparator, hne, Bool.or_false]
  have hpieces : Text.pieces isSeparator path = Path.names path := by
    rw [Text.pieces_eq, Text.splitOnP_congr hcut, Path.names, Text.pieces_eq]
  simp only [isAllowed, Bool.and_eq_true, Bool.not_eq_true', hpieces, List.contains_eq_mem,
    decide_eq_false_iff_not]
  refine ⟨⟨?_, ?_⟩, fun hmem => (hnames _ hmem).2 rfl⟩
  · rw [Bool.eq_false_iff, Ne, String.isEmpty_iff]
    rintro rfl
    exact (hnames "" (by decide)).1 rfl
  · cases hchars : path.toList with
    | nil => rfl
    | cons c cs =>
      rw [List.head?_cons, Option.any_some, hcut c (hchars ▸ List.mem_cons_self),
        beq_eq_false_iff_ne]
      rintro rfl
      refine (hnames "" ?_).1 rfl
      rw [Path.names_eq, hchars, List.splitOn, List.splitOnP_cons_eq_if_modifyHead]
      exact List.mem_cons_self

/-- The first name of an allowed key is not empty. -/
theorem exists_names (h : isAllowed path = true) :
    ∃ name ns, Path.names path = name :: ns ∧ name ≠ "" := by
  simp only [isAllowed, Bool.and_eq_true, Bool.not_eq_true'] at h
  obtain ⟨⟨hne, hhead⟩, -⟩ := h
  rw [Path.names_eq]
  cases hchars : path.toList with
  | nil =>
    rw [String.toList_eq_nil_iff.1 hchars] at hne
    cases hne
  | cons c cs =>
    rw [hchars, List.head?_cons, Option.any_some, isSeparator, Bool.or_eq_false_iff] at hhead
    obtain ⟨a, as, ha⟩ := List.exists_cons_of_ne_nil (List.splitOn_ne_nil '/' cs)
    rw [List.splitOn, List.splitOnP_cons_eq_if_modifyHead, ← List.splitOn, ha, hhead.1]
    refine ⟨String.ofList (c :: a), as.map String.ofList, rfl, fun hnil => ?_⟩
    have hlist := congrArg String.toList hnil
    rw [String.toList_ofList] at hlist
    cases hlist

/-- A key that is split has its last name behind the folder and a slash. -/
theorem of_split? (h : split? path = some (folder, last)) :
    path = folder ++ "/" ++ last ∧ '/' ∉ last.toList := by
  simp only [split?] at h
  split at h
  · cases h
  · next c front hdrop =>
    rw [Option.some.injEq, Prod.mk.injEq] at h
    obtain ⟨rfl, rfl⟩ := h
    have hc : (c != '/') = false := by
      have hhead := List.head?_dropWhile_not (· != '/') path.toList.reverse
      rwa [hdrop, List.head?_cons] at hhead
    obtain rfl : c = '/' := by simpa using hc
    constructor
    · have hchars := List.takeWhile_append_dropWhile (p := (· != '/')) (l := path.toList.reverse)
      rw [hdrop] at hchars
      have hlist := (congrArg List.reverse hchars).symm
      rw [List.reverse_reverse] at hlist
      rw [← String.toList_inj]
      conv_lhs => rw [hlist]
      simp
    · rw [String.toList_ofList, List.mem_reverse]
      intro hslash
      have hall := List.all_eq_true.1 List.all_takeWhile '/' hslash
      simp at hall

/-- One that is not split is one name. -/
theorem of_split?_none (h : split? path = none) : '/' ∉ path.toList := by
  simp only [split?] at h
  split at h
  · next hdrop =>
    intro hslash
    have hchars := List.takeWhile_append_dropWhile (p := (· != '/')) (l := path.toList.reverse)
    rw [hdrop, List.append_nil] at hchars
    have hall := List.all_eq_true.1 List.all_takeWhile '/' (hchars.symm ▸ List.mem_reverse.2 hslash)
    simp at hall
  · cases h

/-- The text before what comes after the last slash of a key. -/
def lead (path : String) : String :=
  match folder? path with
  | some folder => folder ++ "/"
  | none => ""

/-- A name behind it takes the place of the last one. -/
theorem names_lead_append {name : String} (hname : '/' ∉ name.toList) :
    Path.names (lead path ++ name) = (Path.names path).dropLast ++ [name] := by
  rw [lead, folder?]
  cases h : split? path with
  | none =>
    rw [Path.names_of_notMem (of_split?_none h)]
    change Path.names ("" ++ name) = [name]
    rw [String.empty_append, Path.names_of_notMem hname]
  | some parts =>
    obtain ⟨folder, last⟩ := parts
    obtain ⟨hpath, hlast⟩ := of_split? h
    change Path.names (folder ++ "/" ++ name) = _
    rw [hpath, Path.names_append_slash, Path.names_append_slash, Path.names_of_notMem hname,
      Path.names_of_notMem hlast, List.dropLast_concat]

/-- And a step there takes the place of the last one, if that is a step. -/
theorem steps_lead_append {name : String} (hname : '/' ∉ name.toList)
    (hstep : Path.isStep name = true)
    (hlast : (Path.names path).getLast?.all Path.isStep = true) :
    Path.steps (lead path ++ name) = (Path.steps path).dropLast ++ [name] := by
  obtain ⟨front, last, hnames⟩ :=
    (List.eq_nil_or_concat' (Path.names path)).resolve_left (Path.names_ne_nil path)
  rw [hnames, List.getLast?_concat, Option.all_some] at hlast
  have hone {name : String} (h : Path.isStep name = true) : [name].filter Path.isStep = [name] :=
    List.filter_eq_self.2 (List.forall_mem_singleton.2 h)
  rw [Path.steps, names_lead_append hname, Path.steps, hnames, List.dropLast_concat,
    List.filter_append, List.filter_append, hone hstep, hone hlast, List.dropLast_concat]

end

end Key

end Taskweave
