import Mathlib.Data.List.Perm.Basic
import Mathlib.Logic.Relation
import Taskweave.Workflow.Order

/-!
# What a depth-first search finishes

The stack of `Graph.finish` holds nodes that are open, that is seen and not finished, and between
them nodes that may be looked at again later; a node may be on the stack many times.
`Graph.Searching` is what holds on the way. What lies above an open node is led to by it, so a node
on top of the stack that is finished has no dependent left but those that lead back to it: each of
its dependents was finished before it, or is open below it. There is one lemma for a node that is
seen (`Graph.Searching.see`) and one for a node that is taken off the stack
(`Graph.Searching.close`). A whole search finishes every node once (`Graph.sorted_perm`), and a node
before its dependents only where these lead back to it (`Graph.sorted_finishedInOrder`), which is as
much as can be said of a graph with cycles.
-/

namespace Taskweave.Graph

/-- The search gets from one node to another along edges to dependents. -/
def Leads (g : Graph) : String → String → Prop :=
  Relation.ReflTransGen fun a b => b ∈ g.dependents a

/-- Among nodes that are finished, the last one first, each has been finished after its dependents,
but for those that lead back to it. -/
def FinishedInOrder (g : Graph) (finished : List String) : Prop :=
  ∀ later n earlier, finished = later ++ n :: earlier →
    ∀ m ∈ g.dependents n, m ∈ earlier ∨ g.Leads m n

/-- A node that has been seen and is not finished. -/
def IsOpen (g : Graph) (unseen finished : List String) (n : String) : Prop :=
  n ∈ g.nodes ∧ n ∉ unseen ∧ n ∉ finished

/-- An open node with `above` on top of it: it leads to all of that, and each of its dependents is
finished, on top of it, or leads back to it. -/
structure Covered (g : Graph) (finished above : List String) (n : String) : Prop where
  leads : ∀ x ∈ above, g.Leads n x
  dependents : ∀ m ∈ g.dependents n, m ∈ finished ∨ m ∈ above ∨ g.Leads m n

/-- What holds in the middle of a search. -/
structure Searching (g : Graph) (unseen finished stack : List String) : Prop where
  unseen_nodup : unseen.Nodup
  finished_nodup : finished.Nodup
  stack_subset : ∀ n ∈ stack, n ∈ g.nodes
  finished_seen : ∀ n ∈ finished, n ∈ g.nodes ∧ n ∉ unseen
  /-- Every open node is on the stack. -/
  on_stack : ∀ n, g.IsOpen unseen finished n → n ∈ stack
  /-- An open node is covered by what lies above the uppermost place that it has on the stack. -/
  covered : ∀ above n below, stack = above ++ n :: below → n ∉ above →
    g.IsOpen unseen finished n → g.Covered finished above n
  inOrder : g.FinishedInOrder finished

section
variable {g : Graph} {unseen finished stack rest : List String} {n m : String}

/-- A dependent is a node that lists the other. -/
theorem mem_dependents : m ∈ g.dependents n ↔ m ∈ g.nodes ∧ n ∈ g.after m := by
  rw [dependents, List.mem_filter, List.contains_iff_mem]

/-- A list cut at something that is not in its first part is cut in its second part. -/
theorem append_eq_append_cons {xs ys above below : List String} (hn : n ∉ xs)
    (h : xs ++ ys = above ++ n :: below) : ∃ as, above = xs ++ as ∧ ys = as ++ n :: below := by
  rcases List.append_eq_append_iff.1 h with ⟨as, habove, hys⟩ | ⟨bs, hxs, hbelow⟩
  · exact ⟨as, habove, hys⟩
  · cases bs with
    | nil =>
      rw [List.append_nil] at hxs
      exact ⟨[], by rw [hxs, List.append_nil], hbelow.symm⟩
    | cons b bs =>
      obtain ⟨rfl, -⟩ := List.cons.inj hbelow
      exact absurd (hxs ▸ List.mem_append_right above List.mem_cons_self) hn

/-! ## Steps -/

/-- The node on top of the stack is led to by every other open node. -/
theorem Searching.leads_top (h : g.Searching unseen finished (n :: rest))
    (hm : g.IsOpen unseen finished m) : g.Leads m n := by
  obtain ⟨above, below, heq, hnot⟩ := List.eq_append_cons_of_mem (h.on_stack m hm)
  cases above with
  | nil =>
    obtain ⟨rfl, -⟩ := List.cons.inj heq
    exact .refl
  | cons x above =>
    obtain ⟨rfl, -⟩ := List.cons.inj heq
    exact (h.covered _ m below heq hnot hm).leads n List.mem_cons_self

/-- A node that is seen stays on the stack, under those of its dependents that are unseen. -/
theorem Searching.see (h : g.Searching unseen finished (n :: rest)) :
    g.Searching (unseen.erase n) finished
      (((g.dependents n).filter (unseen.erase n).contains).reverse ++ n :: rest) := by
  have hleft : ∀ x, x ∈ unseen.erase n ↔ x ≠ n ∧ x ∈ unseen := fun x =>
    h.unseen_nodup.mem_erase_iff
  have hnext : ∀ x, x ∈ ((g.dependents n).filter (unseen.erase n).contains).reverse ↔
      x ∈ g.dependents n ∧ x ∈ unseen.erase n := fun x => by
    rw [List.mem_reverse, List.mem_filter, List.contains_iff_mem]
  -- A node that is open now was open before, or is the one that has just been seen.
  have hopen : ∀ x, g.IsOpen (unseen.erase n) finished x → x ≠ n →
      g.IsOpen unseen finished x := fun x hx hne =>
    ⟨hx.1, fun hmem => hx.2.1 ((hleft x).2 ⟨hne, hmem⟩), hx.2.2⟩
  refine ⟨h.unseen_nodup.erase n, h.finished_nodup, ?_, ?_, ?_, ?_, h.inOrder⟩
  · intro x hx
    rcases List.mem_append.1 hx with hx | hx
    · exact (mem_dependents.1 ((hnext x).1 hx).1).1
    · exact h.stack_subset x hx
  · intro x hx
    obtain ⟨hnode, hseen⟩ := h.finished_seen x hx
    exact ⟨hnode, fun hmem => hseen ((hleft x).1 hmem).2⟩
  · intro x hx
    by_cases hne : x = n
    · exact List.mem_append_right _ (hne ▸ List.mem_cons_self)
    · exact List.mem_append_right _ (h.on_stack x (hopen x hx hne))
  · intro above x below heq hnot hx
    have hout : x ∉ ((g.dependents n).filter (unseen.erase n).contains).reverse := fun hmem =>
      hx.2.1 ((hnext x).1 hmem).2
    obtain ⟨as, rfl, hrest⟩ := append_eq_append_cons hout heq
    cases as with
    | nil =>
      obtain ⟨rfl, rfl⟩ := List.cons.inj hrest
      rw [List.append_nil]
      refine ⟨fun y hy => .single ((hnext y).1 hy).1, fun m hm => ?_⟩
      by_cases hmu : m ∈ unseen.erase n
      · exact .inr (.inl ((hnext m).2 ⟨hm, hmu⟩))
      · by_cases hmf : m ∈ finished
        · exact .inl hmf
        · refine .inr (.inr ?_)
          by_cases hmn : m = n
          · exact hmn ▸ .refl
          · exact h.leads_top (hopen m ⟨(mem_dependents.1 hm).1, hmu, hmf⟩ hmn)
    | cons y as =>
      obtain ⟨rfl, hrest'⟩ := List.cons.inj hrest
      have hne : x ≠ n := fun he =>
        hnot (he ▸ List.mem_append_right _ List.mem_cons_self)
      have hold : g.Covered finished (n :: as) x := h.covered (n :: as) x below hrest
        (fun hmem => hnot (List.mem_append_right _ hmem)) (hopen x hx hne)
      refine ⟨fun z hz => ?_, fun m hm => ?_⟩
      · rcases List.mem_append.1 hz with hz | hz
        · exact (hold.leads n List.mem_cons_self).tail ((hnext z).1 hz).1
        · exact hold.leads z hz
      · exact (hold.dependents m hm).imp_right (Or.imp_left (List.mem_append_right _))

/-- When the node on top of the stack is taken off, and counts as finished, the others stay
covered. -/
theorem Searching.covered_rest {finished' : List String}
    (h : g.Searching unseen finished (n :: rest)) (hn : n ∈ finished')
    (hsub : ∀ x ∈ finished, x ∈ finished') {above below : List String} {x : String}
    (heq : rest = above ++ x :: below) (hnot : x ∉ above) (hx : g.IsOpen unseen finished' x) :
    g.Covered finished' above x := by
  have hne : x ≠ n := fun he => hx.2.2 (he ▸ hn)
  have hold : g.Covered finished (n :: above) x := by
    refine h.covered (n :: above) x below (congrArg (n :: ·) heq) (fun hmem => ?_)
      ⟨hx.1, hx.2.1, fun hmem => hx.2.2 (hsub x hmem)⟩
    exact (List.mem_cons.1 hmem).elim hne hnot
  refine ⟨fun y hy => hold.leads y (List.mem_cons_of_mem n hy), fun m hm => ?_⟩
  rcases hold.dependents m hm with hmf | hmabove | hback
  · exact .inl (hsub m hmf)
  · rcases List.mem_cons.1 hmabove with rfl | hmabove
    · exact .inl hn
    · exact .inr (.inl hmabove)
  · exact .inr (.inr hback)

/-- A node that has been seen is finished when it is on top of the stack again. -/
theorem Searching.close (h : g.Searching unseen finished (n :: rest)) (hn : n ∉ unseen) :
    g.Searching unseen (if finished.contains n then finished else n :: finished) rest := by
  have hnode : n ∈ g.nodes := h.stack_subset n List.mem_cons_self
  have hrest : ∀ x ∈ rest, x ∈ g.nodes := fun x hx => h.stack_subset x (List.mem_cons_of_mem n hx)
  by_cases hf : n ∈ finished
  · rw [if_pos (List.contains_iff_mem.2 hf)]
    refine ⟨h.unseen_nodup, h.finished_nodup, hrest, h.finished_seen, fun x hx => ?_,
      fun above x below heq => h.covered_rest hf (fun _ hy => hy) heq, h.inOrder⟩
    have hne : x ≠ n := fun he => hx.2.2 (he ▸ hf)
    exact (List.mem_cons.1 (h.on_stack x hx)).resolve_left hne
  · rw [if_neg (mt List.contains_iff_mem.1 hf)]
    have hcover : g.Covered finished [] n :=
      h.covered [] n rest rfl List.not_mem_nil ⟨hnode, hn, hf⟩
    refine ⟨h.unseen_nodup, List.nodup_cons.2 ⟨hf, h.finished_nodup⟩, hrest, ?_, ?_,
      fun above x below heq => h.covered_rest List.mem_cons_self (fun _ => List.mem_cons_of_mem n)
        heq, ?_⟩
    · intro x hx
      rcases List.mem_cons.1 hx with rfl | hx
      · exact ⟨hnode, hn⟩
      · exact h.finished_seen x hx
    · intro x hx
      obtain ⟨hne, hxf⟩ := not_or.1 (mt List.mem_cons.2 hx.2.2)
      exact (List.mem_cons.1 (h.on_stack x ⟨hx.1, hx.2.1, hxf⟩)).resolve_left hne
    · intro later x earlier heq m hm
      cases later with
      | nil =>
        obtain ⟨rfl, rfl⟩ := List.cons.inj heq
        exact (hcover.dependents m hm).imp_right fun hor => hor.resolve_left List.not_mem_nil
      | cons y later =>
        obtain ⟨-, heq⟩ := List.cons.inj heq
        exact h.inOrder later x earlier heq m hm

/-! ## Whole searches -/

/-- A search goes on until the stack is empty. By then it has seen what was on the stack, and what
it had seen before. -/
theorem Searching.finish (h : g.Searching unseen finished stack) :
    g.Searching (g.finish unseen finished stack).1 (g.finish unseen finished stack).2 [] ∧
      ∀ x, x ∈ stack ∨ x ∉ unseen → x ∉ (g.finish unseen finished stack).1 := by
  fun_induction Graph.finish g unseen finished stack with
  | case1 unseen finished => exact ⟨h, fun x hx => hx.resolve_left List.not_mem_nil⟩
  | case2 unseen finished n rest hn left ih =>
    obtain ⟨hend, hseen⟩ := ih h.see
    refine ⟨hend, fun x hx => hseen x ?_⟩
    rcases hx with hx | hx
    · exact .inl (List.mem_append_right _ hx)
    · exact .inr fun hmem => hx (List.mem_of_mem_erase hmem)
  | case3 unseen finished n rest hn ih =>
    obtain ⟨hend, hseen⟩ := ih (h.close hn)
    refine ⟨hend, fun x hx => hseen x ?_⟩
    rcases hx with hx | hx
    · rcases List.mem_cons.1 hx with rfl | hx
      · exact .inr hn
      · exact .inl hx
    · exact .inr hx

/-- A search starts from a node when no node is open. -/
theorem Searching.start (h : g.Searching unseen finished []) (hn : n ∈ g.nodes) :
    g.Searching unseen finished [n] := by
  have hnone : ∀ x, ¬g.IsOpen unseen finished x := fun x hx => List.not_mem_nil (h.on_stack x hx)
  exact ⟨h.unseen_nodup, h.finished_nodup, fun x hx => List.mem_singleton.1 hx ▸ hn,
    h.finished_seen, fun x hx => absurd hx (hnone x), fun _ x _ _ _ hx => absurd hx (hnone x),
    h.inOrder⟩

/-- The turn of a node, whose search is left out if the node has been seen. -/
theorem Searching.visit (h : g.Searching unseen finished []) (hn : n ∈ g.nodes) :
    ∃ unseen' finished',
      (if unseen.contains n then g.finish unseen finished [n] else (unseen, finished)) =
        (unseen', finished') ∧
      g.Searching unseen' finished' [] ∧ ∀ x, x = n ∨ x ∉ unseen → x ∉ unseen' := by
  by_cases hseen : n ∈ unseen
  · rw [if_pos (List.contains_iff_mem.2 hseen)]
    obtain ⟨hend, hall⟩ := (h.start hn).finish
    exact ⟨_, _, rfl, hend, fun x hx => hall x (hx.imp_left List.mem_singleton.2)⟩
  · rw [if_neg (mt List.contains_iff_mem.1 hseen)]
    exact ⟨_, _, rfl, h, fun x hx => hx.elim (fun he => he ▸ hseen) id⟩

/-- Searches from several nodes see all of these, and what was seen before. -/
theorem Searching.finishAll {ns : List String} (h : g.Searching unseen finished [])
    (hns : ∀ x ∈ ns, x ∈ g.nodes) :
    ∃ left, g.Searching left (g.finishAll ns (unseen, finished)) [] ∧
      ∀ x, x ∈ ns ∨ x ∉ unseen → x ∉ left := by
  induction ns generalizing unseen finished with
  | nil => exact ⟨unseen, h, fun x hx => hx.resolve_left List.not_mem_nil⟩
  | cons n ns ih =>
    obtain ⟨unseen', finished', hstate, hnext, hseen⟩ := h.visit (hns n List.mem_cons_self)
    obtain ⟨left, hleft, hall⟩ := ih hnext fun x hx => hns x (List.mem_cons_of_mem n hx)
    rw [Graph.finishAll, hstate]
    refine ⟨left, hleft, fun x hx => hall x ?_⟩
    rcases hx with hx | hx
    · exact (List.mem_cons.1 hx).elim (fun he => .inr (hseen x (.inl he))) .inl
    · exact .inr (hseen x (.inr hx))

/-- Before anything is seen there is no open node and none that is finished. -/
theorem Searching.new (hnodes : g.nodes.Nodup) : g.Searching g.nodes [] [] where
  unseen_nodup := hnodes
  finished_nodup := List.nodup_nil
  stack_subset := List.forall_mem_nil _
  finished_seen := List.forall_mem_nil _
  on_stack x hx := absurd hx.1 hx.2.1
  covered _ _ _ _ _ hx := absurd hx.1 hx.2.1
  inOrder later n earlier heq := by
    cases later with
    | nil => cases heq
    | cons => cases heq

/-- A search from every node ends with all nodes seen and the stack empty. -/
theorem searching_sorted (hnodes : g.nodes.Nodup) :
    ∃ left, g.Searching left g.sorted [] ∧ ∀ x ∈ g.nodes, x ∉ left := by
  obtain ⟨left, hleft, hall⟩ := (Searching.new hnodes).finishAll fun _ hx => hx
  exact ⟨left, hleft, fun x hx => hall x (.inl hx)⟩

/-- Every node is finished once. -/
theorem sorted_perm (hnodes : g.nodes.Nodup) : g.sorted.Perm g.nodes := by
  obtain ⟨left, hleft, hall⟩ := searching_sorted hnodes
  refine (List.perm_ext_iff_of_nodup hleft.finished_nodup hnodes).2 fun x => ?_
  constructor
  · exact fun hx => (hleft.finished_seen x hx).1
  · intro hx
    by_contra hnot
    exact List.not_mem_nil (hleft.on_stack x ⟨hx, hall x hx, hnot⟩)

/-- A node is finished after its dependents, but for those that lead back to it. -/
theorem sorted_finishedInOrder (hnodes : g.nodes.Nodup) : g.FinishedInOrder g.sorted := by
  obtain ⟨left, hleft, -⟩ := searching_sorted hnodes
  exact hleft.inOrder

end

end Taskweave.Graph
