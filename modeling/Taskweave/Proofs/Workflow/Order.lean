import Taskweave.Proofs.Workflow.Search

/-!
# An order is found unless there is a cycle

`Graph.order?` takes the nodes as a search finished them, the last one first, and refuses them if one
of them depends on a later one (`Graph.backEdge?_eq_none_iff`). What a search finishes is in order
but for nodes that lead back (`Graph.sorted_finishedInOrder`), and there are none without a cycle:
so the order is refused only where a cycle is (`Graph.backEdge?_sorted`). The other way round, an
order in which every node comes after those it depends on leaves no room for a cycle
(`Graph.IsOrder.acyclic`).
-/

namespace Taskweave.Graph

/-- One node depends on another. -/
def DependsOn (g : Graph) (n d : String) : Prop := n ∈ g.nodes ∧ d ∈ g.after n

/-- No node depends on itself by way of others. -/
def Acyclic (g : Graph) : Prop := ∀ n, ¬Relation.TransGen g.DependsOn n n

/-- Every node comes after those it depends on. -/
def IsOrder (g : Graph) (order : List String) : Prop :=
  ∀ before n later, order = before ++ n :: later → ∀ d ∈ g.after n, d ∈ before

/-- Every dependency is a node, and no node lists itself. -/
structure Closed (g : Graph) : Prop where
  nodup : g.nodes.Nodup
  dependency : ∀ n d, g.DependsOn n d → d ∈ g.nodes ∧ d ≠ n

section
variable {g : Graph} {seen order : List String} {n m : String}

/-- A node that leads to another is one that the other depends on, by way of others. -/
theorem Leads.dependsOn (h : g.Leads n m) : Relation.ReflTransGen g.DependsOn m n := by
  induction h with
  | refl => exact .refl
  | tail _ hedge ih => exact .head (mem_dependents.1 hedge) ih

/-- The head of an order passes if it depends on nothing but itself and what is seen, and the rest
is looked at with the head seen. -/
theorem backEdge?_cons (hn : n ∉ seen) : g.backEdge? seen (n :: order) = none ↔
    (∀ d ∈ g.after n, d = n ∨ d ∈ seen) ∧ g.backEdge? (n :: seen) order = none := by
  rw [backEdge?, if_neg (mt List.contains_iff_mem.1 hn)]
  have hnil : ((g.dependencies n).filter fun d => !(n :: seen).contains d) = [] ↔
      ∀ d ∈ g.after n, d = n ∨ d ∈ seen := by
    rw [List.filter_eq_nil_iff]
    refine forall_congr' fun d => ?_
    rw [dependencies, List.mem_eraseDups, Bool.not_eq_true', Bool.not_eq_false,
      List.contains_iff_mem, List.mem_cons]
  split
  · next d hlast =>
    refine ⟨nofun, fun hand => ?_⟩
    rw [hnil.2 hand.1] at hlast
    cases hlast
  · next hlast =>
    rw [List.getLast?_eq_none_iff, hnil] at hlast
    exact ⟨fun hrest => ⟨hlast, hrest⟩, And.right⟩

/-- No dependency is named if each node of an order depends on nothing but itself, what is seen and
what is before it. -/
theorem backEdge?_eq_none_iff (hnd : (seen ++ order).Nodup) : g.backEdge? seen order = none ↔
    ∀ before n later, order = before ++ n :: later →
      ∀ d ∈ g.after n, d = n ∨ d ∈ seen ∨ d ∈ before := by
  induction order generalizing seen with
  | nil =>
    refine ⟨fun _ before n later heq => ?_, fun _ => rfl⟩
    cases before with
    | nil => cases heq
    | cons => cases heq
  | cons x order ih =>
    have hx : x ∉ seen := fun hmem =>
      (List.nodup_append.1 hnd).2.2 x hmem x List.mem_cons_self rfl
    have hnd' : (x :: seen ++ order).Nodup := (List.perm_middle.nodup_iff).1 hnd
    rw [backEdge?_cons hx, ih hnd']
    constructor
    · rintro ⟨hhead, hrest⟩ before n later heq d hd
      cases before with
      | nil =>
        obtain ⟨rfl, -⟩ := List.cons.inj heq
        exact (hhead d hd).imp_right .inl
      | cons y before =>
        obtain ⟨rfl, hsplit⟩ := List.cons.inj heq
        rcases hrest before n later hsplit d hd with he | hseen | hbefore
        · exact .inl he
        · rcases List.mem_cons.1 hseen with rfl | hseen
          · exact .inr (.inr List.mem_cons_self)
          · exact .inr (.inl hseen)
        · exact .inr (.inr (List.mem_cons_of_mem x hbefore))
    · intro hall
      refine ⟨fun d hd => ?_, fun before n later heq d hd => ?_⟩
      · exact (hall [] x order rfl d hd).imp_right fun hor => hor.resolve_right List.not_mem_nil
      · rcases hall (x :: before) n later (congrArg (x :: ·) heq) d hd with he | hseen | hbefore
        · exact .inl he
        · exact .inr (.inl (List.mem_cons_of_mem x hseen))
        · rcases List.mem_cons.1 hbefore with rfl | hbefore
          · exact .inr (.inl List.mem_cons_self)
          · exact .inr (.inr hbefore)

/-- A dependency that is named is one of a node in the order, and is neither seen nor before it. -/
theorem backEdge?_eq_some {d : String} (h : g.backEdge? seen order = some d) :
    ∃ before n later, order = before ++ n :: later ∧ d ∈ g.after n ∧ d ∉ seen ∧ d ∉ before := by
  induction order generalizing seen with
  | nil => cases h
  | cons x order ih =>
    -- When the search goes on after the head, the head counts as seen.
    have hrest : ∀ seen', x ∈ seen' → (∀ y ∈ seen, y ∈ seen') → g.backEdge? seen' order = some d →
        ∃ before n later, x :: order = before ++ n :: later ∧
          d ∈ g.after n ∧ d ∉ seen ∧ d ∉ before := by
      intro seen' hx hsub hd
      obtain ⟨before, n, later, rfl, hafter, hnot, hbefore⟩ := ih hd
      refine ⟨x :: before, n, later, rfl, hafter, fun hmem => hnot (hsub d hmem), fun hmem => ?_⟩
      rcases List.mem_cons.1 hmem with rfl | hmem
      · exact hnot hx
      · exact hbefore hmem
    rw [backEdge?] at h
    split at h
    · next hx => exact hrest seen (List.contains_iff_mem.1 hx) (fun _ hy => hy) h
    · split at h
      · next d' hlast =>
        cases h
        obtain ⟨hmem, hnot⟩ := List.mem_filter.1 (List.mem_of_getLast? hlast)
        rw [Bool.not_eq_true', ← Bool.not_eq_true, List.contains_iff_mem, List.mem_cons] at hnot
        exact ⟨[], x, order, rfl, List.mem_eraseDups.1 hmem, fun hseen => hnot (.inr hseen),
          List.not_mem_nil⟩
      · exact hrest (x :: seen) List.mem_cons_self (fun _ => List.mem_cons_of_mem x) h

/-- A node that a search finished before one that depends on it, and so comes after it in the order,
is led to by that one. -/
theorem sorted_before_or_leads (hc : g.Closed) {before later : List String} {d : String}
    (heq : g.sorted = before ++ n :: later) (hd : d ∈ g.after n) : d ∈ before ∨ g.Leads n d := by
  have hperm := sorted_perm hc.nodup
  have hn : n ∈ g.nodes := hperm.mem_iff.1 (heq ▸ List.mem_append_right _ List.mem_cons_self)
  obtain ⟨hdnode, hne⟩ := hc.dependency n d ⟨hn, hd⟩
  have hmem : d ∈ before ++ n :: later := heq ▸ hperm.mem_iff.2 hdnode
  rcases List.mem_append.1 hmem with hbefore | hlater
  · exact .inl hbefore
  · refine .inr ?_
    obtain ⟨mid, last, rfl⟩ := List.append_of_mem ((List.mem_cons.1 hlater).resolve_left hne)
    have hsplit : g.sorted = (before ++ n :: mid) ++ d :: last := by
      rw [heq, List.append_assoc]
      rfl
    refine (sorted_finishedInOrder hc.nodup _ d last hsplit n (mem_dependents.2 ⟨hn, hd⟩)).resolve_left
      fun hlast => ?_
    -- A node stands once in the order.
    have hnd : (before ++ n :: mid ++ d :: last).Nodup := hsplit ▸ hperm.nodup_iff.2 hc.nodup
    exact (List.nodup_append.1 hnd).2.2 n (List.mem_append_right _ List.mem_cons_self) n
      (List.mem_cons_of_mem d hlast) rfl

/-- Without a cycle, what a search finished passes. -/
theorem backEdge?_sorted (hc : g.Closed) (ha : g.Acyclic) : g.backEdge? [] g.sorted = none := by
  have hperm := sorted_perm hc.nodup
  rw [backEdge?_eq_none_iff (hperm.nodup_iff.2 hc.nodup)]
  intro before n later heq d hd
  rcases sorted_before_or_leads hc heq hd with hbefore | hleads
  · exact .inr (.inr hbefore)
  · have hn : n ∈ g.nodes := hperm.mem_iff.1 (heq ▸ List.mem_append_right _ List.mem_cons_self)
    exact absurd (.head' ⟨hn, hd⟩ hleads.dependsOn) (ha n)

/-- In an order, what a node depends on stands before it. -/
theorem IsOrder.idxOf_lt (h : g.IsOrder order) (hsub : ∀ x ∈ g.nodes, x ∈ order) {d : String}
    (hd : g.DependsOn n d) : order.idxOf d < order.idxOf n := by
  obtain ⟨before, later, heq, hnot⟩ := List.eq_append_cons_of_mem (hsub n hd.1)
  have hmem := h before n later heq d hd.2
  have hlt : (before ++ n :: later).idxOf d < before.length := by
    rw [List.idxOf_append_of_mem hmem]
    exact List.idxOf_lt_length_iff.2 hmem
  have hself : (before ++ n :: later).idxOf n = before.length := by
    rw [List.idxOf_append_of_notMem hnot, List.idxOf_cons_self, Nat.add_zero]
  rw [heq, hself]
  exact hlt

/-- Nodes that stand in order have no cycle. -/
theorem IsOrder.acyclic (h : g.IsOrder order) (hsub : ∀ x ∈ g.nodes, x ∈ order) : g.Acyclic := by
  have hlt : ∀ {a b}, Relation.TransGen g.DependsOn a b → order.idxOf b < order.idxOf a := by
    intro a b hab
    induction hab with
    | single hd => exact h.idxOf_lt hsub hd
    | tail _ hd ih => exact Nat.lt_trans (h.idxOf_lt hsub hd) ih
  exact fun n hn => Nat.lt_irrefl _ (hlt hn)

/-- What is found is an order of the nodes. -/
theorem isOrder_of_order? (hc : g.Closed) (h : g.order? = .ok order) :
    order.Perm g.nodes ∧ g.IsOrder order := by
  have hperm := sorted_perm hc.nodup
  rw [order?] at h
  split at h
  · cases h
  · next hnone =>
    cases h
    rw [backEdge?_eq_none_iff (hperm.nodup_iff.2 hc.nodup)] at hnone
    refine ⟨hperm, fun before n later heq d hd => ?_⟩
    have hn : n ∈ g.nodes := hperm.mem_iff.1 (heq ▸ List.mem_append_right _ List.mem_cons_self)
    exact ((hnone before n later heq d hd).resolve_left (hc.dependency n d ⟨hn, hd⟩).2).resolve_left
      List.not_mem_nil

/-- A node that is named instead of an order is on a cycle. -/
theorem dependsOn_self_of_order? (hc : g.Closed) (h : g.order? = .error n) :
    Relation.TransGen g.DependsOn n n := by
  rw [order?] at h
  split at h
  · next d hedge =>
    cases h
    obtain ⟨before, m, later, heq, hd, -, hnot⟩ := backEdge?_eq_some hedge
    have hm : m ∈ g.nodes :=
      (sorted_perm hc.nodup).mem_iff.1 (heq ▸ List.mem_append_right _ List.mem_cons_self)
    have hleads := (sorted_before_or_leads hc heq hd).resolve_left hnot
    exact .tail' hleads.dependsOn ⟨hm, hd⟩
  · cases h

/-- An order is found if there is no cycle, and only then. -/
theorem order?_eq_ok_iff (hc : g.Closed) : (∃ order, g.order? = .ok order) ↔ g.Acyclic := by
  constructor
  · rintro ⟨order, h⟩
    obtain ⟨hperm, horder⟩ := isOrder_of_order? hc h
    exact horder.acyclic fun x => hperm.mem_iff.2
  · intro ha
    refine ⟨g.sorted, ?_⟩
    rw [order?, backEdge?_sorted hc ha]

end

end Taskweave.Graph
