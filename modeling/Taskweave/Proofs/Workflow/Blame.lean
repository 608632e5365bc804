import Taskweave.Proofs.Workflow.Acceptance

/-!
# The task that is named for a cycle

When no order is found, `Graph.backEdge?` names a node. It stands for searches along dependencies, one
from each node of the order that failed: a search goes from node to node (`Graph.next?`), and the
first that gets beyond the node it started from names the second node it comes to (`Graph.second?`).
Nothing is left on its stack but the dependencies of the first node, so the two agree
(`Graph.second?_eq_backEdge?`).

The node that is named lies on a cycle, and not only before or behind one: it is a dependency of a
node that finished later, and the search that put them in this order went from the one to the other
against the dependencies (`Draft.cycle_named`).
-/

namespace Taskweave

namespace Graph

/-- A search along dependencies goes to the uppermost node of its stack that has not been found.
Answers it, with the nodes found and the stack that is left: on it are the dependencies of the node
that have not been found, the last one on top. -/
def next? (g : Graph) (found : List String) :
    List String → Option (String × List String × List String)
  | [] => none
  | n :: stack =>
    if found.contains n then next? g found stack
    else
      some (n, n :: found,
        ((g.dependencies n).filter fun d => !(n :: found).contains d).reverse ++ stack)

/-- The second node that is found by the first search, of those from the nodes of a list, that finds
two. A search starts with what the searches before it have found. -/
def second? (g : Graph) (found : List String) : List String → Option String
  | [] => none
  | n :: order =>
    match g.next? found [n] with
    | none => second? g found order
    | some (_, found, stack) =>
      match g.next? found stack with
      | none => second? g found order
      | some (d, _) => some d

section
variable {g : Graph} {found stack order : List String} {n d : String}

theorem next?_of_mem (h : n ∈ found) : g.next? found (n :: stack) = g.next? found stack := by
  rw [next?, if_pos (List.contains_iff_mem.2 h)]

theorem next?_of_notMem (h : n ∉ found) : g.next? found (n :: stack) =
    some (n, n :: found,
      ((g.dependencies n).filter fun d => !(n :: found).contains d).reverse ++ stack) := by
  rw [next?, if_neg (mt List.contains_iff_mem.1 h)]

/-- Of nodes that have not been found and are put on the stack in turn, the search goes to the last
one. -/
theorem map_fst_next? {ds : List String} (h : ∀ d ∈ ds, d ∉ found) :
    (g.next? found ds.reverse).map (·.1) = ds.getLast? := by
  rw [← List.head?_reverse]
  cases hds : ds.reverse with
  | nil => rfl
  | cons d stack =>
    have hd : d ∈ ds := List.mem_reverse.1 (hds ▸ List.mem_cons_self)
    rw [next?_of_notMem (h d hd)]
    rfl

/-- The searches along dependencies name the dependency that stands behind the node it belongs
to. -/
theorem second?_eq_backEdge? : g.second? found order = g.backEdge? found order := by
  induction order generalizing found with
  | nil => rfl
  | cons n order ih =>
    rw [second?, backEdge?]
    by_cases hn : n ∈ found
    · rw [next?_of_mem hn, if_pos (List.contains_iff_mem.2 hn)]
      exact ih
    · rw [next?_of_notMem hn, if_neg (mt List.contains_iff_mem.1 hn), List.append_nil]
      have hnew : ∀ d ∈ (g.dependencies n).filter fun d => !(n :: found).contains d,
          d ∉ n :: found := fun d hd hmem => by
        have hnot := (List.mem_filter.1 hd).2
        rw [List.contains_iff_mem.2 hmem] at hnot
        cases hnot
      have hsecond := map_fst_next? (g := g) hnew
      dsimp only
      rw [← hsecond]
      cases g.next? (n :: found) _ with
      | none => exact ih
      | some step => rfl

/-- The node that is named instead of an order is one that the searches along dependencies name. -/
theorem second?_sorted_of_order? (h : g.order? = .error n) : g.second? [] g.sorted = some n := by
  rw [second?_eq_backEdge?]
  rw [order?] at h
  split at h
  · next d hedge =>
    cases h
    exact hedge
  · cases h

end

end Graph

namespace Draft

section
variable {isPattern : String → Bool} {d : Draft} {task : TaskId}

/-- What is to be said of a task that is named for a cycle. -/
structure OnCycle (d : Draft) (task : TaskId) : Prop where
  declared : task ∈ Dict.keys d.tasks
  /-- From the task the entries lead back to it, by way of one task or more. -/
  leadsBack : Relation.TransGen d.After task task
  /-- It is the second task to which a search along the entries comes. -/
  second : d.graph.second? [] d.graph.sorted = some task

/-- A task with an entry is declared. -/
theorem After.declared {x : TaskId} (h : d.After task x) : task ∈ Dict.keys d.tasks := by
  obtain ⟨spec, hmem, -⟩ := h
  exact List.mem_map_of_mem hmem

/-- A task that comes after itself, by way of others or not, has an entry. -/
theorem declared_of_transGen {x : TaskId} (h : Relation.TransGen d.After task x) :
    task ∈ Dict.keys d.tasks := by
  obtain ⟨y, hy, -⟩ := Relation.TransGen.head'_iff.1 h
  exact hy.declared

/-- The task that is named when a draft is refused for a cycle is a declared one, and lies on a
cycle. -/
theorem cycle_named (hkeys : (Dict.keys d.tasks).Nodup)
    (h : Workflow.ofDraft isPattern d = .error (.cycle task)) : d.OnCycle task := by
  obtain ⟨hsound, horder⟩ := ofDraft_eq_cycle_iff.1 h
  have hcycle : Relation.TransGen d.After task task :=
    transGen_dependsOn hkeys ▸ Graph.dependsOn_self_of_order? (hsound.closed hkeys) horder
  exact ⟨declared_of_transGen hcycle, hcycle, Graph.second?_sorted_of_order? horder⟩

end

/-- Two tasks that come after each other, a task that they come after, and one that comes after
them. -/
def ring : Draft where
  settings := Settings.default
  roles := [("r", ⟨"true", none, none, []⟩)]
  tasks := [("a", ⟨"r", "", []⟩), ("b", ⟨"r", "", ["a", "c"]⟩), ("c", ⟨"r", "", ["b", "a"]⟩),
    ("d", ⟨"r", "", ["c"]⟩)]

/-- Of a ring with a task before it and a task behind it, a task of the ring is named. -/
theorem cycle_named_ring : (Dict.keys ring.tasks).Nodup ∧
    Workflow.ofDraft (fun _ => true) ring = .error (.cycle "b") ∧ ring.OnCycle "b" := by
  have hkeys : (Dict.keys ring.tasks).Nodup := by decide
  have hcycle : Workflow.ofDraft (fun _ => true) ring = .error (.cycle "b") := by decide +kernel
  exact ⟨hkeys, hcycle, cycle_named hkeys hcycle⟩

end Draft

end Taskweave
