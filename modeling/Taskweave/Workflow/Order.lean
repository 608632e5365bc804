import Taskweave.Task.Record

/-!
# Dependency order

`Graph.order?` puts the nodes of a graph in an order in which every node comes after those it
depends on, or names a node on a cycle. It is a depth-first search along the edges to dependents
with a stack on which a node stays until all it leads to is finished (`Graph.finish`). The nodes in
the opposite of the order in which they finished are the answer, provided that none of them depends
on a later one (`Graph.backEdge?`).
-/

namespace Taskweave

/-- A graph of nodes and the nodes that each of them depends on. -/
structure Graph where
  /-- The nodes, each once. -/
  nodes : List String
  /-- What a node depends on. -/
  after : String → List String

namespace Graph

/-- The nodes that depend on `n`, in the order of the nodes. -/
def dependents (g : Graph) (n : String) : List String :=
  g.nodes.filter fun m => (g.after m).contains n

/-- What a node depends on, each node once. -/
def dependencies (g : Graph) (n : String) : List String := (g.after n).eraseDups

/-- The work that is left for nodes that have not been seen. -/
def work (g : Graph) : List String → Nat
  | [] => 0
  | n :: unseen => (g.dependents n).length + 1 + work g unseen

/-- Seeing a node takes its share out of the work that is left. -/
theorem work_erase (g : Graph) {n : String} : ∀ {unseen : List String}, n ∈ unseen →
    g.work (unseen.erase n) + (g.dependents n).length + 1 = g.work unseen
  | m :: unseen, h => by
    by_cases hm : m = n
    · subst hm; simp [work]; omega
    · have hn : n ∈ unseen := by
        rcases List.mem_cons.1 h with rfl | h
        · exact absurd rfl hm
        · exact h
      have ih := work_erase g hn
      rw [List.erase_cons_tail (by simpa using hm)]
      simp only [work] at ih ⊢
      omega

/-- The rest of a search: the nodes not seen yet, the nodes finished so far, last first, and the
stack. A node on top that has not been seen stays there, under the dependents it leads to; one that
has been seen is finished. -/
def finish (g : Graph) (unseen finished : List String) (stack : List String) :
    List String × List String :=
  match stack with
  | [] => (unseen, finished)
  | n :: rest =>
    if _h : n ∈ unseen then
      let left := unseen.erase n
      finish g left finished (((g.dependents n).filter left.contains).reverse ++ n :: rest)
    else finish g unseen (if finished.contains n then finished else n :: finished) rest
termination_by g.work unseen + stack.length
decreasing_by
  · have := g.work_erase _h
    have := List.length_filter_le (unseen.erase n).contains (g.dependents n)
    simp only [List.length_append, List.length_reverse, List.length_cons]
    omega
  · simp only [List.length_cons]; omega

/-- Searches from each of the nodes that has not been seen when its turn comes. -/
def finishAll (g : Graph) : List String → List String × List String → List String
  | [], (_, finished) => finished
  | n :: rest, (unseen, finished) =>
    finishAll g rest (if unseen.contains n then g.finish unseen finished [n] else (unseen, finished))

/-- The nodes, the one that finished last first. -/
def sorted (g : Graph) : List String := g.finishAll g.nodes (g.nodes, [])

/-- The first node in a list that depends on a node not before it; the answer is the last such
dependency. -/
def backEdge? (g : Graph) (seen : List String) : List String → Option String
  | [] => none
  | n :: rest =>
    if seen.contains n then backEdge? g seen rest
    else
      match ((g.dependencies n).filter fun d => !(n :: seen).contains d).getLast? with
      | some d => some d
      | none => backEdge? g (n :: seen) rest

/-- The nodes in dependency order, or a node on a cycle. -/
def order? (g : Graph) : Except String (List String) :=
  let nodes := g.sorted
  match g.backEdge? [] nodes with
  | some n => .error n
  | none => .ok nodes

end Graph

end Taskweave
