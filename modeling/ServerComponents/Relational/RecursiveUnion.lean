import Mathlib.Data.List.Dedup
import Mathlib.Logic.Relation

/-!
# Recursive queries

`WITH RECURSIVE ... UNION` over a successor function.  Each round joins the rows
of the last round only, and keeps what is new; the query ends with the first round
that finds nothing.  Its result is the reflexive transitive closure of the seeds,
also on cycles.
-/

namespace ServerComponents
namespace Relational

variable {node : Type*} [DecidableEq node] (next : node -> List node)

def newRows (result working : List node) : List node :=
  ((working.flatMap next).filter (fun n => n ∉ result)).dedup

/-- The rounds of the query; the fuel bounds their number. -/
def rounds : Nat -> List node -> List node -> List node
  | 0, result, _ => result
  | fuel + 1, result, working =>
      match newRows next result working with
      | [] => result
      | new => rounds fuel (result ++ new) new

/-- The query, for a graph with at most this many edges. -/
def recursiveUnion (edges : Nat) (seeds : List node) : List node :=
  rounds next edges seeds.dedup seeds.dedup

def Reachable (seeds : List node) (n : node) : Prop :=
  exists seed, seed ∈ seeds ∧ Relation.ReflTransGen (fun m n => n ∈ next m) seed n

variable {next} {result working seeds : List node} {n m : node}

theorem mem_newRows :
    n ∈ newRows next result working <-> (exists m, m ∈ working ∧ n ∈ next m) ∧ n ∉ result := by
  simp [newRows]

omit [DecidableEq node] in
theorem mem_of_closed (hclosed : forall m n, m ∈ result -> n ∈ next m -> n ∈ result)
    (hseeds : forall n, n ∈ seeds -> n ∈ result) (h : Reachable next seeds n) :
    n ∈ result := by
  rcases h with ⟨seed, hseed, hpath⟩
  induction hpath with
  | refl => exact hseeds seed hseed
  | tail _ hedge ih => exact hclosed _ _ ih hedge

theorem rounds_reachable {fuel : Nat} (hresult : forall n, n ∈ result -> Reachable next seeds n)
    (hworking : forall n, n ∈ working -> n ∈ result) :
    forall n, n ∈ rounds next fuel result working -> Reachable next seeds n := by
  induction fuel generalizing result working with
  | zero => exact hresult
  | succ fuel ih =>
      unfold rounds
      have hnew : forall n, n ∈ newRows next result working -> Reachable next seeds n := by
        intro n hn
        rcases (mem_newRows.mp hn).1 with ⟨m, hm, hedge⟩
        rcases hresult m (hworking m hm) with ⟨seed, hseed, hpath⟩
        exact ⟨seed, hseed, hpath.tail hedge⟩
      split
      · exact hresult
      · apply ih
        · intro n hn
          rcases List.mem_append.mp hn with hn | hn
          · exact hresult n hn
          · exact hnew n hn
        · exact fun n hn => List.mem_append_right _ hn

theorem missing_lt {nodes new : List node} (hn : n ∈ nodes) (hnew : n ∈ new)
    (hresult : n ∉ result) :
    (nodes.filter (fun m => m ∉ result ++ new)).length <
      (nodes.filter (fun m => m ∉ result)).length := by
  have hsplit : nodes.filter (fun m => m ∉ result ++ new) =
      (nodes.filter (fun m => m ∉ result)).filter (fun m => m ∉ new) := by
    rw [List.filter_filter]
    apply List.filter_congr
    intro m _
    simp [Bool.and_comm]
  rw [hsplit]
  apply List.length_filter_lt_length_iff_exists.mpr
  exact ⟨n, List.mem_filter.mpr ⟨hn, by simpa using hresult⟩, by simpa using hnew⟩

/-- With enough fuel the result is closed.  The successors of everything but the last
round are in the result already, and the fuel covers every node that is missing. -/
theorem rounds_closed {fuel : Nat} {nodes : List node}
    (hnodes : forall m n, n ∈ next m -> n ∈ nodes)
    (hdone : forall m n, m ∈ result -> m ∉ working -> n ∈ next m -> n ∈ result)
    (hfuel : (nodes.filter (fun m => m ∉ result)).length ≤ fuel) :
    (forall n, n ∈ result -> n ∈ rounds next fuel result working) ∧
      forall m n, m ∈ rounds next fuel result working -> n ∈ next m ->
        n ∈ rounds next fuel result working := by
  induction fuel generalizing result working with
  | zero =>
      refine ⟨fun n hn => hn, ?_⟩
      intro m n _ hedge
      by_contra hmissing
      have hout : n ∉ result := hmissing
      have hin : n ∈ nodes.filter (fun m => m ∉ result) :=
        List.mem_filter.mpr ⟨hnodes m n hedge, by simpa using hout⟩
      rw [List.length_eq_zero_iff.mp (Nat.le_zero.mp hfuel)] at hin
      cases hin
  | succ fuel ih =>
      unfold rounds
      split
      · rename_i hnone
        refine ⟨fun n hn => hn, ?_⟩
        intro m n hm hedge
        by_cases hworking : m ∈ working
        · by_contra hout
          have hnew := mem_newRows.mpr ⟨⟨m, hworking, hedge⟩, hout⟩
          rw [hnone] at hnew
          cases hnew
        · exact hdone m n hm hworking hedge
      · rename_i hsome
        obtain ⟨first, hfirst⟩ := List.exists_mem_of_ne_nil _ hsome
        rcases mem_newRows.mp hfirst with ⟨⟨m0, _, hedge0⟩, hout⟩
        have hlt := missing_lt (hnodes m0 first hedge0) hfirst hout
        have hdone' : forall m n, m ∈ result ++ newRows next result working ->
            m ∉ newRows next result working -> n ∈ next m ->
            n ∈ result ++ newRows next result working := by
          intro m n hm hnot hedge
          have hold : m ∈ result := (List.mem_append.mp hm).resolve_right hnot
          by_cases hworking : m ∈ working
          · by_cases hin : n ∈ result
            · exact List.mem_append_left _ hin
            · exact List.mem_append_right _ (mem_newRows.mpr ⟨⟨m, hworking, hedge⟩, hin⟩)
          · exact List.mem_append_left _ (hdone m n hold hworking hedge)
        have hrest := ih hdone' (by omega)
        exact ⟨fun n hn => hrest.1 n (List.mem_append_left _ hn), hrest.2⟩

theorem mem_recursiveUnion {edges : Nat} (nodes : List node)
    (hnodes : forall m n, n ∈ next m -> n ∈ nodes) (hedges : nodes.length ≤ edges) :
    n ∈ recursiveUnion next edges seeds <-> Reachable next seeds n := by
  constructor
  · apply rounds_reachable
    · intro n hn
      exact ⟨n, List.mem_dedup.mp hn, Relation.ReflTransGen.refl⟩
    · exact fun n hn => hn
  · intro h
    have hdone : forall m n, m ∈ seeds.dedup -> m ∉ seeds.dedup -> n ∈ next m ->
        n ∈ seeds.dedup := fun m n hm hnot => absurd hm hnot
    have hclosed := rounds_closed hnodes hdone
      (Nat.le_trans (List.length_filter_le _ _) hedges)
    exact mem_of_closed hclosed.2
      (fun n hn => hclosed.1 n (List.mem_dedup.mpr hn)) h

end Relational
end ServerComponents
