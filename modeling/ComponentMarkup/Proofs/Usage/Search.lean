import ComponentMarkup.Proofs.Usage.Recording
import Mathlib.Logic.Function.Iterate

/-!
# The search for what uses a component

A search keeps a pile of components that it has still to look at. A step takes the uppermost from
the pile; if it is new, it counts as seen and all that use it go on the pile. The pile may grow in a
step, and a component may lie on it several times. Yet each step leaves one thing less to do, if one
counts the pile together with the usages of what has not been seen: a component brings as many
others to the pile as there are usages of it, and does so once only.

So a search ends after one step for the component it starts from and one for each usage of what it
finds, on graphs with cycles as well, and in whatever order users are put on the pile.

## Main definitions

* `Search`, `Search.step` — a search on its way, and one step of it
* `Search.work` — how much is left to do
* `Search.Fits` — what every step keeps

## Main results

* `Search.work_step`, `Search.Fits.step` — one step: less to do, and nothing wrong or lost
* `Search.exists_end`, `Search.Fits.iterate` — a whole search
* `reachFrom_eq_seen` — the loop of the graph is such a search
* `ancestors_search` — when the search for what uses a component ends, and what is found then
-/

namespace ComponentMarkup.UsageGraph

open Relation (ReflTransGen)

/-- A search on its way: what has been seen, and the pile of what is still to be looked at. -/
structure Search where
  seen : List String
  pending : List String

namespace Search

variable {g : UsageGraph} {next : String → List String} {s : Search} {path n : String}

/-- A search that has not begun: the component it starts from lies on the pile. -/
def start (path : String) : Search := ⟨[], [path]⟩

/-- A step: the uppermost component is taken from the pile, and if it is new its neighbours are put
there. -/
def step (next : String → List String) : Search → Search
  | ⟨seen, []⟩ => ⟨seen, []⟩
  | ⟨seen, n :: pending⟩ => if n ∈ seen then ⟨seen, pending⟩ else ⟨n :: seen, next n ++ pending⟩

theorem step_nil (seen : List String) : step next ⟨seen, []⟩ = ⟨seen, []⟩ := rfl

theorem step_cons_of_mem {seen : List String} (old : n ∈ seen) (pending : List String) :
    step next ⟨seen, n :: pending⟩ = ⟨seen, pending⟩ :=
  if_pos old

theorem step_cons_of_notMem {seen : List String} (new : n ∉ seen) (pending : List String) :
    step next ⟨seen, n :: pending⟩ = ⟨n :: seen, next n ++ pending⟩ :=
  if_neg new

theorem step_of_pending_eq_nil (done : s.pending = []) : s.step next = s := by
  obtain ⟨seen, pending⟩ := s
  obtain rfl : pending = [] := done
  exact step_nil seen

/-! ### How long a search takes -/

/-- What is left to do: what lies on the pile, and the usages of what has not been seen. -/
def work (g : UsageGraph) (s : Search) : Nat :=
  s.pending.length + g.edges.countP fun u => u.target ∉ s.seen

theorem work_start (g : UsageGraph) (path : String) : (start path).work g = 1 + g.edges.length := by
  simp [work, start]

theorem work_of_done (done : s.pending = []) :
    s.work g = g.edges.countP fun u => u.target ∉ s.seen := by
  rw [work, done, List.length_nil, Nat.zero_add]

/-- A component that is seen takes its usages out of those that are left. -/
theorem countP_notMem_cons (usages : List Usage) {seen : List String} (new : n ∉ seen) :
    (usages.countP fun u => u.target ∉ n :: seen) + (usages.filter (·.target == n)).length =
      usages.countP fun u => u.target ∉ seen := by
  induction usages with
  | nil => rfl
  | cons u usages ih =>
    by_cases here : u.target = n
    · have unseen : u.target ∉ seen := here ▸ new
      rw [List.countP_cons_of_neg (by simp [here]), List.filter_cons_of_pos (by simp [here]),
        List.countP_cons_of_pos (by simpa using unseen), List.length_cons]
      omega
    · rw [List.filter_cons_of_neg (by simpa using here)]
      by_cases old : u.target ∈ seen
      · rw [List.countP_cons_of_neg (by simp [old]), List.countP_cons_of_neg (by simp [old]), ih]
      · rw [List.countP_cons_of_pos (by simp [here, old]),
          List.countP_cons_of_pos (by simpa using old)]
        omega

/-- A step leaves one thing less to do, also where the pile grows. -/
theorem work_step (lists : ∀ n, (next n).Perm (g.dependants n)) (more : s.pending ≠ []) :
    (s.step next).work g + 1 = s.work g := by
  obtain ⟨seen, pending⟩ := s
  cases pending with
  | nil => exact absurd rfl more
  | cons n pending =>
    by_cases old : n ∈ seen
    · rw [step_cons_of_mem old]
      simp only [work, List.length_cons]
      omega
    · have users : (next n).length = (g.edges.filter (·.target == n)).length := by
        rw [(lists n).length_eq, dependants, List.length_map]
      have left := countP_notMem_cons g.edges old
      rw [step_cons_of_notMem old]
      simp only [work, List.length_append, List.length_cons, users]
      omega

/-- A search ends, after as many steps as it has done work. -/
theorem exists_end (lists : ∀ n, (next n).Perm (g.dependants n)) (s : Search) :
    ∃ last, (∀ k, ((step next)^[k] s).pending = [] ↔ last ≤ k) ∧
      ((step next)^[last] s).work g + last = s.work g := by
  induction amount : s.work g generalizing s with
  | zero =>
    have done : s.pending = [] := by
      unfold work at amount
      exact List.length_eq_zero_iff.mp (by omega)
    refine ⟨0, fun k => ?_, amount⟩
    rw [Function.iterate_fixed (step_of_pending_eq_nil done)]
    simp [done]
  | succ amount' ih =>
    by_cases done : s.pending = []
    · refine ⟨0, fun k => ?_, amount⟩
      rw [Function.iterate_fixed (step_of_pending_eq_nil done)]
      simp [done]
    · have less := work_step lists done
      obtain ⟨last, ends, total⟩ := ih (s.step next) (by omega)
      refine ⟨last + 1, fun k => ?_, ?_⟩
      · cases k with
        | zero => simp [done]
        | succ k => rw [Function.iterate_succ_apply, ends, Nat.add_le_add_iff_right]
      · rw [Function.iterate_succ_apply]
        omega

/-! ### What a search finds -/

/-- What holds of every search that started from a component: nothing is seen twice, all that was
seen or lies on the pile is the component or uses it, and whatever uses something seen was seen
itself or lies on the pile. -/
structure Fits (g : UsageGraph) (path : String) (s : Search) : Prop where
  nodup : s.seen.Nodup
  sound : ∀ n, n ∈ s.seen ∨ n ∈ s.pending → g.IsOrUses n path
  path_mem : path ∈ s.seen ∨ path ∈ s.pending
  closed : ∀ b ∈ s.seen, ∀ a, g.Uses a b → a ∈ s.seen ∨ a ∈ s.pending

theorem fits_start (g : UsageGraph) (path : String) : (start path).Fits g path where
  nodup := List.nodup_nil
  sound n listed := by
    obtain rfl : n = path := by simpa [start] using listed
    exact .refl
  path_mem := .inr (List.mem_singleton_self path)
  closed b seen := absurd seen List.not_mem_nil

/-- A step keeps this. -/
theorem Fits.step (lists : ∀ n, (next n).Perm (g.dependants n)) (h : s.Fits g path) :
    (s.step next).Fits g path := by
  obtain ⟨seen, pending⟩ := s
  cases pending with
  | nil => exact h
  | cons n pending =>
    have users {a b : String} : a ∈ next b ↔ g.Uses a b := (lists b).mem_iff.trans mem_dependants
    by_cases old : n ∈ seen
    · rw [step_cons_of_mem old]
      -- What is taken from the pile was seen before.
      have still {a : String} (listed : a ∈ seen ∨ a ∈ n :: pending) : a ∈ seen ∨ a ∈ pending := by
        rcases listed with seen | listed
        · exact .inl seen
        · rcases List.mem_cons.mp listed with rfl | listed
          · exact .inl old
          · exact .inr listed
      exact ⟨h.nodup, fun a listed => h.sound a (listed.imp_right (List.mem_cons_of_mem n)),
        still h.path_mem, fun b seen a use => still (h.closed b seen a use)⟩
    · rw [step_cons_of_notMem old]
      have moved {a : String} (listed : a ∈ seen ∨ a ∈ n :: pending) :
          a ∈ n :: seen ∨ a ∈ next n ++ pending := by
        rcases listed with seen | listed
        · exact .inl (List.mem_cons_of_mem n seen)
        · rcases List.mem_cons.mp listed with rfl | listed
          · exact .inl List.mem_cons_self
          · exact .inr (List.mem_append_right _ listed)
      have uses : g.IsOrUses n path := h.sound n (.inr List.mem_cons_self)
      refine ⟨List.nodup_cons.mpr ⟨old, h.nodup⟩, fun a listed => ?_, moved h.path_mem,
        fun b listed a use => ?_⟩
      · rcases listed with seen | listed
        · rcases List.mem_cons.mp seen with rfl | seen
          · exact uses
          · exact h.sound a (.inl seen)
        · rcases List.mem_append.mp listed with user | listed
          · exact .head (users.mp user) uses
          · exact h.sound a (.inr (List.mem_cons_of_mem n listed))
      · rcases List.mem_cons.mp listed with rfl | seen
        · exact .inr (List.mem_append_left _ (users.mpr use))
        · exact moved (h.closed b seen a use)

/-- So does a whole search. -/
theorem Fits.iterate (lists : ∀ n, (next n).Perm (g.dependants n)) (h : s.Fits g path) (k : Nat) :
    ((Search.step next)^[k] s).Fits g path := by
  induction k generalizing s with
  | zero => exact h
  | succ k ih => exact ih (h.step lists)

/-- When the pile is empty, exactly the component and what uses it have been seen. -/
theorem Fits.mem_seen_iff (h : s.Fits g path) (done : s.pending = []) :
    n ∈ s.seen ↔ g.IsOrUses n path := by
  have empty {a : String} (listed : a ∈ s.seen ∨ a ∈ s.pending) : a ∈ s.seen :=
    listed.resolve_right (done ▸ List.not_mem_nil)
  refine ⟨fun seen => h.sound n (.inl seen), fun uses => ?_⟩
  induction uses using ReflTransGen.head_induction_on with
  | refl => exact empty h.path_mem
  | head use _ ih => exact empty (h.closed _ ih _ use)

end Search

/-! ### The loop of the graph -/

section Loop

variable {g : UsageGraph} {next : String → List String} {seen pending : List String}

/-- The loop of the graph takes the steps of a search, as long as all that comes up is known. -/
theorem reachFrom_eq_seen (known : ∀ a, ∀ b ∈ next a, b ∈ g.nodes)
    (listed : ∀ n ∈ pending, n ∈ g.nodes) {k : Nat}
    (done : ((Search.step next)^[k] ⟨seen, pending⟩).pending = []) :
    g.reachFrom next seen pending = ((Search.step next)^[k] ⟨seen, pending⟩).seen := by
  induction k generalizing seen pending with
  | zero =>
    obtain rfl : pending = [] := done
    rw [reachFrom]
    rfl
  | succ k ih =>
    rw [Function.iterate_succ_apply] at done ⊢
    cases pending with
    | nil => exact ih listed done
    | cons n pending =>
      have hn : n ∈ g.nodes := listed n List.mem_cons_self
      have others := fun m hm => listed m (List.mem_cons_of_mem n hm)
      rw [reachFrom]
      by_cases old : n ∈ seen
      · rw [Search.step_cons_of_mem old] at done ⊢
        rw [if_pos (.inl old)]
        exact ih others done
      · rw [Search.step_cons_of_notMem old] at done ⊢
        rw [if_neg (by simp [old, hn])]
        exact ih (fun m hm => (List.mem_append.mp hm).elim (known n m) (others m)) done

end Loop

variable {g : UsageGraph} {path : String}

/-- No component is found twice. -/
theorem nodup_ancestors (wf : g.WellFormed) (path : String) : (g.ancestors path).Nodup := by
  unfold ancestors reach
  split
  · rename_i known
    obtain ⟨last, ends, -⟩ :=
      Search.exists_end (fun n => .refl (g.dependants n)) (Search.start path)
    have loop : g.reachFrom g.dependants [] [path] =
        ((Search.step g.dependants)^[last] (Search.start path)).seen :=
      reachFrom_eq_seen (fun _ _ user => (wf.mem_of_uses (mem_dependants.mp user)).1)
        (fun n listed => List.mem_singleton.mp listed ▸ known) ((ends last).mpr (Nat.le_refl _))
    rw [loop]
    exact ((Search.fits_start g path).iterate (fun _ => .refl _) last).nodup
  · exact List.nodup_singleton path

/-- The search for what uses a component, on graphs that were built from a log of usages and by any
calls after that, with cycles or without, and whatever the order in which `next` lists the users of
a component. It finds the component and all that use it, directly or through others, each once. It
ends after one step for the component and one for each usage of what it finds, and not before. -/
theorem ancestors_search (root : Option String) (log : List Usage) (calls : List Call)
    (path : String) {next : String → List String}
    (lists : ∀ n, (next n).Perm (((ofUsages root log).perform calls).2.dependants n)) :
    let g := ((ofUsages root log).perform calls).2
    let found := g.ancestors path
    let steps := 1 + g.edges.countP fun u => u.target ∈ found
    (∀ n, n ∈ found ↔ g.IsOrUses n path) ∧ found.Nodup ∧
      (∀ k, ((Search.step next)^[k] (.start path)).pending = [] ↔ steps ≤ k) ∧
      ∀ k, steps ≤ k → ((Search.step next)^[k] (.start path)).seen.Perm found := by
  intro g found steps
  have wf : g.WellFormed := (wellFormed_ofUsages root log).perform calls
  obtain ⟨last, ends, total⟩ := Search.exists_end (g := g) lists (Search.start path)
  have finished {k : Nat} (done : last ≤ k) :
      ((Search.step next)^[k] (.start path)).seen.Perm found := by
    have fits := (Search.fits_start g path).iterate lists k
    refine (List.perm_ext_iff_of_nodup fits.nodup (nodup_ancestors wf path)).mpr fun n => ?_
    rw [fits.mem_seen_iff ((ends k).mpr done), mem_ancestors wf]
  -- What is left in the end are the usages of what was not found.
  have same : last = steps := by
    have split :=
      List.length_eq_countP_add_countP (fun u : Usage => u.target ∈ found) (l := g.edges)
    have seen := finished (Nat.le_refl last)
    rw [Search.work_start, Search.work_of_done ((ends last).mpr (Nat.le_refl last))] at total
    simp only [seen.mem_iff] at total
    simp only [decide_eq_true_eq] at split
    omega
  rw [← same]
  exact ⟨fun n => mem_ancestors wf, nodup_ancestors wf path, ends, fun k => finished⟩

/-- A page and a menu that use each other, and both an icon; the list uses nothing of it. -/
def ring : UsageGraph :=
  ofUsages (some "page") [⟨"page", "menu", .structural⟩, ⟨"menu", "page", .slotted⟩,
    ⟨"page", "icon", .structural⟩, ⟨"page", "list", .structural⟩, ⟨"menu", "icon", .slotted⟩]

/-- The search for what uses the icon, with the latest user on top of the pile, goes around the ring
and ends after five steps. -/
theorem ancestors_search_ring :
    let step := Search.step fun n => (ring.dependants n).reverse
    (∀ n, ((ring.dependants n).reverse).Perm (ring.dependants n)) ∧
      ring.ancestors "icon" = ["menu", "page", "icon"] ∧
      (∀ k, (step^[k] (.start "icon")).pending = [] ↔ 5 ≤ k) ∧
      (step^[5] (.start "icon")).seen.Perm ["menu", "page", "icon"] := by
  intro step
  have lists (n : String) : ((ring.dependants n).reverse).Perm (ring.dependants n) :=
    List.reverse_perm _
  have found : ring.ancestors "icon" = ["menu", "page", "icon"] := by cbv
  have steps : (1 + ring.edges.countP fun u => u.target ∈ ring.ancestors "icon") = 5 := by
    rw [found]
    cbv
  obtain ⟨-, -, ends, seen⟩ := ancestors_search _ _ [] "icon" lists
  rw [← found, ← steps]
  exact ⟨lists, rfl, ends, seen _ (Nat.le_refl _)⟩

end ComponentMarkup.UsageGraph
