import Pasion.Data.Basic
import Pasion.Text.Fallible

/-! Pages of a query ordered by id, and the cursors that lead from one to the next. -/
namespace Pasion

inductive PaginationDirection where
  | forward
  | backward

structure Pagination where
  (before after : Option Ulid)
  count : ℕ
  direction : PaginationDirection

/-- Each edge has its cursor in front. -/
structure Page (α : Type) where
  (hasNextPage hasPreviousPage : Bool)
  edges : List (Ulid × α)

def Page.tryMap {α β ε : Type} (p : Page α) (f : Ulid × α → Except ε β) : Except ε (Page β) :=
  (p.edges.mapM (fun edge => (f edge).map (edge.1, ·))).map
    (fun edges => ⟨p.hasNextPage, p.hasPreviousPage, edges⟩)

theorem Page.tryMap_ok {α β ε : Type} {p : Page α} {f : Ulid × α → Except ε β} {q : Page β}
    (h : p.tryMap f = .ok q) :
    q.hasNextPage = p.hasNextPage ∧
      List.Forall₂ (fun x y => y.1 = x.1 ∧ f x = .ok y.2) p.edges q.edges := by
  unfold Page.tryMap at h
  cases hm : p.edges.mapM (fun edge => (f edge).map (edge.1, ·)) with
  | error e =>
    rw [hm] at h
    cases h
  | ok edges =>
    rw [hm] at h
    cases h
    refine ⟨rfl, (Fallible.forall₂_of_mapM_eq_ok hm).imp fun x y hxy => ?_⟩
    cases hf : f x with
    | error e =>
      rw [hf] at hxy
      cases hxy
    | ok b =>
      rw [hf] at hxy
      cases hxy
      exact ⟨rfl, rfl⟩

theorem Page.tryMap_of_forall {α β ε : Type} {p : Page α} {f : Ulid × α → Except ε β}
    (h : ∀ x ∈ p.edges, ∃ b, f x = .ok b) : ∃ q, p.tryMap f = .ok q := by
  have hmap : ∀ l : List (Ulid × α), (∀ x ∈ l, ∃ b, f x = .ok b) →
      ∃ m, l.mapM (fun edge => (f edge).map (edge.1, ·)) = .ok m := by
    intro l hl
    induction l with
    | nil => exact ⟨[], rfl⟩
    | cons x rest ih =>
      obtain ⟨b, hb⟩ := hl x List.mem_cons_self
      obtain ⟨m, hm⟩ := ih fun y hy => hl y (List.mem_cons_of_mem _ hy)
      refine ⟨(x.1, b) :: m, ?_⟩
      rw [List.mapM_cons, hb, hm]
      rfl
  obtain ⟨m, hm⟩ := hmap p.edges h
  unfold Page.tryMap
  rw [hm]
  exact ⟨_, rfl⟩

namespace Pagination

variable {α : Type}

def first (count : ℕ) : Pagination := ⟨none, none, count, .forward⟩

def withAfter (p : Pagination) (cursor : Ulid) : Pagination := { p with after := some cursor }

/-- One more than the page holds, as a 64-bit signed number. -/
def limit (count : ℕ) : ℕ := min (count + 1) (2 ^ 63 - 1)

def between (p : Pagination) (id : Ulid) : Bool := p.after.all (· < id) && p.before.all (id < ·)

/-- The rows that the order and the limit of the query leave. -/
def cut (p : Pagination) (window : List (Ulid × α)) : List (Ulid × α) :=
  match p.direction with
  | .forward => window.take (limit p.count)
  | .backward => window.reverse.take (limit p.count)

def fetch (p : Pagination) (rows : List (Ulid × α)) : List (Ulid × α) :=
  p.cut (rows.filter (fun r => p.between r.1))

/-- The sum of the test wraps around, as it does in a release build. -/
def process (p : Pagination) (nodes : List (Ulid × α)) : Page α :=
  let isFull : Bool := nodes.length = (p.count + 1) % 2 ^ 64
  let nodes := if isFull then nodes.dropLast else nodes
  match p.direction with
  | .forward => ⟨isFull, false, nodes⟩
  | .backward => ⟨false, isFull, nodes.reverse⟩

def page (p : Pagination) (rows : List (Ulid × α)) : Page α := p.process (p.fetch rows)

variable {p : Pagination} {rows window : List (Ulid × α)} {x : Ulid × α}
variable {nodes : List (Ulid × α)}

theorem process_cut (hdir : p.direction = .forward) (hcount : p.count < 2 ^ 63 - 1) :
    p.process (p.cut window) = ⟨p.count < window.length, false, window.take p.count⟩ := by
  have hlimit : limit p.count = p.count + 1 := by unfold limit; omega
  have hsum : (p.count + 1) % 2 ^ 64 = p.count + 1 := Nat.mod_eq_of_lt (by omega)
  simp only [process, cut, hdir, hlimit, hsum]
  by_cases hfull : p.count < window.length
  · have hlen : (window.take (p.count + 1)).length = p.count + 1 := by
      rw [List.length_take]; omega
    have hdrop : (window.take (p.count + 1)).dropLast = window.take p.count := by
      rw [List.dropLast_eq_take, hlen, List.take_take]
      simp
    simp [hlen, hfull, hdrop]
  · have hlen : (window.take (p.count + 1)).length ≠ p.count + 1 := by
      rw [List.length_take]; omega
    rw [List.take_of_length_le (by omega : window.length ≤ p.count)]
    rw [List.take_of_length_le (by omega : window.length ≤ p.count + 1)] at hlen ⊢
    simp [hlen, hfull]

theorem mem_of_mem_page (h : x ∈ (p.page rows).edges) : x ∈ rows := by
  have hnodes : x ∈ p.fetch rows := by
    unfold page process at h
    have hsub : ∀ {c : Bool}, x ∈ (if c then (p.fetch rows).dropLast else p.fetch rows) →
        x ∈ p.fetch rows := by
      intro c hc
      cases c with
      | true => exact List.dropLast_subset _ hc
      | false => exact hc
    cases hdir : p.direction <;> simp only [hdir, List.mem_reverse] at h <;> exact hsub h
  unfold fetch cut at hnodes
  have hwindow : x ∈ rows.filter (fun r => p.between r.1) := by
    cases hdir : p.direction <;> simp only [hdir] at hnodes
    · exact List.mem_of_mem_take hnodes
    · exact List.mem_reverse.mp (List.mem_of_mem_take hnodes)
  exact (List.mem_filter.mp hwindow).1

/-- The last page holds every row that is left. -/
theorem edges_of_last (hdir : p.direction = .forward) (hcount : p.count < 2 ^ 63 - 1)
    (hlast : (p.process (p.cut window)).hasNextPage = false) :
    (p.process (p.cut window)).edges = window := by
  rw [process_cut hdir hcount] at hlast ⊢
  have hlen := of_decide_eq_false hlast
  exact List.take_of_length_le (by omega)

theorem edges_of_next (hdir : p.direction = .forward) (hcount : p.count < 2 ^ 63 - 1)
    (hpos : 0 < p.count) (hnext : (p.process (p.cut window)).hasNextPage = true)
    (hsorted : window.Pairwise (fun a b => a.1 ≤ b.1)) :
    ∃ l, (p.process (p.cut window)).edges.getLast? = some l ∧ l ∈ window ∧
      (∀ x ∈ (p.process (p.cut window)).edges, x ∈ window ∧ x.1 ≤ l.1) ∧
      ∀ x ∈ window, x.1 < l.1 → x ∈ (p.process (p.cut window)).edges := by
  rw [process_cut hdir hcount] at hnext ⊢
  have hlen := of_decide_eq_true hnext
  have hne : window.take p.count ≠ [] := by
    intro h
    have := congrArg List.length h
    rw [List.length_take, List.length_nil] at this
    omega
  have hsplit : (window.take p.count ++ window.drop p.count).Pairwise (fun a b => a.1 ≤ b.1) := by
    rw [List.take_append_drop]
    exact hsorted
  obtain ⟨htake, -, hcross⟩ := List.pairwise_append.mp hsplit
  refine ⟨_, List.getLast?_eq_some_getLast hne, List.mem_of_mem_take (List.getLast_mem hne), ?_, ?_⟩
  · intro x hx
    refine ⟨List.mem_of_mem_take hx, ?_⟩
    rw [← List.dropLast_concat_getLast hne] at hx htake
    rcases List.mem_append.mp hx with hx | hx
    · exact (List.pairwise_append.mp htake).2.2 x hx _ (List.mem_singleton_self _)
    · exact Nat.le_of_eq (congrArg Prod.fst (List.mem_singleton.mp hx))
  · intro x hx hlt
    rw [← List.take_append_drop p.count window] at hx
    rcases List.mem_append.mp hx with hx | hx
    · exact hx
    · have hle := hcross _ (List.getLast_mem hne) x hx
      exact absurd hle (Nat.not_le.mpr hlt)

theorem foldl_withAfter (p : Pagination) (edges : List (Ulid × α)) :
    edges.foldl (fun c edge => c.withAfter edge.1) p =
      (edges.getLast?.elim p (fun edge => p.withAfter edge.1)) := by
  induction edges generalizing p with
  | nil => rfl
  | cons edge rest ih =>
    rw [List.foldl_cons, ih]
    cases rest with
    | nil => rfl
    | cons edge' rest' =>
      rw [List.getLast?_cons_cons]
      cases h : (edge' :: rest').getLast? with
      | none => simp at h
      | some l => rfl

theorem foldl_withAfter_congr {β : Type} {edges : List (Ulid × β)}
    (h : List.Forall₂ (fun x y => y.1 = x.1) edges nodes) (p : Pagination) :
    nodes.foldl (fun cursor edge => cursor.withAfter edge.1) p =
      edges.foldl (fun cursor edge => cursor.withAfter edge.1) p := by
  induction h generalizing p with
  | nil => rfl
  | cons hxy _ ih => rw [List.foldl_cons, List.foldl_cons, ih, hxy]

theorem foldl_withAfter_process (hdir : p.direction = .forward)
    (hcount : p.count < 2 ^ 63 - 1) (hpos : 0 < p.count) (hnext : (p.process nodes).hasNextPage = true) :
    ∃ l ∈ nodes, (p.process nodes).edges.getLast? = some l ∧
      (p.process nodes).edges.foldl (fun c edge => c.withAfter edge.1) p = p.withAfter l.1 := by
  have hsum : (p.count + 1) % 2 ^ 64 = p.count + 1 := Nat.mod_eq_of_lt (by omega)
  have hfull : nodes.length = p.count + 1 := by simpa only [process, hdir, hsum, decide_eq_true_eq] using hnext
  have hedges : (p.process nodes).edges = nodes.dropLast := by
    simp only [process, hdir, hsum, hfull, decide_true, if_true]
  have hne : nodes.dropLast ≠ [] := by
    intro hnil
    have hlen := congrArg List.length hnil
    rw [List.length_dropLast, hfull, List.length_nil] at hlen
    omega
  have hlast := List.getLast?_eq_some_getLast hne
  refine ⟨_, List.dropLast_subset _ (List.getLast_mem hne), ?_, ?_⟩
  · rw [hedges, hlast]
  · rw [hedges, foldl_withAfter, hlast]
    rfl

theorem between_withAfter {id cursor : Ulid} (hcursor : p.between cursor)
    (h : (p.withAfter cursor).between id) : p.between id ∧ id ≠ cursor := by
  simp only [between, withAfter, Option.all_some, Bool.and_eq_true, decide_eq_true_eq] at *
  obtain ⟨hlt, hbefore⟩ := h
  refine ⟨⟨?_, hbefore⟩, Nat.ne_of_gt hlt⟩
  cases hafter : p.after with
  | none => rfl
  | some a =>
    have ha : a < cursor := by simpa [hafter] using hcursor.1
    simpa using Nat.lt_trans ha hlt

def remaining (p : Pagination) (rows : List (Ulid × α)) : ℕ :=
  (rows.filter (fun r => p.between r.1)).length

/-- Moving the cursor to a row that is left leaves fewer. -/
theorem remaining_withAfter_lt (hx : x ∈ rows) (hbetween : p.between x.1) :
    (p.withAfter x.1).remaining rows < p.remaining rows := by
  have hsub : rows.filter (fun r => (p.withAfter x.1).between r.1) =
      (rows.filter (fun r => p.between r.1)).filter
        (fun r => (p.withAfter x.1).between r.1) := by
    rw [List.filter_filter]
    refine List.filter_congr fun r _ => ?_
    rw [Bool.eq_iff_iff, Bool.and_eq_true]
    exact ⟨fun h => ⟨h, (between_withAfter hbetween h).1⟩, fun h => h.1⟩
  unfold remaining
  rw [hsub]
  apply List.length_filter_lt_length_iff_exists.mpr
  refine ⟨x, List.mem_filter.mpr ⟨hx, hbetween⟩, ?_⟩
  intro h
  exact (between_withAfter hbetween h).2 rfl

end Pagination
end Pasion
