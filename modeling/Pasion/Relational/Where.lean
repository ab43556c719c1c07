import Mathlib.Tactic.Common

/-! Boolean SQL expressions as text: conjunction binds tighter than disjunction. -/
namespace Relational

/-- A piece of a condition over rows of type `R`. -/
inductive Token (R : Type) where
  | test (p : R → Bool)
  | and
  | or
  | opening
  | closing

/-- The disjuncts before the last `OR`, and the conjunction being read. -/
structure Level where
  (before current : Bool)

def Level.value (l : Level) : Bool := l.before || l.current

def Level.start : Level := ⟨false, true⟩

def Level.meet (l : Level) (b : Bool) : Level := { l with current := l.current && b }

abbrev Clause (R : Type) := List (Token R)

namespace Clause

variable {R : Type}

def step (r : R) : Level × List Level → Token R → Level × List Level
  | (l, outer), .test p => (l.meet (p r), outer)
  | (l, outer), .and => (l, outer)
  | (l, outer), .or => (⟨l.value, true⟩, outer)
  | (l, outer), .opening => (.start, l :: outer)
  | (l, up :: outer), .closing => (up.meet l.value, outer)
  | (l, []), .closing => (l, [])

def eval (c : Clause R) (r : R) : Bool := (c.foldl (step r) (.start, [])).1.value

def test (p : R → Bool) : Clause R := [.test p]

/-- `(a OR b)`, as the query builder groups a disjunction of its own. -/
def either (a b : Clause R) : Clause R := [.opening] ++ a ++ [.or] ++ b ++ [.closing]

/-- One more `.filter` on a query: `(prev AND next)`, with both texts as they are. -/
def filter (prev : Option (Clause R)) (next : Clause R) : Option (Clause R) :=
  match prev with
  | none => some next
  | some c => some ([.opening] ++ c ++ [.and] ++ next ++ [.closing])

/-- The condition built by a sequence of `.filter` calls, true of every row if there are none. -/
def selects (cs : List (Clause R)) (r : R) : Bool :=
  match cs.foldl filter none with
  | none => true
  | some c => c.eval r

/-- The filter that an optional parameter adds to a query. -/
def filterOn {α : Type} (o : Option α) (clause : α → Clause R) : List (Clause R) :=
  o.toList.map clause

/-- Reading the clause takes the level `l` to `l'` and leaves the outer levels alone. -/
def Reads (c : Clause R) (r : R) (l l' : Level) : Prop :=
  ∀ outer, c.foldl (step r) (l, outer) = (l', outer)

/-- A clause that reads as one conjunct, whatever stands around it. -/
def Closed (c : Clause R) (r : R) : Prop := ∀ l, c.Reads r l (l.meet (c.eval r))

variable {r : R} {l l' l'' : Level} {a b c : Clause R}
variable {cs : List (Clause R)}

theorem Reads.append (ha : a.Reads r l l') (hb : b.Reads r l' l'') :
    (a ++ b : Clause R).Reads r l l'' := by
  intro outer
  rw [List.foldl_append, ha outer, hb outer]

theorem Reads.eval_eq (h : c.Reads r .start l) : c.eval r = l.value := by
  rw [eval, h []]

theorem closed_of_reads {v : Bool} (h : ∀ l, c.Reads r l (l.meet v)) : c.Closed r := by
  have hv : c.eval r = v := by
    rw [(h .start).eval_eq]
    simp [Level.start, Level.meet, Level.value]
  intro l
  rw [hv]
  exact h l

theorem reads_group (h : c.Reads r .start l') (l : Level) :
    ([.opening] ++ c ++ [.closing] : Clause R).Reads r l (l.meet l'.value) := by
  intro outer
  simp only [List.foldl_append, List.foldl_cons, List.foldl_nil, step, h (l :: outer)]

theorem closed_test (p : R → Bool) : (test p).Closed r := closed_of_reads fun _ _ => rfl

@[simp] theorem eval_test (p : R → Bool) : (test p).eval r = p r := by
  simp [test, eval, step, Level.start, Level.meet, Level.value]

theorem reads_or (ha : a.Closed r) (hb : b.Closed r) (x : Bool) :
    (a ++ [.or] ++ b : Clause R).Reads r ⟨false, x⟩ ⟨x && a.eval r, b.eval r⟩ := by
  have hor : Reads ([.or] : Clause R) r (Level.meet ⟨false, x⟩ (a.eval r))
      ⟨x && a.eval r, true⟩ := by
    intro outer
    simp [step, Level.meet, Level.value]
  refine ((ha _).append hor).append ?_
  simpa [Level.meet] using hb ⟨x && a.eval r, true⟩

theorem reads_and (ha : a.Closed r) :
    (a ++ [.and] : Clause R).Reads r .start ⟨false, a.eval r⟩ := by
  refine (ha _).append fun outer => ?_
  simp [step, Level.start, Level.meet]

theorem group_closed (h : c.Reads r .start l') : Closed ([.opening] ++ c ++ [.closing]) r ∧
      eval ([.opening] ++ c ++ [.closing]) r = l'.value := by
  refine ⟨closed_of_reads (reads_group h), ?_⟩
  rw [(reads_group h .start).eval_eq]
  simp [Level.start, Level.meet, Level.value]

theorem either_closed (ha : a.Closed r) (hb : b.Closed r) :
    (either a b).Closed r ∧ (either a b).eval r = (a.eval r || b.eval r) := by
  have h := group_closed (reads_or ha hb true)
  simpa [either, Level.value] using h

theorem filter_closed (ha : a.Closed r) (hb : b.Closed r) :
    ∃ d, filter (some a) b = some d ∧ d.Closed r ∧ d.eval r = (a.eval r && b.eval r) := by
  have h := group_closed ((reads_and ha).append (hb _))
  refine ⟨_, rfl, ?_⟩
  simpa [Level.value, Level.meet] using h

theorem foldl_filter_closed (ha : a.Closed r) (h : ∀ c ∈ cs, c.Closed r) :
    ∃ d, cs.foldl filter (some a) = some d ∧ d.eval r = (a.eval r && cs.all (·.eval r)) := by
  induction cs generalizing a with
  | nil => exact ⟨a, rfl, by simp⟩
  | cons c rest ih =>
    obtain ⟨d, hd, hclosed, heval⟩ := filter_closed ha (h c List.mem_cons_self)
    obtain ⟨d', hd', heval'⟩ := ih hclosed (fun c hc => h c (List.mem_cons_of_mem _ hc))
    refine ⟨d', by rw [List.foldl_cons, hd, hd'], ?_⟩
    rw [heval', heval, List.all_cons, Bool.and_assoc]

theorem selects_of_foldl {d : Clause R}
    (h : cs.foldl filter none = some d) : selects cs r = d.eval r := by
  rw [selects, h]

/-- A query whose filters are all grouped selects the rows that meet every one of them. -/
theorem selects_eq_all (h : ∀ c ∈ cs, c.Closed r) : selects cs r = cs.all (·.eval r) := by
  cases cs with
  | nil => rfl
  | cons c rest =>
    obtain ⟨d, hd, heval⟩ := foldl_filter_closed (h c List.mem_cons_self)
      (fun c hc => h c (List.mem_cons_of_mem _ hc))
    rw [selects_of_foldl (d := d) (by rw [List.foldl_cons, filter, hd]), heval, List.all_cons]

/-- A raw disjunction is not grouped: a filter before it joins its first half only. -/
theorem selects_raw_or (ha : a.Closed r) (hb : b.Closed r)
    (hc : c.Closed r) (h : ∀ c ∈ cs, c.Closed r) :
    selects (a :: (b ++ [.or] ++ c) :: cs) r =
      ((a.eval r && b.eval r || c.eval r) && cs.all (·.eval r)) := by
  have hab : Closed ([.opening] ++ a ++ [.and] ++ (b ++ [.or] ++ c) ++ [.closing]) r ∧
      eval ([.opening] ++ a ++ [.and] ++ (b ++ [.or] ++ c) ++ [.closing]) r =
        (a.eval r && b.eval r || c.eval r) := by
    have hread := group_closed ((reads_and ha).append (reads_or hb hc (a.eval r)))
    simpa [Level.value] using hread
  obtain ⟨d, hd, heval⟩ := foldl_filter_closed hab.1 h
  rw [selects_of_foldl (d := d) (by rw [List.foldl_cons, List.foldl_cons, filter, filter, hd]),
    heval, hab.2]

theorem filterOn_closed {α : Type} {o : Option α} {clause : α → Clause R}
    (h : ∀ a, (clause a).Closed r) : ∀ c ∈ filterOn o clause, c.Closed r := by
  intro c hc
  obtain ⟨a, -, rfl⟩ := List.mem_map.mp hc
  exact h a

theorem closed_append {ds : List (Clause R)} (hcs : ∀ c ∈ cs, c.Closed r)
    (hds : ∀ c ∈ ds, c.Closed r) : ∀ c ∈ cs ++ ds, c.Closed r := by
  intro c hc
  rcases List.mem_append.mp hc with hc | hc
  · exact hcs c hc
  · exact hds c hc

theorem all_filterOn {α : Type} {o : Option α} {clause : α → Clause R} :
    (filterOn o clause).all (·.eval r) = true ↔ ∀ a, o = some a → (clause a).eval r := by
  cases o <;> simp [filterOn]

end Clause
end Relational
