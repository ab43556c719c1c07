import Pasion.Text.Decimal
import Pasion.Text.Json

/-! Values written as JSON and read again, and the members of an object that may be absent. -/
namespace Json

namespace Value

variable {key : String} {members front : List (String × Value)}

/-- The members that are there. -/
def present (members : List (String × Option Value)) : List (String × Value) :=
  members.filterMap (fun m => m.2.map (m.1, ·))

theorem lookup_eq_none_of_not_mem (h : key ∉ members.map Prod.fst) : lookup key members = none := by
  induction members with
  | nil => rfl
  | cons m rest ih =>
    rw [List.map_cons, List.mem_cons, not_or] at h
    rw [lookup, if_neg (Ne.symm h.1), ih h.2]

theorem mem_of_lookup {v : Value} (h : lookup key members = some v) : (key, v) ∈ members := by
  induction members with
  | nil => cases h
  | cons m rest ih =>
    rw [lookup] at h
    split_ifs at h with hkey
    · cases h
      rw [← hkey]
      exact List.mem_cons_self
    · exact List.mem_cons_of_mem _ (ih h)

theorem mem_of_mem_present {members : List (String × Option Value)}
    (h : key ∈ (present members).map Prod.fst) : key ∈ members.map Prod.fst := by
  obtain ⟨entry, hentry, rfl⟩ := List.mem_map.mp h
  obtain ⟨m, hm, hvalue⟩ := List.mem_filterMap.mp hentry
  obtain ⟨v, -, rfl⟩ := Option.map_eq_some_iff.mp hvalue
  exact List.mem_map_of_mem hm

theorem nodup_present {members : List (String × Option Value)}
    (h : (members.map Prod.fst).Nodup) : ((present members).map Prod.fst).Nodup := by
  induction members with
  | nil => exact List.nodup_nil
  | cons m rest ih =>
    rw [List.map_cons, List.nodup_cons] at h
    obtain ⟨key, value⟩ := m
    cases value with
    | none => exact ih h.2
    | some v => exact List.nodup_cons.mpr ⟨fun hmem => h.1 (mem_of_mem_present hmem), ih h.2⟩

/-- Under distinct names each member is found. -/
theorem lookup_present {value : Option Value}
    {members : List (String × Option Value)} (hnodup : (members.map Prod.fst).Nodup)
    (hmem : (key, value) ∈ members) : lookup key (present members) = value := by
  induction members with
  | nil => cases hmem
  | cons m rest ih =>
    rw [List.map_cons, List.nodup_cons] at hnodup
    obtain ⟨name, v⟩ := m
    obtain heq | hrest := List.mem_cons.mp hmem
    · obtain ⟨rfl, rfl⟩ := Prod.mk.inj heq
      have habsent : lookup key (present rest) = none :=
        lookup_eq_none_of_not_mem fun h => hnodup.1 (mem_of_mem_present h)
      cases value with
      | none => exact habsent
      | some v => simp [present, lookup]
    · have hne : name ≠ key := by
        rintro rfl
        exact hnodup.1 (List.mem_map.mpr ⟨_, hrest, rfl⟩)
      cases v with
      | none => exact ih hnodup.2 hrest
      | some v =>
        have hcons : present ((name, some v) :: rest) = (name, v) :: present rest := rfl
        rw [hcons, lookup, if_neg hne, ih hnodup.2 hrest]

theorem insertMember_of_not_mem {v : Value}
    (h : key ∉ members.map Prod.fst) : insertMember key v members = members ++ [(key, v)] := by
  induction members with
  | nil => rfl
  | cons m rest ih =>
    rw [List.map_cons, List.mem_cons, not_or] at h
    rw [insertMember, if_neg (Ne.symm h.1), ih h.2, List.cons_append]

theorem of_mem_insertMember {v : Value}
    {m : String × Value} (h : m ∈ insertMember key v members) : m = (key, v) ∨ m ∈ members := by
  induction members with
  | nil => exact Or.inl (List.mem_singleton.mp h)
  | cons other rest ih =>
    rw [insertMember] at h
    split_ifs at h with hkey
    · obtain rfl | h := List.mem_cons.mp h
      · exact Or.inl rfl
      · exact Or.inr (List.mem_cons_of_mem _ h)
    · obtain rfl | h := List.mem_cons.mp h
      · exact Or.inr List.mem_cons_self
      · exact (ih h).imp_right (List.mem_cons_of_mem _)

theorem of_mem_foldl_insertMember {m : String × Value}
    (h : m ∈ members.foldl (fun acc e => insertMember e.1 e.2 acc) front) :
    m ∈ front ∨ m ∈ members := by
  induction members generalizing front with
  | nil => exact Or.inl h
  | cons e rest ih =>
    obtain h | h := ih h
    · obtain rfl | h := of_mem_insertMember h
      · exact Or.inr List.mem_cons_self
      · exact Or.inl h
    · exact Or.inr (List.mem_cons_of_mem _ h)

/-- Members with distinct names that are inserted in turn stay as they are. -/
theorem foldl_insertMember (h : ((front ++ members).map Prod.fst).Nodup) :
    members.foldl (fun acc e => insertMember e.1 e.2 acc) front = front ++ members := by
  induction members generalizing front with
  | nil => simp
  | cons m rest ih =>
    have hfront : m.1 ∉ front.map Prod.fst := by
      rw [List.map_append, List.map_cons] at h
      intro hmem
      exact (List.nodup_append.mp h).2.2 _ hmem _ List.mem_cons_self rfl
    have hnext : ((front ++ [m] ++ rest).map Prod.fst).Nodup := by
      rwa [List.append_assoc, List.singleton_append]
    rw [List.foldl_cons, insertMember_of_not_mem hfront, ih hnext, List.append_assoc,
      List.singleton_append]

end Value

/-- How the values of a type are written and read. No value is written as `null`. -/
structure Codec (α : Type) where
  toValue : α → Value
  fromValue : Value → Option α
  toValue_ne_null : ∀ a, toValue a ≠ .null

namespace Codec

variable {α β : Type}
variable {c : Codec α}

/-- The value is read as it was written. -/
def Reads (c : Codec α) (a : α) : Prop := c.fromValue (c.toValue a) = some a

def string : Codec String := ⟨.string, Value.asStr, nofun⟩

def bool : Codec Bool where
  toValue := .bool
  fromValue
    | .bool b => some b
    | _ => none
  toValue_ne_null := nofun

def int : Codec ℤ where
  toValue n := .number (Str.ofInt n)
  fromValue
    | .number text => Str.parseInt text
    | _ => none
  toValue_ne_null := nofun

def list (c : Codec α) : Codec (List α) where
  toValue l := .array (l.map c.toValue)
  fromValue
    | .array items => items.mapM c.fromValue
    | _ => none
  toValue_ne_null := nofun

/-- Through the values of another type. -/
def via (c : Codec β) (write : α → β) (read : β → Option α) : Codec α where
  toValue a := c.toValue (write a)
  fromValue v := (c.fromValue v).bind read
  toValue_ne_null a := c.toValue_ne_null (write a)

@[simp] theorem reads_string (s : String) : string.Reads s := rfl

@[simp] theorem reads_bool (b : Bool) : bool.Reads b := rfl

@[simp] theorem reads_int (n : ℤ) : int.Reads n := Str.parseInt_ofInt n

theorem reads_list_iff {l : List α} : c.list.Reads l ↔ ∀ a ∈ l, c.Reads a := by
  change (l.map c.toValue).mapM c.fromValue = some l ↔ _
  induction l with
  | nil => simp
  | cons a rest ih =>
    rw [List.map_cons, List.mapM_cons, List.forall_mem_cons, ← ih]
    constructor
    · intro h
      obtain ⟨x, hx, h⟩ := Option.bind_eq_some_iff.mp h
      obtain ⟨xs, hxs, h⟩ := Option.bind_eq_some_iff.mp h
      obtain ⟨rfl, rfl⟩ := List.cons.inj (Option.some.inj h)
      exact ⟨hx, hxs⟩
    · rintro ⟨ha, hrest⟩
      rw [ha, hrest]
      rfl

theorem reads_via_iff {c : Codec β} {write : α → β} {read : β → Option α} {a : α}
    (h : c.Reads (write a)) : (c.via write read).Reads a ↔ read (write a) = some a := by
  change (c.fromValue (c.toValue (write a))).bind read = some a ↔ _
  rw [h, Option.bind_some]

def member (c : Codec α) (name : String) (a : Option α) : String × Option Value :=
  (name, a.map c.toValue)

/-- A member that is absent or `null` is no value. -/
def readMember (c : Codec α) (name : String) (members : List (String × Value)) :
    Option (Option α) :=
  match Value.lookup name members with
  | none => some none
  | some .null => some none
  | some v => (c.fromValue v).map some

theorem readMember_present {name : String} {a : Option α}
    {members : List (String × Option Value)} (hnodup : (members.map Prod.fst).Nodup)
    (hmem : c.member name a ∈ members) :
    c.readMember name (Value.present members) = some a ↔ ∀ x ∈ a, c.Reads x := by
  unfold readMember
  rw [Value.lookup_present hnodup hmem]
  cases a with
  | none => simp
  | some x =>
    have hnull := c.toValue_ne_null x
    cases hx : c.toValue x with
    | null => exact absurd hx hnull
    | _ => simp [hx, Reads]

theorem of_readMember {name : String} {a : α} {members : List (String × Value)}
    (h : c.readMember name members = some (some a)) :
    ∃ v, (name, v) ∈ members ∧ c.fromValue v = some a := by
  unfold readMember at h
  split at h
  · cases h
  · cases h
  · next v _ hlookup =>
    obtain ⟨b, hb, hab⟩ := Option.map_eq_some_iff.mp h
    cases hab
    exact ⟨v, Value.mem_of_lookup hlookup, hb⟩

end Codec

end Json
