/-! Association lists kept in ascending key order, and the maps built on them. A key occurs at most
once; writing a key again replaces its value. -/

namespace DocSections

namespace Assoc

variable {κ α : Type} [Ord κ]

/-- Writes `a` at `k`, keeping ascending keys ascending. -/
def insert (k : κ) (a : α) : List (κ × α) → List (κ × α)
  | [] => [(k, a)]
  | (k', a') :: rest =>
    match compare k k' with
    | .lt => (k, a) :: (k', a') :: rest
    | .eq => (k, a) :: rest
    | .gt => (k', a') :: insert k a rest

def find? (k : κ) : List (κ × α) → Option α
  | [] => none
  | (k', a) :: rest => if compare k k' = .eq then some a else find? k rest

/-- Reads the pairs left to right, so that the last pair of a key wins. -/
def ofPairs (pairs : List (κ × α)) : List (κ × α) :=
  pairs.foldl (fun acc p => insert p.1 p.2 acc) []

def Ascending (entries : List (κ × α)) : Prop :=
  entries.Pairwise (fun a b => compare a.1 b.1 = .lt)

theorem ascending_nil : Ascending ([] : List (κ × α)) := List.Pairwise.nil

theorem mem_insert {k : κ} {a : α} {e : κ × α} {entries : List (κ × α)}
    (h : e ∈ insert k a entries) : e = (k, a) ∨ e ∈ entries := by
  induction entries with
  | nil => simpa [insert] using h
  | cons p rest ih =>
    obtain ⟨k', a'⟩ := p
    unfold insert at h
    split at h
    · simpa using h
    · rcases List.mem_cons.mp h with h | h
      · exact .inl h
      · exact .inr (List.mem_cons_of_mem _ h)
    · rcases List.mem_cons.mp h with h | h
      · exact .inr (by simp [h])
      · exact (ih h).imp id (List.mem_cons_of_mem _)

theorem insert_ascending [Std.TransOrd κ] [Std.LawfulEqOrd κ] (k : κ) (a : α)
    {entries : List (κ × α)} (h : Ascending entries) : Ascending (insert k a entries) := by
  induction entries with
  | nil => simp [insert, Ascending]
  | cons p rest ih =>
    obtain ⟨k', a'⟩ := p
    have hp := List.pairwise_cons.mp h
    unfold insert
    split
    · rename_i hlt
      refine List.pairwise_cons.mpr ⟨fun e he => ?_, h⟩
      rcases List.mem_cons.mp he with rfl | he
      · exact hlt
      · exact Std.TransCmp.lt_trans hlt (hp.1 e he)
    · rename_i heq
      refine List.pairwise_cons.mpr ⟨fun e he => ?_, hp.2⟩
      rw [Std.LawfulEqCmp.eq_of_compare heq]
      exact hp.1 e he
    · rename_i hgt
      refine List.pairwise_cons.mpr ⟨fun e he => ?_, ih hp.2⟩
      rcases mem_insert he with rfl | he
      · exact Std.OrientedCmp.gt_iff_lt.mp hgt
      · exact hp.1 e he

theorem find?_insert_self [Std.ReflOrd κ] (k : κ) (a : α) (entries : List (κ × α)) :
    find? k (insert k a entries) = some a := by
  induction entries with
  | nil => simp [insert, find?]
  | cons p rest ih =>
    obtain ⟨k', a'⟩ := p
    unfold insert
    split <;> rename_i hc <;> simp [find?, hc, ih]

theorem find?_insert_of_ne [Std.LawfulEqOrd κ] {k l : κ} (h : l ≠ k) (a : α)
    (entries : List (κ × α)) : find? l (insert k a entries) = find? l entries := by
  have hne : ∀ {m : κ}, m = k → compare l m ≠ .eq := fun e hc =>
    h ((Std.LawfulEqCmp.eq_of_compare hc).trans e)
  induction entries with
  | nil => simp [insert, find?, hne rfl]
  | cons p rest ih =>
    obtain ⟨k', a'⟩ := p
    unfold insert
    split
    · simp [find?, hne rfl]
    · rename_i hc
      simp [find?, hne rfl, hne (Std.LawfulEqCmp.eq_of_compare hc).symm]
    · simp [find?, ih]

theorem ofPairs_ascending [Std.TransOrd κ] [Std.LawfulEqOrd κ] (pairs : List (κ × α)) :
    Ascending (ofPairs pairs) := by
  suffices h : ∀ acc : List (κ × α), Ascending acc →
      Ascending (pairs.foldl (fun acc p => insert p.1 p.2 acc) acc) from h [] ascending_nil
  induction pairs with
  | nil => exact fun _ h => h
  | cons p rest ih => exact fun acc h => ih _ (insert_ascending p.1 p.2 h)

theorem mem_ofPairs {e : κ × α} {pairs : List (κ × α)} (h : e ∈ ofPairs pairs) : e ∈ pairs := by
  suffices hs : ∀ acc : List (κ × α),
      e ∈ pairs.foldl (fun acc p => insert p.1 p.2 acc) acc → e ∈ acc ∨ e ∈ pairs by
    simpa using hs [] h
  clear h
  induction pairs with
  | nil => exact fun _ h => .inl h
  | cons p rest ih =>
    intro acc h
    rcases ih _ h with h | h
    · rcases mem_insert h with rfl | h
      · exact .inr (by simp)
      · exact .inl h
    · exact .inr (List.mem_cons_of_mem _ h)

theorem insert_of_forall_lt [Std.OrientedOrd κ] {k : κ} (a : α) {entries : List (κ × α)}
    (h : ∀ e ∈ entries, compare e.1 k = .lt) : insert k a entries = entries ++ [(k, a)] := by
  induction entries with
  | nil => rfl
  | cons p rest ih =>
    have hp : compare k p.1 = .gt := Std.OrientedCmp.gt_iff_lt.mpr (h p (by simp))
    rw [insert, hp]
    simp only
    rw [ih fun e he => h e (List.mem_cons_of_mem _ he)]
    rfl

/-- Pairs in ascending order are read back as they are. -/
theorem ofPairs_of_ascending [Std.OrientedOrd κ] {pairs : List (κ × α)} (h : Ascending pairs) :
    ofPairs pairs = pairs := by
  suffices hs : ∀ acc : List (κ × α), Ascending (acc ++ pairs) →
      pairs.foldl (fun acc p => insert p.1 p.2 acc) acc = acc ++ pairs from hs [] h
  clear h
  induction pairs with
  | nil => simp
  | cons p rest ih =>
    intro acc h
    have hlt : ∀ e ∈ acc, compare e.1 p.1 = .lt := fun e he =>
      (List.pairwise_append.mp h).2.2 e he p (by simp)
    rw [List.foldl_cons, insert_of_forall_lt p.2 hlt, ih _ (by simpa using h)]
    simp

end Assoc

/-- A finite map that lists its keys in ascending order. -/
structure OrderedMap (κ α : Type) [Ord κ] where
  entries : List (κ × α)
  ascending : Assoc.Ascending entries

namespace OrderedMap

variable {κ α : Type} [Ord κ]

def empty : OrderedMap κ α := ⟨[], Assoc.ascending_nil⟩

def insert [Std.TransOrd κ] [Std.LawfulEqOrd κ] (m : OrderedMap κ α) (k : κ) (a : α) :
    OrderedMap κ α :=
  ⟨Assoc.insert k a m.entries, Assoc.insert_ascending k a m.ascending⟩

def ofPairs [Std.TransOrd κ] [Std.LawfulEqOrd κ] (pairs : List (κ × α)) : OrderedMap κ α :=
  ⟨Assoc.ofPairs pairs, Assoc.ofPairs_ascending pairs⟩

def get? (m : OrderedMap κ α) (k : κ) : Option α := Assoc.find? k m.entries

def contains (m : OrderedMap κ α) (k : κ) : Bool := (m.get? k).isSome

def keys (m : OrderedMap κ α) : List κ := m.entries.map Prod.fst

def values (m : OrderedMap κ α) : List α := m.entries.map Prod.snd

def size (m : OrderedMap κ α) : Nat := m.entries.length

theorem get?_empty (k : κ) : (empty : OrderedMap κ α).get? k = none := rfl

theorem get?_insert_self [Std.TransOrd κ] [Std.LawfulEqOrd κ] (m : OrderedMap κ α) (k : κ)
    (a : α) : (m.insert k a).get? k = some a :=
  Assoc.find?_insert_self k a m.entries

theorem get?_insert_of_ne [Std.TransOrd κ] [Std.LawfulEqOrd κ] (m : OrderedMap κ α) {k l : κ}
    (h : l ≠ k) (a : α) : (m.insert k a).get? l = m.get? l :=
  Assoc.find?_insert_of_ne h a m.entries

end OrderedMap

end DocSections
