/-!
# Tables

A table is a finite map whose keys are numbered.  The entries are kept in the order of the key
numbers, so a table is determined by what its look-ups answer.

    get? (insert t k v) k' = if k = k' then some v else get? t k'           (get?_insert)
    get? (erase t k) k' = if k = k' then none else get? t k'                (get?_erase)
    (∀ k, get? t k = get? u k) → t = u                                      (ext_get?)
-/

namespace DeviceBus

/-- A type of keys.  Every key has a number of its own. -/
class Key (κ : Type) where
  /-- The number of a key; keys are ordered by it. -/
  index : κ → Nat
  /-- Different keys have different numbers. -/
  index_inj : ∀ {a b : κ}, index a = index b → a = b

/-- A finite map from keys to values, sorted by key. -/
structure Table (κ ν : Type) [Key κ] where
  /-- The pairs of the map. -/
  entries : List (κ × ν)
  /-- Keys strictly increase along the list. -/
  ordered : entries.Pairwise fun a b => Key.index a.1 < Key.index b.1
  deriving Repr

namespace Table

variable {κ ν : Type} [Key κ]

/-! ## Operations on the sorted list -/

/-- The value under a key, if it has one. -/
def lookup : List (κ × ν) → κ → Option ν
  | [], _ => none
  | (k', v) :: rest, k => if Key.index k' = Key.index k then some v else lookup rest k

/-- Puts a value under a key, in order, in place of the value it had. -/
def put (k : κ) (v : ν) : List (κ × ν) → List (κ × ν)
  | [] => [(k, v)]
  | (k', v') :: rest =>
    if Key.index k < Key.index k' then (k, v) :: (k', v') :: rest
    else if Key.index k = Key.index k' then (k, v) :: rest
    else (k', v') :: put k v rest

theorem mem_put {k : κ} {v : ν} {l : List (κ × ν)} {e : κ × ν} (h : e ∈ put k v l) :
    e = (k, v) ∨ e ∈ l := by
  induction l with
  | nil => simpa [put] using h
  | cons e' l ih =>
    obtain ⟨k', v'⟩ := e'
    unfold put at h
    split at h
    · simpa using h
    · split at h
      · rcases List.mem_cons.1 h with h | h
        · exact .inl h
        · exact .inr (List.mem_cons_of_mem _ h)
      · rcases List.mem_cons.1 h with h | h
        · exact .inr (h ▸ List.mem_cons_self)
        · exact (ih h).imp_right (List.mem_cons_of_mem _)

theorem pairwise_put {k : κ} {v : ν} {l : List (κ × ν)}
    (h : l.Pairwise fun a b => Key.index a.1 < Key.index b.1) :
    (put k v l).Pairwise fun a b => Key.index a.1 < Key.index b.1 := by
  induction l with
  | nil => simp [put]
  | cons e l ih =>
    obtain ⟨k', v'⟩ := e
    obtain ⟨hhead, htail⟩ := List.pairwise_cons.1 h
    unfold put
    split
    · refine List.pairwise_cons.2 ⟨fun e he => ?_, h⟩
      rcases List.mem_cons.1 he with rfl | he
      · assumption
      · have := hhead e he; simp only at this ⊢; omega
    · split
      · refine List.pairwise_cons.2 ⟨fun e he => ?_, htail⟩
        have := hhead e he; simp only at this ⊢; omega
      · refine List.pairwise_cons.2 ⟨fun e he => ?_, ih htail⟩
        rcases mem_put he with rfl | he
        · simp only; omega
        · exact hhead e he

/-! ## Operations -/

/-- The table with no entry. -/
def empty : Table κ ν := ⟨[], .nil⟩

instance : Inhabited (Table κ ν) := ⟨empty⟩
instance : EmptyCollection (Table κ ν) := ⟨empty⟩

/-- The value under a key. -/
def get? (t : Table κ ν) (k : κ) : Option ν := lookup t.entries k

/-- Whether a key has a value. -/
def contains (t : Table κ ν) (k : κ) : Bool := (t.get? k).isSome

/-- Puts a value under a key. -/
def insert (t : Table κ ν) (k : κ) (v : ν) : Table κ ν := ⟨put k v t.entries, pairwise_put t.ordered⟩

/-- Keeps the entries that satisfy a test. -/
def filter (t : Table κ ν) (keep : κ → ν → Bool) : Table κ ν :=
  ⟨t.entries.filter fun e => keep e.1 e.2, t.ordered.filter _⟩

/-- Drops the entry of a key. -/
def erase (t : Table κ ν) (k : κ) : Table κ ν :=
  t.filter fun k' _ => decide (Key.index k' ≠ Key.index k)

/-- Changes the value under a key, if it has one. -/
def modify (t : Table κ ν) (k : κ) (f : ν → ν) : Table κ ν :=
  match t.get? k with
  | none => t
  | some v => t.insert k (f v)

/-- The keys, in increasing order. -/
def keys (t : Table κ ν) : List κ := t.entries.map (·.1)

/-- The number of entries. -/
def size (t : Table κ ν) : Nat := t.entries.length

/-- The table of a list of pairs; of two pairs with one key the later counts. -/
def ofList (l : List (κ × ν)) : Table κ ν := l.foldl (fun t e => t.insert e.1 e.2) empty

/-! ## Look-ups -/

@[simp] theorem get?_empty (k : κ) : (empty : Table κ ν).get? k = none := rfl

theorem lookup_eq_none {l : List (κ × ν)} {k : κ}
    (h : ∀ e ∈ l, Key.index e.1 ≠ Key.index k) : lookup l k = none := by
  induction l with
  | nil => rfl
  | cons e l ih =>
    obtain ⟨k', v⟩ := e
    have hne := h (k', v) List.mem_cons_self
    simp only at hne
    simp [lookup, hne, ih fun e he => h e (List.mem_cons_of_mem _ he)]

theorem lookup_put (k k' : κ) (v : ν) (l : List (κ × ν)) :
    lookup (put k v l) k' = if Key.index k = Key.index k' then some v else lookup l k' := by
  induction l with
  | nil => simp [put, lookup]
  | cons e l ih =>
    obtain ⟨k₀, v₀⟩ := e
    unfold put
    split
    · simp [lookup]
    · split
      · rename_i heq
        by_cases h : Key.index k = Key.index k'
        · simp [lookup, h]
        · simp [lookup, h, show Key.index k₀ ≠ Key.index k' by omega]
      · by_cases h₀ : Key.index k₀ = Key.index k'
        · have : Key.index k ≠ Key.index k' := by omega
          simp [lookup, h₀, this]
        · simp [lookup, h₀, ih]

theorem get?_insert (t : Table κ ν) (k k' : κ) (v : ν) :
    (t.insert k v).get? k' = if Key.index k = Key.index k' then some v else t.get? k' :=
  lookup_put k k' v t.entries

@[simp] theorem get?_insert_self (t : Table κ ν) (k : κ) (v : ν) :
    (t.insert k v).get? k = some v := by
  simp [get?_insert]

theorem get?_insert_of_ne (t : Table κ ν) {k k' : κ} (v : ν) (h : k ≠ k') :
    (t.insert k v).get? k' = t.get? k' := by
  have : Key.index k ≠ Key.index k' := fun e => h (Key.index_inj e)
  simp [get?_insert, this]

theorem lookup_eq_some_iff {l : List (κ × ν)}
    (hl : l.Pairwise fun a b => Key.index a.1 < Key.index b.1) {k : κ} {v : ν} :
    lookup l k = some v ↔ (k, v) ∈ l := by
  induction l with
  | nil => simp [lookup]
  | cons e l ih =>
    obtain ⟨k', v'⟩ := e
    obtain ⟨hhead, htail⟩ := List.pairwise_cons.1 hl
    unfold lookup
    split
    · rename_i heq
      have hk : k' = k := Key.index_inj heq
      subst hk
      constructor
      · rintro ⟨⟩; exact List.mem_cons_self
      · intro h
        rcases List.mem_cons.1 h with h | h
        · simp_all
        · have := hhead _ h; simp only at this; omega
    · rename_i hne
      rw [ih htail]
      constructor
      · exact List.mem_cons_of_mem _
      · intro h
        rcases List.mem_cons.1 h with h | h
        · simp_all
        · exact h

theorem get?_eq_some_iff {t : Table κ ν} {k : κ} {v : ν} :
    t.get? k = some v ↔ (k, v) ∈ t.entries := lookup_eq_some_iff t.ordered

theorem get?_filter (t : Table κ ν) (keep : κ → ν → Bool) (k : κ) :
    (t.filter keep).get? k = (t.get? k).filter (keep k) := by
  apply Option.ext
  intro v
  simp only [get?_eq_some_iff, filter, List.mem_filter, Option.filter_eq_some_iff]

theorem get?_erase (t : Table κ ν) (k k' : κ) :
    (t.erase k).get? k' = if Key.index k = Key.index k' then none else t.get? k' := by
  simp only [erase, get?_filter]
  by_cases h : Key.index k = Key.index k'
  · simp [h]
  · have h' : Key.index k' ≠ Key.index k := fun e => h e.symm
    cases hk : t.get? k' <;> simp [h, h']

@[simp] theorem get?_erase_self (t : Table κ ν) (k : κ) : (t.erase k).get? k = none := by
  simp [get?_erase]

theorem get?_modify (t : Table κ ν) (k k' : κ) (f : ν → ν) :
    (t.modify k f).get? k' = if Key.index k = Key.index k' then (t.get? k').map f else t.get? k' := by
  unfold modify
  by_cases h : Key.index k = Key.index k'
  · have hk := Key.index_inj h
    subst hk
    cases hg : t.get? k <;> simp [hg]
  · cases hg : t.get? k <;> simp [h, get?_insert]

/-! ## Extensionality -/

theorem eq_of_lookup_eq {l₁ l₂ : List (κ × ν)}
    (h₁ : l₁.Pairwise fun a b => Key.index a.1 < Key.index b.1)
    (h₂ : l₂.Pairwise fun a b => Key.index a.1 < Key.index b.1)
    (h : ∀ k, lookup l₁ k = lookup l₂ k) : l₁ = l₂ := by
  have hmem : ∀ e, e ∈ l₁ ↔ e ∈ l₂ := fun ⟨k, v⟩ => by
    rw [← lookup_eq_some_iff h₁, ← lookup_eq_some_iff h₂, h]
  clear h
  induction l₁ generalizing l₂ with
  | nil =>
    cases l₂ with
    | nil => rfl
    | cons e l => exact absurd ((hmem e).2 List.mem_cons_self) (by simp)
  | cons a l₁ ih =>
    cases l₂ with
    | nil => exact absurd ((hmem a).1 List.mem_cons_self) (by simp)
    | cons b l₂ =>
      obtain ⟨ha, ht₁⟩ := List.pairwise_cons.1 h₁
      obtain ⟨hb, ht₂⟩ := List.pairwise_cons.1 h₂
      have hab : a = b := by
        rcases List.mem_cons.1 ((hmem a).1 List.mem_cons_self) with h | h
        · exact h
        · rcases List.mem_cons.1 ((hmem b).2 List.mem_cons_self) with h' | h'
          · exact h'.symm
          · have := hb a h; have := ha b h'; omega
      subst hab
      congr 1
      refine ih ht₁ ht₂ fun e => ⟨fun he => ?_, fun he => ?_⟩
      · rcases List.mem_cons.1 ((hmem e).1 (List.mem_cons_of_mem _ he)) with rfl | h
        · have := ha e he; omega
        · exact h
      · rcases List.mem_cons.1 ((hmem e).2 (List.mem_cons_of_mem _ he)) with rfl | h
        · have := hb e he; omega
        · exact h

/-- A table is what its look-ups answer. -/
theorem ext_get? {t u : Table κ ν} (h : ∀ k, t.get? k = u.get? k) : t = u := by
  have := eq_of_lookup_eq t.ordered u.ordered h
  cases t; cases u; simp_all

/-- Pairs with increasing keys count before what a table had already. -/
theorem get?_foldl_insert {l : List (κ × ν)}
    (hl : l.Pairwise fun a b => Key.index a.1 < Key.index b.1) (t : Table κ ν) (k : κ) :
    (l.foldl (fun t e => t.insert e.1 e.2) t).get? k = (lookup l k).or (t.get? k) := by
  induction l generalizing t with
  | nil => simp [lookup]
  | cons e l ih =>
    obtain ⟨hhead, htail⟩ := List.pairwise_cons.1 hl
    rw [List.foldl_cons, ih htail, get?_insert, lookup]
    by_cases hk : Key.index e.1 = Key.index k
    · have hnone : lookup l k = none := lookup_eq_none fun e' he' => by
        have := hhead e' he'
        omega
      rw [if_pos hk, if_pos hk, hnone]
      rfl
    · rw [if_neg hk, if_neg hk]

/-- A table is the table of its entries. -/
theorem ofList_entries (t : Table κ ν) : ofList t.entries = t := by
  refine ext_get? fun k => ?_
  rw [ofList, get?_foldl_insert t.ordered, get?_empty, Option.or_none]
  rfl

instance [DecidableEq κ] [DecidableEq ν] : DecidableEq (Table κ ν) := fun t u =>
  decidable_of_iff (t.entries = u.entries) (by cases t; cases u; simp)

end Table

end DeviceBus
