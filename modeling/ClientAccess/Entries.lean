/-! Finite maps from text to values, kept as a list in increasing order of keys (by code point).
Equal maps are equal lists, so a printed map depends on nothing but its content. -/
namespace ClientAccess

/-- Values by key, keys strictly increasing. -/
structure Entries (α : Type) where
  items : List (String × α)
  sorted : (items.map Prod.fst).Pairwise (· < ·)

namespace Entries

variable {α : Type}

def empty : Entries α := ⟨[], .nil⟩

instance : Inhabited (Entries α) := ⟨empty⟩

def size (e : Entries α) : Nat := e.items.length

def keys (e : Entries α) : List String := e.items.map Prod.fst

def isEmpty (e : Entries α) : Bool := e.items.isEmpty

def find? (key : String) : List (String × α) → Option α
  | [] => none
  | (k, v) :: rest => if k = key then some v else find? key rest

def get? (e : Entries α) (key : String) : Option α := find? key e.items

/-- Puts a pair in its place among pairs in order, over an older one of the same key. -/
def put (key : String) (value : α) : List (String × α) → List (String × α)
  | [] => [(key, value)]
  | (k, v) :: rest =>
    if key < k then (key, value) :: (k, v) :: rest
    else if k < key then (k, v) :: put key value rest
    else (key, value) :: rest

theorem mem_keys_put {key : String} {value : α} {items : List (String × α)} {k : String}
    (h : k ∈ (put key value items).map Prod.fst) : k = key ∨ k ∈ items.map Prod.fst := by
  induction items with
  | nil => simpa [put] using h
  | cons p rest ih =>
    obtain ⟨k', v⟩ := p
    simp only [put] at h
    split at h
    · simpa using h
    · split at h
      · simp only [List.map_cons, List.mem_cons] at h ⊢
        rcases h with h | h
        · exact .inr (.inl h)
        · exact (ih h).imp id .inr
      · simp only [List.map_cons, List.mem_cons] at h ⊢
        exact h.imp id .inr

theorem sorted_put (key : String) (value : α) {items : List (String × α)}
    (h : (items.map Prod.fst).Pairwise (· < ·)) :
    ((put key value items).map Prod.fst).Pairwise (· < ·) := by
  induction items with
  | nil => simp [put]
  | cons p rest ih =>
    obtain ⟨k, v⟩ := p
    simp only [List.map_cons, List.pairwise_cons] at h
    simp only [put]
    split
    · next hk =>
      simp only [List.map_cons, List.pairwise_cons, List.mem_cons, forall_eq_or_imp]
      exact ⟨⟨hk, fun a ha => String.lt_trans hk (h.1 a ha)⟩, h⟩
    · split
      · next hk =>
        simp only [List.map_cons, List.pairwise_cons]
        exact ⟨fun a ha => (mem_keys_put ha).elim (fun e => e ▸ hk) (h.1 a), ih h.2⟩
      · next h1 h2 =>
        have : key = k := String.le_antisymm (String.not_lt.1 h2) (String.not_lt.1 h1)
        simp only [List.map_cons, List.pairwise_cons]
        exact ⟨this ▸ h.1, h.2⟩

def insert (e : Entries α) (key : String) (value : α) : Entries α :=
  ⟨put key value e.items, sorted_put key value e.sorted⟩

def erase (e : Entries α) (key : String) : Entries α where
  items := e.items.filter fun p => p.1 != key
  sorted := e.sorted.sublist (List.filter_sublist.map Prod.fst)

def insertAll (e : Entries α) (pairs : List (String × α)) : Entries α :=
  pairs.foldl (fun e p => e.insert p.1 p.2) e

def eraseAll (e : Entries α) (keys : List String) : Entries α :=
  keys.foldl erase e

/-- The map of a list of pairs: of several with one key the last counts. -/
def ofList (pairs : List (String × α)) : Entries α := empty.insertAll pairs

theorem ext_items {a b : Entries α} (h : a.items = b.items) : a = b := by
  cases a; cases b; cases h; rfl

instance [DecidableEq α] : DecidableEq (Entries α) := fun a b =>
  if h : a.items = b.items then isTrue (ext_items h) else isFalse fun e => h (e ▸ rfl)

@[simp] theorem get?_empty (key : String) : (empty : Entries α).get? key = none := rfl

theorem get?_insert (e : Entries α) (key : String) (value : α) (k : String) :
    (e.insert key value).get? k = if key = k then some value else e.get? k := by
  obtain ⟨items, sorted⟩ := e
  simp only [get?, insert]
  induction items with
  | nil => simp [put, find?]
  | cons p rest ih =>
    obtain ⟨k', v⟩ := p
    have hr := ih (List.pairwise_cons.1 sorted).2
    simp only [put]
    split
    · simp [find?]
    · split
      · next h1 h2 =>
        simp only [find?, hr]
        by_cases hk : k' = k
        · have hne : key ≠ k := by rintro rfl; exact String.lt_irrefl _ (hk ▸ h2)
          simp [hk, hne]
        · simp [hk]
      · next h1 h2 =>
        have : key = k' := String.le_antisymm (String.not_lt.1 h2) (String.not_lt.1 h1)
        subst this
        simp only [find?]
        split <;> rfl

theorem get?_erase (e : Entries α) (key k : String) :
    (e.erase key).get? k = if key = k then none else e.get? k := by
  obtain ⟨items, sorted⟩ := e
  simp only [get?, erase]
  clear sorted
  induction items with
  | nil => simp [find?]
  | cons p rest ih =>
    obtain ⟨k', v⟩ := p
    by_cases hk : k' = key
    · subst hk
      simp only [List.filter_cons, bne_self_eq_false, Bool.false_eq_true, if_false, ih, find?]
      split <;> rfl
    · have : (k' != key) = true := by simpa using hk
      simp only [List.filter_cons, this, if_true, find?, ih]
      by_cases hkk : k' = k
      · have : key ≠ k := fun h => hk (hkk.trans h.symm)
        simp [hkk, this]
      · simp [hkk]

end ClientAccess.Entries
