import Again.Lib.Bytes

/-!
# Sorted maps

A `BTreeMap` is the list of its entries in the order of its keys. The order is
that of a rank of the keys, such as the bytes of a string; keys with one rank
are one key.
-/

namespace Again.Lib

/-- The entries of a `BTreeMap`, in order. -/
structure SortedMap {K R : Type} [LinearOrder R] (rank : K → R) (V : Type) where
  entries : List (K × V)
  sorted : entries.Pairwise fun a b => rank a.1 < rank b.1

namespace SortedMap

variable {K R V : Type} [LinearOrder R] {rank : K → R}

variable {m : SortedMap rank V} {key : K} {value : V}

@[ext] theorem ext {m' : SortedMap rank V} (h : m.entries = m'.entries) : m = m' := by
  cases m
  cases h
  rfl

def empty : SortedMap rank V := ⟨[], List.Pairwise.nil⟩

def lookupEntry (rank : K → R) (key : K) : List (K × V) → Option V
  | [] => none
  | (k, v) :: rest => if rank k = rank key then some v else lookupEntry rank key rest

def get? (m : SortedMap rank V) (key : K) : Option V := lookupEntry rank key m.entries

def contains (m : SortedMap rank V) (key : K) : Bool := (m.get? key).isSome

/-- Put an entry into its place; a key that is there keeps its place and gets the new value. -/
def insertEntry (rank : K → R) (key : K) (value : V) : List (K × V) → List (K × V)
  | [] => [(key, value)]
  | (k, v) :: rest =>
    if rank key < rank k then (key, value) :: (k, v) :: rest
    else if rank key = rank k then (k, value) :: rest
    else (k, v) :: insertEntry rank key value rest

variable {entries : List (K × V)}

theorem rank_mem_insertEntry {entry : K × V} (h : entry ∈ insertEntry rank key value entries) :
    rank entry.1 = rank key ∨ ∃ old ∈ entries, rank old.1 = rank entry.1 := by
  induction entries with
  | nil =>
    rw [insertEntry, List.mem_singleton] at h
    subst h
    exact Or.inl rfl
  | cons head rest ih =>
    unfold insertEntry at h
    split_ifs at h with hlt heq
    · rcases List.mem_cons.mp h with rfl | h
      · exact Or.inl rfl
      · exact Or.inr ⟨entry, h, rfl⟩
    · rcases List.mem_cons.mp h with rfl | h
      · exact Or.inl heq.symm
      · exact Or.inr ⟨entry, List.mem_cons_of_mem _ h, rfl⟩
    · rcases List.mem_cons.mp h with rfl | h
      · exact Or.inr ⟨_, List.mem_cons_self, rfl⟩
      · rcases ih h with hkey | ⟨old, hold, hrank⟩
        · exact Or.inl hkey
        · exact Or.inr ⟨old, List.mem_cons_of_mem _ hold, hrank⟩

theorem sorted_insertEntry (h : entries.Pairwise fun a b => rank a.1 < rank b.1) :
    (insertEntry rank key value entries).Pairwise fun a b => rank a.1 < rank b.1 := by
  induction entries with
  | nil => simp [insertEntry]
  | cons head rest ih =>
    obtain ⟨hhead, hrest⟩ := List.pairwise_cons.mp h
    unfold insertEntry
    split_ifs with hlt heq
    · refine List.pairwise_cons.mpr ⟨List.forall_mem_cons.mpr ⟨hlt, ?_⟩, h⟩
      exact fun entry hentry => lt_trans hlt (hhead entry hentry)
    · exact List.pairwise_cons.mpr ⟨hhead, hrest⟩
    · refine List.pairwise_cons.mpr ⟨fun entry hentry => ?_, ih hrest⟩
      rcases rank_mem_insertEntry hentry with hkey | ⟨old, hold, hrank⟩
      · exact hkey ▸ lt_of_le_of_ne (not_lt.mp hlt) (Ne.symm heq)
      · exact hrank ▸ hhead old hold

def insert (m : SortedMap rank V) (key : K) (value : V) : SortedMap rank V :=
  ⟨insertEntry rank key value m.entries, sorted_insertEntry m.sorted⟩

/-- `BTreeMap::extend`. -/
def extend (m : SortedMap rank V) (entries : List (K × V)) : SortedMap rank V :=
  entries.foldl (fun m entry => m.insert entry.1 entry.2) m

/-- `.collect::<BTreeMap<_, _>>()`. -/
def ofList (entries : List (K × V)) : SortedMap rank V := empty.extend entries

/-! ## Looking up -/

theorem lookupEntry_insertEntry (key k : K) (value : V) (entries : List (K × V)) :
    lookupEntry rank k (insertEntry rank key value entries) =
      if rank k = rank key then some value else lookupEntry rank k entries := by
  induction entries with
  | nil => simp only [insertEntry, lookupEntry, eq_comm]
  | cons head rest ih =>
    by_cases hk : rank k = rank key
    · rw [if_pos hk] at ih ⊢
      unfold insertEntry
      split_ifs with hlt heq
      · simp [lookupEntry, hk]
      · simp [lookupEntry, hk, heq]
      · have hne : rank head.1 ≠ rank k := fun h => heq (hk.symm.trans h.symm)
        rw [lookupEntry, if_neg hne, ih]
    · rw [if_neg hk] at ih ⊢
      unfold insertEntry
      split_ifs with hlt heq
      · rw [lookupEntry, if_neg (Ne.symm hk)]
      · have hne : rank head.1 ≠ rank k := fun h => hk (h.symm.trans heq.symm)
        rw [lookupEntry, if_neg hne, lookupEntry, if_neg hne]
      · rw [lookupEntry, lookupEntry, ih]

theorem get?_insert (m : SortedMap rank V) (key k : K) (value : V) :
    (m.insert key value).get? k = if rank k = rank key then some value else m.get? k :=
  lookupEntry_insertEntry key k value m.entries

theorem lookupEntry_eq_some (hrank : Function.Injective rank)
    (hsorted : entries.Pairwise fun a b => rank a.1 < rank b.1) :
    lookupEntry rank key entries = some value ↔ (key, value) ∈ entries := by
  induction entries with
  | nil => simp [lookupEntry]
  | cons head rest ih =>
    obtain ⟨hhead, hrest⟩ := List.pairwise_cons.mp hsorted
    unfold lookupEntry
    split_ifs with h
    · have hkey : head.1 = key := hrank h
      have hnot : ∀ v, (key, v) ∉ rest := fun v hv => absurd (hhead _ hv) (by simp [h])
      simp [← hkey, Prod.ext_iff, hkey ▸ hnot, eq_comm]
    · rw [ih hrest, List.mem_cons]
      constructor
      · exact Or.inr
      · rintro (rfl | hmem)
        · exact absurd rfl h
        · exact hmem

theorem get?_eq_some_iff (hrank : Function.Injective rank) :
    m.get? key = some value ↔ (key, value) ∈ m.entries := lookupEntry_eq_some hrank m.sorted

theorem contains_iff (hrank : Function.Injective rank) : m.contains key = true ↔ ∃ value, (key, value) ∈ m.entries := by
  simp only [contains, Option.isSome_iff_exists, get?_eq_some_iff hrank]

theorem extend_cons (m : SortedMap rank V) (entry : K × V) (entries : List (K × V)) :
    m.extend (entry :: entries) = (m.insert entry.1 entry.2).extend entries := rfl

/-- A key outside the new entries keeps its value. -/
theorem get?_extend_other (m : SortedMap rank V)
    (h : ∀ entry ∈ entries, rank key ≠ rank entry.1) : (m.extend entries).get? key = m.get? key := by
  induction entries generalizing m with
  | nil => rfl
  | cons entry entries ih =>
    rw [extend_cons, ih _ fun e he => h e (List.mem_cons_of_mem _ he), get?_insert, if_neg (h entry List.mem_cons_self)]

/-- A new entry is found, if no later one has its key. -/
theorem get?_extend_mem (m : SortedMap rank V)
    (hsorted : entries.Pairwise fun a b => rank a.1 < rank b.1) (h : (key, value) ∈ entries) :
    (m.extend entries).get? key = some value := by
  induction entries generalizing m with
  | nil => cases h
  | cons entry entries ih =>
    obtain ⟨hhead, hrest⟩ := List.pairwise_cons.mp hsorted
    rw [extend_cons]
    rcases List.mem_cons.mp h with rfl | h
    · rw [get?_extend_other _ fun e he => ne_of_lt (hhead e he), get?_insert, if_pos rfl]
    · exact ih _ hrest h

theorem lookupEntry_eq_none (h : ∀ entry ∈ entries, rank entry.1 ≠ rank key) :
    lookupEntry rank key entries = none := by
  induction entries with
  | nil => rfl
  | cons head rest ih =>
    rw [lookupEntry, if_neg (h head List.mem_cons_self), ih fun e he => h e (List.mem_cons_of_mem _ he)]

/-- An entry of the extended map is one of the new entries or one of the old. -/
theorem mem_extend (hrank : Function.Injective rank) {entry : K × V}
    (h : entry ∈ (m.extend entries).entries) : entry ∈ entries ∨ entry ∈ m.entries := by
  induction entries generalizing m with
  | nil => exact Or.inr h
  | cons new entries ih =>
    rcases ih h with h | h
    · exact Or.inl (List.mem_cons_of_mem _ h)
    · rw [← get?_eq_some_iff hrank, get?_insert] at h
      split at h
      · next heq =>
        refine Or.inl (List.mem_cons.mpr (Or.inl (Prod.ext (hrank heq) (Option.some.inj h).symm)))
      · exact Or.inr ((get?_eq_some_iff hrank).mp h)

/-! ## Building from a sorted list -/

theorem insertEntry_last (h : ∀ entry ∈ entries, rank entry.1 < rank key) :
    insertEntry rank key value entries = entries ++ [(key, value)] := by
  induction entries with
  | nil => rfl
  | cons head rest ih =>
    have hhead : rank head.1 < rank key := h head List.mem_cons_self
    rw [insertEntry, if_neg (not_lt.mpr (le_of_lt hhead)), if_neg (ne_of_gt hhead),
      ih fun e he => h e (List.mem_cons_of_mem _ he), List.cons_append]

/-- Entries that come in order behind those of the map are appended. -/
theorem entries_extend (h : (m.entries ++ entries).Pairwise fun a b => rank a.1 < rank b.1) :
    (m.extend entries).entries = m.entries ++ entries := by
  induction entries generalizing m with
  | nil => rw [List.append_nil]; rfl
  | cons entry entries ih =>
    have hlast : (m.insert entry.1 entry.2).entries = m.entries ++ [entry] :=
      insertEntry_last fun e he => (List.pairwise_append.mp h).2.2 e he entry List.mem_cons_self
    rw [extend_cons, ih (by rwa [hlast, List.append_assoc]), hlast, List.append_assoc, List.singleton_append]

theorem ofList_entries (m : SortedMap rank V) : ofList m.entries = m :=
  ext (entries_extend (show ([] ++ m.entries).Pairwise _ from m.sorted))

end SortedMap

end Again.Lib
