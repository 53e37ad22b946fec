import Again.Lib.Bytes

/-!
# Path texts

`std::path` on Unix: a path is a byte string, its components are what stands
between the slashes. Names written with slashes between them read back as those
names.
-/

namespace Again.Lib

variable {name : Bytes} {names : List Bytes}

inductive Component where
  | rootDir
  | curDir
  | parentDir
  | normal (name : Bytes)
deriving DecidableEq

def slash : UInt8 := 47

/-- A piece between slashes; empty pieces and `.` are no components. -/
def componentOf (piece : Bytes) : Option Component :=
  if piece = [] ∨ piece = [46] then none
  else if piece = [46, 46] then some .parentDir
  else some (.normal piece)

def isAbsolute (path : Bytes) : Bool := path.head? == some slash

/-- `Path::components`: only a leading `.` is kept. -/
def components (path : Bytes) : List Component :=
  if isAbsolute path then .rootDir :: (path.splitOn slash).filterMap componentOf
  else
    match path.splitOn slash with
    | first :: rest => (if first = [46] then some .curDir else componentOf first).toList ++ rest.filterMap componentOf
    | [] => []

/-- The names among the components. -/
def namesOf (path : List Component) : List Bytes :=
  path.filterMap fun
    | .normal name => some name
    | _ => none

/-- A component that can stand for a directory entry. -/
structure IsName (name : Bytes) : Prop where
  ne_nil : name ≠ []
  ne_dot : name ≠ [46]
  ne_dots : name ≠ [46, 46]
  no_slash : slash ∉ name

theorem componentOf_name (h : IsName name) : componentOf name = some (.normal name) := by
  rw [componentOf, if_neg (not_or.mpr ⟨h.ne_nil, h.ne_dot⟩), if_neg h.ne_dots]

/-- A piece that is a component has no slash, so it is a name. -/
theorem isName_of_componentOf {piece : Bytes} (hslash : slash ∉ piece) (h : componentOf piece = some (.normal name)) :
    name = piece ∧ IsName name := by
  unfold componentOf at h
  split_ifs at h with hempty hdots
  · cases h
  · obtain rfl : piece = name := by simpa using h
    obtain ⟨hnil, hdot⟩ := not_or.mp hempty
    exact ⟨rfl, hnil, hdot, hdots, hslash⟩

/-- The names among the components of a path can stand for directory entries. -/
theorem isName_of_components {path : Bytes} (h : .normal name ∈ components path) : IsName name := by
  have hpieces : ∀ piece ∈ path.splitOn slash, componentOf piece = some (.normal name) → IsName name := by
    intro piece hpiece hname
    exact (isName_of_componentOf (not_mem_of_mem_splitOn hpiece) hname).2
  have hrest : ∀ pieces : List Bytes, (∀ piece ∈ pieces, piece ∈ path.splitOn slash) →
      .normal name ∈ pieces.filterMap componentOf → IsName name := by
    intro pieces hsub hmem
    obtain ⟨piece, hpiece, hname⟩ := List.mem_filterMap.mp hmem
    exact hpieces piece (hsub piece hpiece) hname
  unfold components at h
  split at h
  · rcases List.mem_cons.mp h with h | h
    · cases h
    · exact hrest _ (fun _ hpiece => hpiece) h
  · split at h
    · next first rest hsplit =>
      rcases List.mem_append.mp h with h | h
      · split at h
        · simp at h
        · exact hpieces first (hsplit ▸ List.mem_cons_self) (Option.mem_toList.mp h)
      · exact hrest rest (fun _ hpiece => hsplit ▸ List.mem_cons_of_mem _ hpiece) h
    · cases h

theorem mem_namesOf {path : List Component} : name ∈ namesOf path ↔ .normal name ∈ path := by
  unfold namesOf
  rw [List.mem_filterMap]
  constructor
  · rintro ⟨component, hmem, hname⟩
    cases component with
    | normal found => cases hname; exact hmem
    | rootDir | curDir | parentDir => cases hname
  · intro h
    exact ⟨_, h, rfl⟩

theorem filterMap_componentOf (h : ∀ name ∈ names, IsName name) : names.filterMap componentOf = names.map .normal := by
  rw [← List.filterMap_eq_map]
  exact List.filterMap_congr fun name hname => componentOf_name (h name hname)

/-- `names.join("/")`. -/
def joinNames (names : List Bytes) : Bytes := [slash].intercalate names

theorem splitOn_joinNames (h : ∀ name ∈ names, IsName name) (hne : names ≠ []) :
    (joinNames names).splitOn slash = names :=
  List.splitOn_intercalate slash (fun name hname => (h name hname).no_slash) hne

/-- Names read back from the path they make. -/
theorem components_joinNames (h : ∀ name ∈ names, IsName name) (hne : names ≠ []) :
    components (joinNames names) = names.map .normal := by
  have hrelative : isAbsolute (joinNames names) = false := by
    cases names with
    | nil => exact absurd rfl hne
    | cons first rest =>
      have hfirst := h first List.mem_cons_self
      cases first with
      | nil => exact absurd rfl hfirst.ne_nil
      | cons b tail =>
        have hb : b ≠ slash := fun hb => hfirst.no_slash (hb ▸ List.mem_cons_self)
        cases rest with
        | nil => simpa [isAbsolute, joinNames] using hb
        | cons second rest => simpa [isAbsolute, joinNames, List.intercalate_cons_cons] using hb
  rw [components, hrelative, splitOn_joinNames h hne]
  cases names with
  | nil => exact absurd rfl hne
  | cons first rest =>
    have hfirst := h first List.mem_cons_self
    simp only [Bool.false_eq_true, if_false, if_neg hfirst.ne_dot, componentOf_name hfirst,
      filterMap_componentOf fun name hname => h name (List.mem_cons_of_mem _ hname)]
    rfl

/-- The names from the root down to a place. -/
abbrev Place := List Bytes

/-- `Path::strip_prefix`, component by component. -/
def stripBase (place base : Place) : Option Place :=
  if base.isPrefixOf place then some (place.drop base.length) else none

end Again.Lib
