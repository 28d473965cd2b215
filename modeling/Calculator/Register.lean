/-!
Registers: things filed under names, in the order of the names. The latest entry under a name is the
one that counts.
-/

namespace Calculator

/-- A new entry takes the place of an older one under the same name. -/
def fileUnder {α : Type} (name : String) (thing : α) : List (String × α) → List (String × α)
  | [] => [(name, thing)]
  | (other, old) :: rest =>
    if name < other then (name, thing) :: (other, old) :: rest
    else if name = other then (name, thing) :: rest
    else (other, old) :: fileUnder name thing rest

theorem mem_fileUnder {α : Type} {name : String} {thing : α} {entries : List (String × α)}
    {entry : String × α} (h : entry ∈ fileUnder name thing entries) :
    entry = (name, thing) ∨ entry ∈ entries := by
  induction entries with
  | nil => exact .inl (by simpa [fileUnder] using h)
  | cons head rest ih =>
    obtain ⟨other, old⟩ := head
    unfold fileUnder at h
    split at h
    · simpa using h
    · split at h
      · rcases List.mem_cons.mp h with h | h
        · exact .inl h
        · exact .inr (List.mem_cons_of_mem _ h)
      · rcases List.mem_cons.mp h with h | h
        · exact .inr (h ▸ List.mem_cons_self)
        · exact (ih h).imp_right (List.mem_cons_of_mem _)

theorem pairwise_fileUnder {α : Type} (name : String) (thing : α) {entries : List (String × α)}
    (h : entries.Pairwise fun x y => x.1 < y.1) :
    (fileUnder name thing entries).Pairwise fun x y => x.1 < y.1 := by
  induction entries with
  | nil => simp [fileUnder]
  | cons head rest ih =>
    obtain ⟨other, old⟩ := head
    obtain ⟨hh, hr⟩ := List.pairwise_cons.mp h
    unfold fileUnder
    split
    next hlt =>
      refine List.pairwise_cons.mpr ⟨fun y hy => ?_, h⟩
      rcases List.mem_cons.mp hy with rfl | hy
      · exact hlt
      · exact String.lt_trans hlt (hh y hy)
    next hge =>
      split
      next he => exact List.pairwise_cons.mpr ⟨fun y hy => he ▸ hh y hy, hr⟩
      next hne =>
        refine List.pairwise_cons.mpr ⟨fun y hy => ?_, ih hr⟩
        rcases mem_fileUnder hy with rfl | hy
        · exact String.not_le.mp fun hle => hne (String.le_antisymm hle (String.not_lt.mp hge))
        · exact hh y hy

/-- Entries by name, each name once and in increasing order. -/
structure Register (α : Type) where
  entries : List (String × α) := []
  sorted : entries.Pairwise fun x y => x.1 < y.1 := by exact List.Pairwise.nil

namespace Register

variable {α : Type}

def empty : Register α := {}

instance : Inhabited (Register α) := ⟨empty⟩

def insert (r : Register α) (name : String) (thing : α) : Register α :=
  ⟨fileUnder name thing r.entries, pairwise_fileUnder name thing r.sorted⟩

def get? (r : Register α) (name : String) : Option α := r.entries.lookup name

def contains (r : Register α) (name : String) : Bool := (r.get? name).isSome

def names (r : Register α) : List String := r.entries.map Prod.fst

theorem names_sorted (r : Register α) : r.names.Pairwise (· < ·) :=
  List.pairwise_map.mpr r.sorted

theorem lookup_fileUnder_self (name : String) (thing : α) (entries : List (String × α)) :
    (fileUnder name thing entries).lookup name = some thing := by
  induction entries with
  | nil => simp [fileUnder]
  | cons head rest ih =>
    obtain ⟨other, old⟩ := head
    unfold fileUnder
    split
    · simp
    · split
      · simp
      next hne => rw [List.lookup_cons, beq_eq_false_iff_ne.mpr hne, ih]

theorem lookup_fileUnder_of_ne {name other : String} (h : other ≠ name) (thing : α)
    (entries : List (String × α)) :
    (fileUnder name thing entries).lookup other = entries.lookup other := by
  have hb : (other == name) = false := beq_eq_false_iff_ne.mpr h
  induction entries with
  | nil => simp [fileUnder, List.lookup_cons, hb]
  | cons head rest ih =>
    obtain ⟨key, old⟩ := head
    unfold fileUnder
    split
    · simp [List.lookup_cons, hb]
    · split
      next he => simp [List.lookup_cons, ← he, hb]
      · simp [List.lookup_cons, ih]

@[simp] theorem get?_empty (name : String) : (empty : Register α).get? name = none :=
  List.lookup_nil

@[simp] theorem get?_insert_self (r : Register α) (name : String) (thing : α) :
    (r.insert name thing).get? name = some thing :=
  lookup_fileUnder_self name thing r.entries

theorem get?_insert_of_ne (r : Register α) {name other : String} (thing : α) (h : other ≠ name) :
    (r.insert name thing).get? other = r.get? other :=
  lookup_fileUnder_of_ne h thing r.entries

theorem lookup_eq_some_iff {name : String} {thing : α} {entries : List (String × α)}
    (h : entries.Pairwise fun x y => x.1 < y.1) :
    entries.lookup name = some thing ↔ (name, thing) ∈ entries := by
  induction entries with
  | nil => simp
  | cons head rest ih =>
    obtain ⟨other, old⟩ := head
    obtain ⟨hh, hr⟩ := List.pairwise_cons.mp h
    rw [List.lookup_cons, List.mem_cons]
    cases hn : name == other with
    | true =>
      obtain rfl := beq_iff_eq.mp hn
      have hnot : (name, thing) ∉ rest := fun hm => String.lt_irrefl name (hh (name, thing) hm)
      simp [hnot, eq_comm]
    | false =>
      have hne : name ≠ other := beq_eq_false_iff_ne.mp hn
      simp [hne, ih hr]

theorem get?_eq_some_iff {r : Register α} {name : String} {thing : α} :
    r.get? name = some thing ↔ (name, thing) ∈ r.entries :=
  lookup_eq_some_iff r.sorted

theorem contains_iff {r : Register α} {name : String} : r.contains name = true ↔ name ∈ r.names := by
  rw [contains, Option.isSome_iff_exists, names, List.mem_map]
  constructor
  · rintro ⟨thing, h⟩
    exact ⟨(name, thing), get?_eq_some_iff.mp h, rfl⟩
  · rintro ⟨⟨_, thing⟩, hm, rfl⟩
    exact ⟨thing, get?_eq_some_iff.mpr hm⟩

end Register

end Calculator
