import LineShell.Text.Basic

namespace LineShell

structure Bindings where
  entries : List (Text × Text)
  distinct : (entries.map Prod.fst).Nodup
  deriving DecidableEq

namespace Bindings

def putEntry (name value : Text) : List (Text × Text) → List (Text × Text)
  | [] => [(name, value)]
  | (other, old) :: rest =>
      if other = name then (name, value) :: rest else (other, old) :: putEntry name value rest

theorem mem_putEntry_names {name value other : Text} {entries : List (Text × Text)} :
    other ∈ (putEntry name value entries).map Prod.fst ↔
      other = name ∨ other ∈ entries.map Prod.fst := by
  induction entries with
  | nil => simp [putEntry]
  | cons entry rest ih =>
      obtain ⟨first, old⟩ := entry
      rw [putEntry]
      split
      · next same => simp [same]
      · simp only [List.map_cons, List.mem_cons, ih]
        constructor
        · rintro (h | h | h)
          · exact Or.inr (Or.inl h)
          · exact Or.inl h
          · exact Or.inr (Or.inr h)
        · rintro (h | h | h)
          · exact Or.inr (Or.inl h)
          · exact Or.inl h
          · exact Or.inr (Or.inr h)

theorem nodup_putEntry {name value : Text} {entries : List (Text × Text)}
    (distinct : (entries.map Prod.fst).Nodup) :
    ((putEntry name value entries).map Prod.fst).Nodup := by
  induction entries with
  | nil => simp [putEntry]
  | cons entry rest ih =>
      obtain ⟨first, old⟩ := entry
      simp only [List.map_cons, List.nodup_cons] at distinct
      rw [putEntry]
      split
      · next same =>
          subst same
          simpa using distinct
      · next different =>
          simp only [List.map_cons, List.nodup_cons]
          refine ⟨fun present => ?_, ih distinct.2⟩
          rcases mem_putEntry_names.mp present with same | before
          · exact different same
          · exact distinct.1 before

def empty : Bindings := ⟨[], by simp⟩

def get? (bindings : Bindings) (name : Text) : Option Text :=
  bindings.entries.lookup name

def put (bindings : Bindings) (name value : Text) : Bindings :=
  ⟨putEntry name value bindings.entries, nodup_putEntry bindings.distinct⟩

def erase (bindings : Bindings) (name : Text) : Bindings :=
  ⟨bindings.entries.filter fun entry => entry.1 ≠ name,
    bindings.distinct.sublist (List.filter_sublist.map Prod.fst)⟩

/-- The value bound to a name with the same bytes as the given one. -/
def getBytes? (bindings : Bindings) (name : Text) : Option Text :=
  (bindings.entries.find? fun entry => Text.sameBytes entry.1 name).map Prod.snd

/-- The bindings that a list of pairs describes; of two pairs for a name the later one counts. -/
def ofList (pairs : List (Text × Text)) : Bindings :=
  pairs.foldl (fun bindings pair => bindings.put pair.1 pair.2) empty

end Bindings

structure Store where
  own : Bindings
  inherited : Bindings
  deriving DecidableEq

namespace Store

def resolve (store : Store) (name : Text) : Option Text :=
  match store.own.get? name with
  | some value => some value
  | none => store.inherited.getBytes? name

/-- Holds of the names that cannot be looked up: without a binding of the shell the surroundings are
asked, and they refuse a name that has no bytes. -/
def refuses (store : Store) (name : Text) : Bool :=
  (store.own.get? name).isNone && (Text.bytes? name).isNone

def assign (store : Store) (name value : Text) : Store :=
  { store with own := store.own.put name value }

def unset (store : Store) (name : Text) : Store :=
  { store with own := store.own.erase name }

end Store

end LineShell
