import Mathlib

/-- The values of a TOML document over the floats `F`, without arrays and dates. -/
inductive Toml (F : Type*) where
  | string (text : String)
  | integer (value : Int)
  | float (value : F)
  | boolean (value : Bool)
  | table (entries : List (String × Toml F))

namespace Toml

variable {F α κ ρ : Type*}

section Readers

def readString : Toml F → Option String
  | string text => some text
  | _ => none

def readBoolean : Toml F → Option Bool
  | boolean value => some value
  | _ => none

def readUnsigned : Toml F → Option Nat
  | integer value => if 0 ≤ value ∧ value < 2 ^ 64 then some value.toNat else none
  | _ => none

/-- An integer is taken for the float that it denotes. -/
def readFloat (ofInt : Int → F) : Toml F → Option F
  | float value => some value
  | integer value => some (ofInt value)
  | _ => none

/-- An enumeration without data: the name of a variant. -/
def readVariant (variants : List (String × α)) : Toml F → Option α
  | string name => variants.lookup name
  | _ => none

/-- TOML has no null: what is there is a value. -/
def readOption (read : Toml F → Option α) (value : Toml F) : Option (Option α) :=
  (read value).map some

/-- A key that may be missing. -/
def setting (entries : List (String × Toml F)) (key : String) (read : Toml F → Option α)
    (default : α) : Option α :=
  match entries.lookup key with
  | some value => read value
  | none => some default

/-- A key with a second name; both at once are a duplicate. -/
def aliased (entries : List (String × Toml F)) (key other : String) (read : Toml F → Option α)
    (default : α) : Option α :=
  match entries.lookup key, entries.lookup other with
  | some _, some _ => none
  | some value, none | none, some value => read value
  | none, none => some default

def readEntries (read : Toml F → Option α) :
    List (String × Toml F) → Option (List (String × α))
  | [] => some []
  | (key, value) :: rest => do return (key, ← read value) :: (← readEntries read rest)

end Readers

section SortedMap

variable [LinearOrder κ]

def insertKey (key : κ) (value : ρ) : List (κ × ρ) → List (κ × ρ)
  | [] => [(key, value)]
  | (first, held) :: rest =>
    if key < first then (key, value) :: (first, held) :: rest
    else if key = first then (key, value) :: rest
    else (first, held) :: insertKey key value rest

def sortedMap (entries : List (κ × ρ)) : List (κ × ρ) :=
  entries.foldl (fun map entry => insertKey entry.1 entry.2 map) []

def Ascending (entries : List (κ × ρ)) : Prop := entries.Pairwise fun left right => left.1 < right.1

theorem insertKey_last {map : List (κ × ρ)} {key : κ} (last : ∀ entry ∈ map, entry.1 < key)
    (value : ρ) : insertKey key value map = map ++ [(key, value)] := by
  induction map with
  | nil => rfl
  | cons entry rest ih =>
    have lower := last entry List.mem_cons_self
    rw [insertKey, if_neg lower.not_gt, if_neg lower.ne',
      ih fun other member => last other (List.mem_cons_of_mem _ member), List.cons_append]

theorem sortedMap_of_ascending {entries : List (κ × ρ)} (ascending : Ascending entries) :
    sortedMap entries = entries := by
  have collected : ∀ rest map : List (κ × ρ), Ascending (map ++ rest) →
      rest.foldl (fun map entry => insertKey entry.1 entry.2 map) map = map ++ rest := by
    intro rest
    induction rest with
    | nil => intro map _; simp
    | cons entry rest ih =>
      intro map sorted
      have last : ∀ other ∈ map, other.1 < entry.1 := by
        intro other member
        exact (List.pairwise_append.mp sorted).2.2 other member entry List.mem_cons_self
      rw [List.append_cons] at sorted ⊢
      rw [List.foldl_cons, insertKey_last last]
      exact ih _ sorted
  exact collected entries [] ascending

def readMap (read : Toml F → Option α) : Toml F → Option (List (String × α))
  | table entries => (readEntries read entries).map sortedMap
  | _ => none

end SortedMap

section Writers

/-- TOML integers have 64 bits and a sign. -/
def writeUnsigned (value : Nat) : Option (Toml F) :=
  if value < 2 ^ 63 then some (integer value) else none

/-- A setting that is `none` has no key. -/
def writeOption (key : String) (write : α → Toml F) : Option α → List (String × Toml F)
  | some value => [(key, write value)]
  | none => []

def writeMap (write : α → Toml F) (entries : List (String × α)) : Toml F :=
  table (entries.map fun entry => (entry.1, write entry.2))

end Writers

section RoundTrip

theorem readString_eq_some {value : Toml F} {text : String} :
    readString value = some text ↔ value = string text := by
  cases value <;> simp [readString]

theorem readBoolean_eq_some {value : Toml F} {flag : Bool} :
    readBoolean value = some flag ↔ value = boolean flag := by
  cases value <;> simp [readBoolean]

theorem writeUnsigned_of_lt {value : Nat} (fits : value < 2 ^ 63) :
    writeUnsigned value = some (integer value : Toml F) := if_pos fits

theorem readUnsigned_of_writeUnsigned {value : Nat} {toml : Toml F}
    (written : writeUnsigned value = some toml) : readUnsigned toml = some value := by
  unfold writeUnsigned at written
  split at written
  · rename_i fits
    cases written
    have bounds : (0 : Int) ≤ value ∧ (value : Int) < 2 ^ 64 := by omega
    rw [readUnsigned, if_pos bounds, Int.toNat_natCast]
  · contradiction

theorem readEntries_map {read : Toml F → Option α} {write : α → Toml F}
    (inverse : ∀ value, read (write value) = some value) (entries : List (String × α)) :
    readEntries read (entries.map fun entry => (entry.1, write entry.2)) = some entries := by
  induction entries with
  | nil => rfl
  | cons entry rest ih =>
    rw [List.map_cons, readEntries, inverse, ih]
    rfl

theorem readMap_writeMap {read : Toml F → Option α} {write : α → Toml F}
    (inverse : ∀ value, read (write value) = some value) {entries : List (String × α)}
    (ascending : Ascending entries) : readMap read (writeMap write entries) = some entries := by
  rw [writeMap, readMap, readEntries_map inverse, Option.map_some,
    sortedMap_of_ascending ascending]

theorem setting_readOption_eq_some {entries : List (String × Toml F)} {key : String}
    {read : Toml F → Option α} {write : α → Toml F}
    (inverse : ∀ toml value, read toml = some value ↔ toml = write value) {value : Option α} :
    setting entries key (readOption read) none = some value ↔
      entries.lookup key = value.map write := by
  unfold setting readOption
  cases entries.lookup key with
  | none => cases value <;> simp
  | some toml =>
    cases value with
    | none => simp
    | some value => simp [inverse]

end RoundTrip

end Toml
