/-!
# Entries in the order of their keys' arrival

A list of keyed entries that keeps the order in which they were declared, and
also keeps a key that is declared twice.

| operation | effect |
| --- | --- |
| `get?` | the value of the first entry with the key |
| `insert` | replaces that value, or appends an entry |
| `firstRepeated?` | the first key with an earlier entry of the same key |
-/

namespace AgentTool

/-- Keyed entries in order. -/
abbrev Entries (α : Type) := List (String × α)

namespace Entries

variable {α : Type}

/-- The value of the first entry with the key. -/
def get? (key : String) : List (String × α) → Option α
  | [] => none
  | (k, v) :: rest => if k = key then some v else get? key rest

/-- Replaces the value of the first entry with the key, or appends an entry. -/
def insert (entries : List (String × α)) (key : String) (value : α) : List (String × α) :=
  match entries with
  | [] => [(key, value)]
  | (k, v) :: rest => if k = key then (k, value) :: rest else (k, v) :: insert rest key value

/-- Inserts the entries one after the other. -/
def insertAll (entries new : List (String × α)) : List (String × α) :=
  new.foldl (fun acc e => insert acc e.1 e.2) entries

/-- Appends the entries whose keys are not taken yet. -/
def fill (entries new : List (String × α)) : List (String × α) :=
  new.foldl (fun acc e => if (get? e.1 acc).isSome then acc else acc ++ [e]) entries

/-- The keys of the entries. -/
def keys (entries : List (String × α)) : List String := entries.map (·.1)

/-- The first of the names that is among those seen or named earlier. -/
def firstRepeatedFrom? (seen : List String) : List String → Option String
  | [] => none
  | k :: ks => if seen.contains k then some k else firstRepeatedFrom? (k :: seen) ks

/-- The first key that has an earlier entry. -/
def firstRepeated? (entries : List (String × α)) : Option String :=
  firstRepeatedFrom? [] (keys entries)

end Entries
end AgentTool
