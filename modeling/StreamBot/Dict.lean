/-! # Dictionaries in order of insertion

A list of keys and values in which each key occurs at most once.  Setting a key that is there keeps its
place.
-/

namespace StreamBot

/-- Keys and values in the order in which the keys were first set. -/
abbrev Dict (κ α : Type) := List (κ × α)

namespace Dict

variable {κ α : Type} [BEq κ]

def get? (d : Dict κ α) (k : κ) : Option α := List.lookup k d

def has (d : Dict κ α) (k : κ) : Bool := d.any (·.1 == k)

def set : Dict κ α → κ → α → Dict κ α
  | [], k, v => [(k, v)]
  | (k', v') :: rest, k, v => if k' == k then (k', v) :: rest else (k', v') :: set rest k v

def erase (d : Dict κ α) (k : κ) : Dict κ α := d.filter fun (k', _) => !(k' == k)

def keys (d : Dict κ α) : List κ := d.map (·.1)

def values (d : Dict κ α) : List α := d.map (·.2)

end Dict
end StreamBot
