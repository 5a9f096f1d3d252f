/-! Association lists that keep the order of first insertion. -/
namespace SplitTest.Assoc

variable {α β γ : Type}

/-- The value under the first key that `same` accepts. -/
def findBy? (same : α → Bool) : List (α × β) → Option β
  | [] => none
  | (k, v) :: rest => if same k then some v else findBy? same rest

def find? [BEq α] (key : α) (entries : List (α × β)) : Option β :=
  findBy? (· == key) entries

/-- A value under a key: in the place of an equal key, else at the end. -/
def insertBy (same : α → α → Bool) (key : α) (value : β) : List (α × β) → List (α × β)
  | [] => [(key, value)]
  | (k, v) :: rest =>
    if same k key then (k, value) :: rest else (k, v) :: insertBy same key value rest

def insert [BEq α] (key : α) (value : β) (entries : List (α × β)) : List (α × β) :=
  insertBy (· == ·) key value entries

/-- Entries from first to last: equal keys keep the first position and the last value. -/
def ofListBy (same : α → α → Bool) (entries : List (α × β)) : List (α × β) :=
  entries.foldl (fun done (k, v) => insertBy same k v done) []

def ofList [BEq α] (entries : List (α × β)) : List (α × β) :=
  ofListBy (· == ·) entries

end SplitTest.Assoc
