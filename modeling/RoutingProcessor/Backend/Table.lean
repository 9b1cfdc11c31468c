namespace RoutingProcessor.Backend

-- Values by names, sorted by the names, each name once.
abbrev Table := List (String × String)

namespace Table

-- Gives a name a value, in place of the one it had.
def insert (name value : String) : Table → Table
  | [] => [(name, value)]
  | (other, kept) :: rest =>
    if name < other then (name, value) :: (other, kept) :: rest
    else if name = other then (name, value) :: rest
    else (other, kept) :: insert name value rest

def ofList (pairs : List (String × String)) : Table :=
  pairs.foldl (fun table pair => table.insert pair.1 pair.2) []

end Table

end RoutingProcessor.Backend
