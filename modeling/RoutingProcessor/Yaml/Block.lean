import RoutingProcessor.Yaml.Cursor

namespace RoutingProcessor.Yaml.Block

-- What becomes of the breaks at the end of a block scalar.
inductive Chomping where
  | strip
  | clip
  | keep
deriving DecidableEq

-- The signs behind the mark of a block scalar.
structure Head where
  chomping : Chomping
  -- How much deeper than its surroundings the text stands, if given.
  increment : Option Nat

def chomping? (c : Char) : Option Chomping :=
  if c = '+' then some .keep else if c = '-' then some .strip else none

def increment? (c : Char) : Option Nat :=
  if '0' ≤ c && c ≤ '9' then some (c.toNat - '0'.toNat) else none

-- The two signs may stand in either order. Nothing stands for an increment of zero.
def head? (text : List Char) : Option (Head × Nat) :=
  let c := text.head?
  let d := (text.drop 1).head?
  let (head, taken) : Head × Nat :=
    match c.bind chomping?, c.bind increment? with
    | some chomping, _ =>
      match d.bind increment? with
      | some n => (⟨chomping, some n⟩, 2)
      | none => (⟨chomping, none⟩, 1)
    | none, some n =>
      match d.bind chomping? with
      | some chomping => (⟨chomping, some n⟩, 2)
      | none => (⟨.clip, some n⟩, 1)
    | none, none => (⟨.clip, none⟩, 0)
  if head.increment = some 0 then none else some (head, taken)

-- Empty lines: their breaks, the deepest column in them, and the place of the first
-- character behind the indentation. A tab must not stand in for indentation.
def emptyLines (indent : Option Nat) (deepest : Nat) (text : List Char) (line : Nat) :
    Option (List Char × Nat × Cursor) :=
  let spaces := (text.takeWhile (· == ' ')).length
  let column := indent.elim spaces (min spaces)
  let deepest := max deepest column
  match _h : text.drop column with
  | [] => some ([], deepest, ⟨[], line, column⟩)
  | c :: rest =>
    if c = '\t' && indent.all (column < ·) then none
    else if isBreak c then
      (emptyLines indent deepest rest (line + 1)).map fun (breaks, more) => (c :: breaks, more)
    else some ([], deepest, ⟨c :: rest, line, column⟩)
termination_by text.length
decreasing_by
  have h := congrArg List.length ‹text.drop _ = c :: rest›
  simp only [List.length_drop, List.length_cons] at h
  omega

-- What has been seen of a block scalar: the last break that was not yet taken over,
-- the empty lines behind it, and whether the line before them starts with a blank.
structure Pending where
  lastBreak : Option Char
  empty : List Char
  afterBlank : Bool

-- What joins the next line to the text before it. Folding spares lines that start
-- with a blank.
def Pending.joint (folds : Bool) (pending : Pending) (nextBlank : Bool) : List Char :=
  if folds && pending.lastBreak == some '\n' && !pending.afterBlank && !nextBlank then
    if pending.empty.isEmpty then [' '] else pending.empty
  else pending.lastBreak.toList ++ pending.empty

theorem length_emptyLines_le {indent : Option Nat} {deepest line : Nat} {text : List Char}
    {found : List Char × Nat × Cursor} (h : emptyLines indent deepest text line = some found) :
    found.2.2.rest.length ≤ text.length := by
  fun_induction emptyLines indent deepest text line generalizing found with
  | case1 => cases h; simp
  | case2 => simp at h
  | case3 =>
    rename_i hdrop _ _ ih
    obtain ⟨inner, hinner, rfl⟩ := Option.map_eq_some_iff.1 h
    have hle := ih hinner
    have hlen := congrArg List.length hdrop
    simp only [List.length_drop, List.length_cons] at hlen
    exact Nat.le_trans hle (by omega)
  | case4 =>
    rename_i hdrop _ _
    cases h
    have hlen := congrArg List.length hdrop
    simp only [List.length_drop, List.length_cons] at hlen ⊢
    omega

-- The lines of a block scalar that start at its column.
def lines (folds : Bool) (indent : Nat) (pending : Pending) (text : List Char) (line column : Nat) :
    Option (List Char × Pending × Cursor) :=
  if _h : column = indent ∧ text ≠ [] then
    let blank := text.head?.any isBlank
    let words := text.takeWhile fun c => !isBreak c
    let joint := pending.joint folds blank
    let rest := text.drop words.length
    match _hm : emptyLines (some indent) 0 (rest.drop 1) (line + 1) with
    | none => none
    | some (empty, _, next) =>
      (lines folds indent ⟨rest.head?, empty, blank⟩ next.rest next.line next.column).map
        fun (text, more) => (joint ++ words ++ text, more)
  else some ([], pending, ⟨text, line, column⟩)
termination_by text.length
decreasing_by
  have h := length_emptyLines_le _hm
  have hpos : 0 < text.length := List.length_pos_iff.2 _h.2
  have htake : words.length ≤ text.length := (List.takeWhile_prefix _).length_le
  simp only [List.length_drop, rest] at h
  by_cases hw : words.length = 0
  · omega
  · omega

-- The text of a block scalar, from behind its mark. Unless it is given, the column of
-- the text is that of its first line, and deeper than what the scalar belongs to.
def read (folds : Bool) (outer : Option Nat) (c : Cursor) : Option (List Char × Cursor) := do
  let (head, taken) ← head? c.rest
  let c ← (c.skip taken).nextLine?
  let least := outer.elim 0 (· + 1)
  let given := head.increment.map fun n => outer.elim n (· + n)
  let (empty, deepest, c) ← emptyLines given 0 c.rest c.line
  let indent := given.getD (max 1 (max least deepest))
  let (text, pending, c) ← lines folds indent ⟨none, empty, false⟩ c.rest c.line c.column
  let ending := match head.chomping with
    | .strip => []
    | .clip => pending.lastBreak.toList
    | .keep => pending.lastBreak.toList ++ pending.empty
  return (text ++ ending, c)

end RoutingProcessor.Yaml.Block
