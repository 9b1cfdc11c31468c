import RoutingProcessor.Failure.Basic

namespace RoutingProcessor.Failure

variable {links : List Link} {root cause : Cause}

-- An error with a chain of sources behind it.
def ofLinks (links : List Link) (root : Cause) : Failure := links.foldr wrap (ofCause root)

-- Every failure is one.
theorem exists_ofLinks (failure : Failure) : ∃ links root, failure = ofLinks links root := by
  induction failure with
  | ofCause root => exact ⟨[], root, rfl⟩
  | wrap link source ih =>
    obtain ⟨links, root, rfl⟩ := ih
    exact ⟨link :: links, root, rfl⟩

theorem links_ofLinks (links : List Link) (root : Cause) :
    (ofLinks links root).links = links ++ [.error root] := by
  induction links with
  | nil => rfl
  | cons link links ih =>
    have next : (ofLinks (link :: links) root).links = link :: (ofLinks links root).links := rfl
    rw [next, ih, List.cons_append]

theorem chain_ofLinks (links : List Link) (root : Cause) :
    (ofLinks links root).chain = links.map Link.message ++ [root.message] := by
  simp [chain, links_ofLinks]

theorem rootCause_ofLinks (links : List Link) (root : Cause) :
    (ofLinks links root).rootCause = .error root := by
  simp [rootCause, links_ofLinks]

theorem find?_ofLinks {β : Type} (links : List Link) (root : Cause) (test : Cause → Option β) :
    (ofLinks links root).find? test = (links.filterMap Link.cause? ++ [root]).findSome? test := by
  rw [find?, links_ofLinks, ← List.head?_filterMap, ← List.filterMap_filterMap, List.head?_filterMap,
    List.filterMap_append]
  rfl

section Results

variable {ε α : Type} [Origin ε]

theorem add_ok (way : Way) (message : String) (value : α) :
    way.add message (.ok value : Except ε α) = .ok value := by
  cases way <;> rfl

theorem add_error (way : Way) (message : String) (error : ε) :
    way.add message (.error error : Except ε α) = .error ((Origin.toFailure error).context message) := by
  cases way <;> rfl

end Results

-- Says several times of a result what was being done, the innermost first.
def addAll {α : Type} (additions : List (Way × String)) (result : Except Failure α) :
    Except Failure α :=
  additions.foldl (fun result addition => addition.1.add addition.2 result) result

theorem addAll_ok {α : Type} (additions : List (Way × String)) (value : α) :
    addAll additions (.ok value) = .ok value := by
  induction additions with
  | nil => rfl
  | cons addition additions ih =>
    rw [addAll, List.foldl_cons, add_ok]
    exact ih

-- The contexts stand over what was there, the last to come in front.
theorem addAll_error {α : Type} (additions : List (Way × String)) (links : List Link) (root : Cause) :
    addAll additions (.error (ofLinks links root) : Except Failure α) =
      .error (ofLinks ((additions.map fun addition => .context addition.2).reverse ++ links) root) := by
  induction additions generalizing links with
  | nil => rfl
  | cons addition additions ih =>
    have inner : addAll (addition :: additions) (.error (ofLinks links root) : Except Failure α) =
        addAll additions (.error (ofLinks (.context addition.2 :: links) root)) := by
      rw [addAll, List.foldl_cons, add_error]
      rfl
    rw [inner, ih]
    simp

-- Whatever contexts are added to an error and in whichever ways, its chain tells them outermost
-- first and then the error's own chain, and its message joins them. The root and what can be
-- found among the errors behind the contexts are those of the error alone. The ways differ
-- in nothing, a success stays as it is, and a failure that is made into one stays itself.
theorem contexts_stand_over_chain {α : Type} (additions : List (Way × String))
    (links : List Link) (root : Cause) :
    let messages := (additions.map Prod.snd).reverse
    (∃ failure, addAll additions (.error (ofLinks links root) : Except Failure α) = .error failure ∧
      failure.chain = messages ++ (links.map Link.message ++ [root.message]) ∧
      failure.message =
        String.intercalate ": " (messages ++ (links.map Link.message ++ [root.message])) ∧
      failure.rootCause = .error root ∧
      (∀ {β : Type} (test : Cause → Option β), failure.find? test =
        (links.filterMap Link.cause? ++ [root]).findSome? test) ∧
      Origin.toFailure failure = failure) ∧
    (∀ value : α, addAll additions (.ok value) = .ok value) ∧
    ∀ {ε : Type} [Origin ε] (way : Way) (message : String),
      (∀ value : α, way.add message (.ok value : Except ε α) = .ok value) ∧
      ∀ error : ε, way.add message (.error error : Except ε α) =
        .error ((Origin.toFailure error).context message) := by
  intro messages
  have told : ((additions.map fun addition => Link.context addition.2).reverse ++ links).map
      Link.message = messages ++ links.map Link.message := by
    simp [messages, Function.comp_def]
  have unfound : ((additions.map fun addition => Link.context addition.2).reverse ++ links).filterMap
      Link.cause? = links.filterMap Link.cause? := by
    simp [List.filterMap_append, List.filterMap_reverse, List.filterMap_map, Function.comp_def]
  refine ⟨⟨_, addAll_error additions links root, ?_, ?_, rootCause_ofLinks _ _, fun test => ?_, rfl⟩,
    addAll_ok additions, fun way message => ⟨add_ok way message, add_error way message⟩⟩
  · rw [chain_ofLinks, told, List.append_assoc]
  · rw [Failure.message, chain_ofLinks, told, List.append_assoc]
  · rw [find?_ofLinks, unfound]

end RoutingProcessor.Failure
