import RoutingProcessor.Yaml.Node

namespace RoutingProcessor.Yaml.Node

variable {anchors : Anchors} {node : Node} {tag : Option String} {entries : List (Node × Node)}

mutual

-- Whatever an alias in a document can mean could be read with the document.
theorem isWhole_of_mem_anchors (node : Node) (whole : node.isWhole = true) :
    ∀ anchor ∈ node.anchors, anchor.2.isWhole = true := by
  cases node with
  | scalar | reference | broken => simp [Node.anchors]
  | sequence tag items => exact areWhole_of_mem_anchorsOf items whole
  | mapping tag entries => exact entriesWhole_of_mem_entryAnchors entries whole
  | anchored number node =>
    intro anchor h
    obtain rfl | h := List.mem_cons.1 h
    · exact whole
    · exact isWhole_of_mem_anchors node whole anchor h

theorem areWhole_of_mem_anchorsOf (items : List Node) (whole : areWhole items = true) :
    ∀ anchor ∈ anchorsOf items, anchor.2.isWhole = true := by
  cases items with
  | nil => simp [anchorsOf]
  | cons node rest =>
    simp only [areWhole, Bool.and_eq_true] at whole
    intro anchor h
    obtain h | h := List.mem_append.1 h
    · exact isWhole_of_mem_anchors node whole.1 anchor h
    · exact areWhole_of_mem_anchorsOf rest whole.2 anchor h

theorem entriesWhole_of_mem_entryAnchors (entries : List (Node × Node))
    (whole : entriesWhole entries = true) :
    ∀ anchor ∈ entryAnchors entries, anchor.2.isWhole = true := by
  cases entries with
  | nil => simp [entryAnchors]
  | cons entry rest =>
    obtain ⟨key, value⟩ := entry
    simp only [entriesWhole, Bool.and_eq_true] at whole
    intro anchor h
    simp only [entryAnchors, List.mem_append] at h
    obtain (h | h) | h := h
    · exact isWhole_of_mem_anchors key whole.1.1 anchor h
    · exact isWhole_of_mem_anchors value whole.1.2 anchor h
    · exact entriesWhole_of_mem_entryAnchors rest whole.2 anchor h

end

theorem isWhole_of_mem_entries (whole : entriesWhole entries = true) :
    ∀ entry ∈ entries, entry.2.isWhole = true := by
  induction entries with
  | nil => simp
  | cons entry rest ih =>
    obtain ⟨key, value⟩ := entry
    simp only [entriesWhole, Bool.and_eq_true] at whole
    simp only [List.forall_mem_cons]
    exact ⟨whole.1.2, ih whole.2⟩

-- An alias of a whole document means something whole, or nothing at all.
theorem isWhole_resolve (known : ∀ anchor ∈ anchors, anchor.2.isWhole = true)
    (whole : node.isWhole = true) :
    (node.resolve anchors).isWhole = true ∨ node.resolve anchors = .broken := by
  cases node with
  | reference number =>
    cases found : anchors.reverse.lookup number with
    | none => simp [resolve, found]
    | some node =>
      obtain ⟨before, after, split, -⟩ := List.lookup_eq_some_iff.1 found
      have mem : (number, node) ∈ anchors.reverse := by simp [split]
      simp [resolve, found, known _ (List.mem_reverse.1 mem)]
  | anchored number node => exact .inl whole
  | scalar | sequence | mapping | broken => exact .inl whole

theorem entriesWhole_of_resolve (known : ∀ anchor ∈ anchors, anchor.2.isWhole = true)
    (whole : node.isWhole = true) (found : node.resolve anchors = .mapping tag entries) :
    ∀ entry ∈ entries, entry.2.isWhole = true := by
  obtain h | h := isWhole_resolve known whole
  · rw [found] at h
    exact isWhole_of_mem_entries h
  · rw [found] at h
    cases h

end RoutingProcessor.Yaml.Node
