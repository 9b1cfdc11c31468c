import RoutingProcessor.Proofs.Config.Members

namespace RoutingProcessor.Config

open Yaml Net OfYaml

-- A number is written without quotes, or as a block that is tagged as one.
def IsWord (anchors : Node.Anchors) (node : Node) (n : UInt32) : Prop :=
  ∃ text style tag, node.resolve anchors = .scalar text style tag ∧
    (style = .plain ∨ style = .literal ∧ tag = some (standard "int")) ∧
    Meaning.unsigned? text.toList = some n.toNat

def IsDuration (anchors : Node.Anchors) (node : Node) (duration : Duration) : Prop :=
  ∃ text, IsText anchors node text ∧ Duration.parse? text = some duration

def IsAddress (anchors : Node.Anchors) (node : Node) (address : SocketAddress) : Prop :=
  ∃ text, IsText anchors node text ∧ SocketAddress.parse? text = some address

-- One of a few words, as a text or as the tag of nothing.
inductive IsChoice {α : Type} (words : List (String × α)) (anchors : Node.Anchors) (node : Node)
    (a : α) : Prop where
  | word {text : String} {style : Style} {tag : Option String}
      (found : node.resolve anchors = .scalar text style tag) (untagged : tagWord? tag = none)
      (chosen : words.lookup text = some a) : IsChoice words anchors node a
  | tag {text word : String} {tag : Option String}
      (found : node.resolve anchors = .scalar text .plain tag) (tagged : tagWord? tag = some word)
      (empty : text = "" ∨ Meaning.isNull text = true) (chosen : words.lookup word = some a) :
      IsChoice words anchors node a

-- What stands for no value: nothing, or a null that no tag makes something else.
def IsNothing (text : String) (tag : Option String) : Prop :=
  if tag = some (standard "null") then Meaning.isNull text = true
  else text = "" ∨ tag = none ∧ Meaning.isNull text = true

def IsAbsent (anchors : Node.Anchors) (node : Node) : Prop :=
  ∃ text tag, node.resolve anchors = .scalar text .plain tag ∧ IsNothing text tag

-- A value that may be absent. What is tagged as null is no value.
inductive IsOptional {α : Type} (means : Node → α → Prop) (anchors : Node.Anchors) (node : Node) :
    Option α → Prop where
  | absent (h : IsAbsent anchors node) : IsOptional means anchors node none
  | present {a : α} (h : ¬ IsAbsent anchors node)
      (untagged : ∀ text, node.resolve anchors ≠ .scalar text .plain (some (standard "null")))
      (said : means node a) : IsOptional means anchors node (some a)

variable {anchors : Node.Anchors} {node : Node} {path : List String}

theorem map_eq_ok_iff {ε α β : Type} {x : Except ε α} {f : α → β} {b : β} :
    x.map f = .ok b ↔ ∃ a, x = .ok a ∧ f a = b := by
  cases x <;> simp [Except.map]

@[simp] theorem member_key {σ α : Type} {key : String} {read : Place → Except Trouble α}
    {put : α → σ → σ} : (Form.member key read put).key = key := rfl

@[simp] theorem forall_member_read_iff {σ α : Type} {key : String} {read : Place → Except Trouble α}
    {put : α → σ → σ} {place : Place} {p : (σ → σ) → Prop} :
    (∀ f, (Form.member key read put).read place = .ok f → p f) ↔
      ∀ a, read place = .ok a → p (put a) := by
  simp only [Form.member, map_eq_ok_iff]
  constructor
  · exact fun h a read => h _ ⟨a, read, rfl⟩
  · rintro h f ⟨a, read, rfl⟩
    exact h a read

@[simp] theorem exists_member_read_iff {σ α : Type} {key : String} {read : Place → Except Trouble α}
    {put : α → σ → σ} {place : Place} :
    (∃ f, (Form.member key read put).read place = .ok f) ↔ ∃ a, read place = .ok a := by
  simp only [Form.member, map_eq_ok_iff]
  constructor
  · rintro ⟨f, a, read, -⟩
    exact ⟨a, read⟩
  · rintro ⟨a, read⟩
    exact ⟨_, a, read, rfl⟩

@[simp] theorem text_eq_ok_iff {text : String} :
    yamlForm.text ⟨node, anchors, path⟩ = .ok text ↔ IsText anchors node text :=
  placed_eq_ok_iff.trans scalarText_eq_ok_iff

theorem word_scalar_eq_ok_iff {text : String} {style : Style} {tag : Option String} {n : UInt32} :
    word (.scalar text style tag) = .ok n ↔
      (style = .plain ∨ style = .literal ∧ tag = some (standard "int")) ∧
        Meaning.unsigned? text.toList = some n.toNat := by
  by_cases number : style = .plain ∨ style = .literal ∧ tag = some (standard "int")
  · have isNumber :
        (style = .plain || (style = .literal && tag = some (standard "int"))) = true := by
      simpa using number
    cases read : Meaning.unsigned? text.toList with
    | none => simp [word, read]
    | some m =>
      simp only [word, isNumber, if_true, read, number, true_and, Option.some.injEq]
      by_cases short : m < UInt32.size
      · rw [if_pos short, Except.ok.injEq, ← UInt32.toNat_inj, UInt32.toNat_ofNat_of_lt' short]
      · have other : m ≠ n.toNat := by
          have bound := n.toNat_lt_size
          omega
        simp [short, other]
  · simp [word, number]

@[simp] theorem word_eq_ok_iff {n : UInt32} :
    yamlForm.word ⟨node, anchors, path⟩ = .ok n ↔ IsWord anchors node n := by
  refine placed_eq_ok_iff.trans ?_
  simp only [IsWord]
  cases node.resolve anchors with
  | scalar text style tag =>
    rw [word_scalar_eq_ok_iff]
    simp [and_assoc]
  | sequence | mapping | anchored | reference | broken => simp [word]

@[simp] theorem duration_eq_ok_iff {duration : Duration} :
    yamlForm.duration ⟨node, anchors, path⟩ = .ok duration ↔ IsDuration anchors node duration := by
  refine placed_eq_ok_iff.trans (bind_eq_ok_iff.trans ?_)
  simp only [scalarText_eq_ok_iff, IsDuration]
  refine exists_congr fun text => and_congr_right fun _ => ?_
  cases Duration.parse? text <;> simp [pure, Except.pure, throw, throwThe, MonadExceptOf.throw]

@[simp] theorem address_eq_ok_iff {address : SocketAddress} :
    yamlForm.address ⟨node, anchors, path⟩ = .ok address ↔ IsAddress anchors node address := by
  refine placed_eq_ok_iff.trans (bind_eq_ok_iff.trans ?_)
  simp only [scalarText_eq_ok_iff, IsAddress]
  refine exists_congr fun text => and_congr_right fun _ => ?_
  cases SocketAddress.parse? text <;> simp [pure, Except.pure, throw, throwThe, MonadExceptOf.throw]

theorem variant_eq_ok_iff {α : Type} {words : List (String × α)} {name : String} {a : α} :
    variant words name = .ok a ↔ words.lookup name = some a := by
  unfold variant
  cases words.lookup name <;> simp

theorem nothing_eq_ok_iff : nothing node = .ok () ↔
    ∃ text tag, node = .scalar text .plain tag ∧ (text = "" ∨ Meaning.isNull text = true) := by
  unfold nothing
  cases node with
  | scalar text style tag =>
    by_cases plain : style = .plain
    · simp [plain, Decidable.or_iff_not_imp_left]
    · simp [plain]
  | sequence | mapping | anchored | reference | broken => simp

-- A tag chooses where nothing is said behind it.
theorem choice_of_tag {α : Type} {words : List (String × α)} {a : α} {place : Place}
    {word : String} :
    (do
      let a ← variant words word
      placed nothing place
      return a) = Except.ok a ↔
      words.lookup word = some a ∧ placed nothing place = .ok () := by
  rw [bind_eq_ok_iff]
  simp only [variant_eq_ok_iff, bind_eq_ok_iff]
  constructor
  · rintro ⟨b, chosen, ⟨⟩, empty, ⟨⟩⟩
    exact ⟨chosen, empty⟩
  · rintro ⟨chosen, empty⟩
    exact ⟨a, chosen, (), empty, rfl⟩

theorem choice_eq_ok_iff {α : Type} {words : List (String × α)} {a : α} :
    choice words ⟨node, anchors, path⟩ = .ok a ↔ IsChoice words anchors node a := by
  have said : placed (fun node => do
      variant words (← scalarText "a YAML tag starting with '!'" node)) ⟨node, anchors, path⟩ =
        .ok a ↔ ∃ text, IsText anchors node text ∧ words.lookup text = some a := by
    rw [placed_eq_ok_iff, bind_eq_ok_iff]
    simp only [scalarText_eq_ok_iff, variant_eq_ok_iff]
  unfold choice
  constructor
  · intro h
    cases found : node.resolve anchors with
    | scalar text style tag =>
      cases tagged : tagWord? tag with
      | none =>
        simp only [found, tagged, said] at h
        obtain ⟨other, ⟨_, _, also⟩, chosen⟩ := h
        rw [found] at also
        cases also
        exact .word found tagged chosen
      | some word =>
        simp only [found, tagged, choice_of_tag, placed_eq_ok_iff, nothing_eq_ok_iff] at h
        obtain ⟨chosen, _, _, also, empty⟩ := h
        cases also
        exact .tag found tagged empty chosen
    | sequence tag | mapping tag =>
      cases tagged : tagWord? tag with
      | none => simp [found, tagged, said, IsText] at h
      | some word =>
        simp only [found, tagged, choice_of_tag, placed_eq_ok_iff, nothing_eq_ok_iff] at h
        obtain ⟨-, _, _, ⟨⟩, -⟩ := h
    | anchored | reference | broken => simp [found, said, IsText] at h
  · intro h
    cases h with
    | word found untagged chosen =>
      simp only [found, untagged, said]
      exact ⟨_, ⟨_, _, found⟩, chosen⟩
    | tag found tagged empty chosen =>
      simp only [found, tagged, choice_of_tag, placed_eq_ok_iff, nothing_eq_ok_iff]
      exact ⟨chosen, _, _, rfl, empty⟩

@[simp] theorem network_eq_ok_iff {network : Network} :
    yamlForm.network ⟨node, anchors, path⟩ = .ok network ↔
      IsChoice networks anchors node network :=
  choice_eq_ok_iff

@[simp] theorem format_eq_ok_iff {format : LogFormat} :
    yamlForm.format ⟨node, anchors, path⟩ = .ok format ↔ IsChoice formats anchors node format :=
  choice_eq_ok_iff

theorem isAbsent_eq_ok_true_iff {text : String} {style : Style} {tag : Option String} :
    isAbsent text style tag = .ok true ↔ style = .plain ∧ IsNothing text tag := by
  unfold isAbsent IsNothing
  by_cases plain : style = .plain
  · by_cases null : tag = some (standard "null")
    · cases Meaning.isNull text <;> simp [plain, null]
    · simp [plain, null]
  · simp [plain]

theorem isAbsent_eq_ok_false_iff {text : String} {style : Style} {tag : Option String} :
    isAbsent text style tag = .ok false ↔
      ¬ (style = .plain ∧ IsNothing text tag) ∧
        ¬ (style = .plain ∧ tag = some (standard "null")) := by
  unfold isAbsent IsNothing
  by_cases plain : style = .plain
  · by_cases null : tag = some (standard "null")
    · cases Meaning.isNull text <;> simp [plain, null]
    · simp [plain, null]
  · simp [plain]

theorem optional_eq_ok_iff {α : Type} {read : Place → Except Trouble α} {means : Node → α → Prop}
    (reads : ∀ a, read ⟨node, anchors, path⟩ = .ok a ↔ means node a) {found : Option α} :
    OfYaml.optional read ⟨node, anchors, path⟩ = .ok found ↔
      IsOptional means anchors node found := by
  have given : (do return some (← read ⟨node, anchors, path⟩)) = Except.ok found ↔
      ∃ a, means node a ∧ found = some a := by
    rw [bind_eq_ok_iff]
    simp only [reads, pure, Except.pure, Except.ok.injEq, eq_comm (a := found)]
  unfold OfYaml.optional
  cases resolved : node.resolve anchors with
  | scalar text style tag =>
    have absent_iff : IsAbsent anchors node ↔ style = .plain ∧ IsNothing text tag := by
      simp [IsAbsent, resolved, and_assoc]
    have null_iff : (∀ text, node.resolve anchors ≠ .scalar text .plain (some (standard "null"))) ↔
        ¬ (style = .plain ∧ tag = some (standard "null")) := by
      simp [resolved]
    dsimp only
    rw [bind_eq_ok_iff]
    constructor
    · rintro ⟨absent, checked, h⟩
      cases absent with
      | true =>
        cases h
        exact .absent (absent_iff.2 (isAbsent_eq_ok_true_iff.1 checked))
      | false =>
        obtain ⟨a, said, rfl⟩ := given.1 h
        obtain ⟨solid, untagged⟩ := isAbsent_eq_ok_false_iff.1 checked
        exact .present (mt absent_iff.1 solid) (null_iff.2 untagged) said
    · intro h
      cases h with
      | absent h => exact ⟨true, isAbsent_eq_ok_true_iff.2 (absent_iff.1 h), rfl⟩
      | present solid untagged said =>
        have checked := isAbsent_eq_ok_false_iff.2 ⟨mt absent_iff.2 solid, null_iff.1 untagged⟩
        exact ⟨false, checked, given.2 ⟨_, said, rfl⟩⟩
  | sequence | mapping | anchored | reference | broken =>
    simp only [given]
    have solid : ¬ IsAbsent anchors node := by simp [IsAbsent, resolved]
    constructor
    · rintro ⟨a, said, rfl⟩
      exact .present solid (by simp [resolved]) said
    · intro h
      cases h with
      | absent h => exact absurd h solid
      | present _ _ said => exact ⟨_, said, rfl⟩

@[simp] theorem optional_text_eq_ok_iff {found : Option String} :
    yamlForm.optional yamlForm.text ⟨node, anchors, path⟩ = .ok found ↔
      IsOptional (IsText anchors) anchors node found :=
  optional_eq_ok_iff fun _ => text_eq_ok_iff

@[simp] theorem optional_duration_eq_ok_iff {found : Option Duration} :
    yamlForm.optional yamlForm.duration ⟨node, anchors, path⟩ = .ok found ↔
      IsOptional (IsDuration anchors) anchors node found :=
  optional_eq_ok_iff fun _ => duration_eq_ok_iff

-- What a reader tells of a node is the only thing that the node means.
theorem unique_of_reads {α : Type} {read : Place → Except Trouble α} {means : α → Prop}
    {place : Place} {a b : α} (reads : ∀ a, read place = .ok a ↔ means a) (h : means a)
    (h' : means b) : a = b :=
  Except.ok.inj (((reads a).2 h).symm.trans ((reads b).2 h'))

theorem IsWord.unique {n m : UInt32} (h : IsWord anchors node n) (h' : IsWord anchors node m) :
    n = m :=
  unique_of_reads (@word_eq_ok_iff anchors node []) h h'

theorem IsDuration.unique {d e : Duration} (h : IsDuration anchors node d)
    (h' : IsDuration anchors node e) : d = e :=
  unique_of_reads (@duration_eq_ok_iff anchors node []) h h'

theorem IsAddress.unique {a b : SocketAddress} (h : IsAddress anchors node a)
    (h' : IsAddress anchors node b) : a = b :=
  unique_of_reads (@address_eq_ok_iff anchors node []) h h'

theorem IsChoice.unique {α : Type} {words : List (String × α)} {a b : α}
    (h : IsChoice words anchors node a) (h' : IsChoice words anchors node b) : a = b :=
  unique_of_reads (@choice_eq_ok_iff anchors node [] _ words) h h'

theorem IsOptional.unique {α : Type} {means : Node → α → Prop} {x y : Option α}
    (unique : ∀ {a b}, means node a → means node b → a = b)
    (h : IsOptional means anchors node x) (h' : IsOptional means anchors node y) : x = y := by
  cases h with
  | absent absent =>
    cases h' with
    | absent => rfl
    | present solid => exact absurd absent solid
  | present solid _ said =>
    cases h' with
    | absent absent => exact absurd absent solid
    | present _ _ said' => rw [unique said said']

end RoutingProcessor.Config
