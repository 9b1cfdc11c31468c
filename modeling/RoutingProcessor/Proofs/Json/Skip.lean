import RoutingProcessor.Proofs.Json.Numeral
import RoutingProcessor.Proofs.Json.Text

namespace RoutingProcessor.Json

open Text

-- What is due where a bracket may hold a further entry.
def Frame.due : Frame → SkipPhase
  | .list => .value
  | .map => .key

namespace Skip

-- Skips a value and leaves what stands behind it.
def rest? (skip : Skip) : Octets → Option Octets
  | [] => none
  | b :: bs =>
    if (skip.settle b).isWhole then some (b :: bs)
    else ((skip.settle b).next? b).bind fun skip => rest? skip bs

variable {skip next : Skip} {frame : Frame} {frames : List Frame} {b : UInt8}
  {gap bs mid rest w : Octets}

section Step

-- Whether an octet is taken at all is decided before it is read: a number may end here.
theorem rest?_settle (skip : Skip) (b : UInt8) (bs : Octets) :
    (skip.settle b).rest? (b :: bs) = skip.rest? (b :: bs) := by
  have idem : (skip.settle b).settle b = skip.settle b := by
    obtain ⟨frames, phase⟩ := skip
    cases phase with
    | number phase =>
      cases hnext : phase.next b <;> simp only [settle, hnext]
    | _ => rfl
  rw [rest?, rest?, idem]

-- An octet that must be taken, and cannot end a number.
theorem rest?_cons (settled : skip.settle b = skip) (due : skip.isWhole = false) (bs : Octets) :
    skip.rest? (b :: bs) = (skip.next? b).bind fun skip => skip.rest? bs := by
  rw [rest?, settled, due]
  rfl

-- Where white space makes no difference.
inductive Waits : Skip → Prop where
  | value (frames : List Frame) : Waits ⟨frames, .value⟩
  | opened (frames : List Frame) : Waits ⟨frames, .opened⟩
  | after (frame : Frame) (frames : List Frame) : Waits ⟨frame :: frames, .after⟩
  | key (frames : List Frame) : Waits ⟨frames, .key⟩
  | colon (frames : List Frame) : Waits ⟨frames, .colon⟩

theorem Waits.rest?_cons (waits : skip.Waits) (b : UInt8) (bs : Octets) :
    skip.rest? (b :: bs) = (skip.next? b).bind fun skip => skip.rest? bs := by
  have settled : skip.settle b = skip := by cases waits <;> rfl
  have due : skip.isWhole = false := by
    cases waits with
    | after => rfl
    | value frames | opened frames | key frames | colon frames => cases frames <;> rfl
  exact Skip.rest?_cons settled due bs

theorem Waits.next?_of_isSpace (waits : skip.Waits) (hb : isSpace b = true) :
    skip.next? b = some skip := by
  cases waits <;> exact if_pos hb

theorem Waits.rest?_blank (waits : skip.Waits) (hgap : Blank gap) (bs : Octets) :
    skip.rest? (gap ++ bs) = skip.rest? bs := by
  induction gap with
  | nil => rfl
  | cons b gap ih =>
    have hb := waits.next?_of_isSpace (hgap b List.mem_cons_self)
    rw [List.cons_append, waits.rest?_cons, hb, Option.bind_some]
    exact ih fun a ha => hgap a (List.mem_cons_of_mem _ ha)

theorem Waits.exists_first (waits : skip.Waits) (h : skip.rest? bs = some rest) :
    ∃ gap b bs' next, Blank gap ∧ isSpace b = false ∧ bs = gap ++ b :: bs' ∧
      skip.next? b = some next ∧ next.rest? bs' = some rest := by
  obtain ⟨gap, back, rfl, hgap, stop⟩ := exists_span isSpace bs
  rw [waits.rest?_blank hgap] at h
  cases back with
  | nil => cases h
  | cons b bs' =>
    rw [waits.rest?_cons, Option.bind_eq_some_iff] at h
    obtain ⟨next, hnext, hrest⟩ := h
    exact ⟨gap, b, bs', next, hgap, stop b rfl, rfl, hnext, hrest⟩

end Step

section Leaf

theorem rest?_text (isKey : Bool) (phase : TextPhase) (bs : Octets) :
    rest? ⟨frames, .text isKey phase⟩ bs = (phase.scan? TextPhase.pass bs).bind fun scanned =>
      rest? ⟨frames, if isKey then .colon else .after⟩ scanned.2 := by
  induction bs generalizing phase with
  | nil => rfl
  | cons b bs ih =>
    have due : isWhole ⟨frames, .text isKey phase⟩ = false := by cases frames <;> rfl
    rw [rest?_cons rfl due, TextPhase.scan?_cons]
    cases hpass : phase.pass b with
    | goes phase' more =>
      have hnext : next? ⟨frames, .text isKey phase⟩ b = some ⟨frames, .text isKey phase'⟩ := by
        simp only [next?, hpass]
      rw [hnext, Option.bind_some, ih, TextPhase.Step.scan?, Option.bind_map]
      rfl
    | ends =>
      have hnext : next? ⟨frames, .text isKey phase⟩ b =
          some ⟨frames, if isKey then .colon else .after⟩ := by
        simp only [next?, hpass]
      rw [hnext]
      rfl
    | fails =>
      have hnext : next? ⟨frames, .text isKey phase⟩ b = none := by simp only [next?, hpass]
      rw [hnext]
      rfl

theorem rest?_number (phase : Numeral) (bs : Octets) :
    rest? ⟨frames, .number phase⟩ bs = (phase.scan? bs).bind (rest? ⟨frames, .after⟩) := by
  induction bs generalizing phase with
  | nil => rfl
  | cons b bs ih =>
    have due : isWhole ⟨frames, .number phase⟩ = false := by cases frames <;> rfl
    rw [Numeral.scan?_cons]
    cases hstep : phase.next b with
    | goes phase' =>
      have settled : settle ⟨frames, .number phase⟩ b = ⟨frames, .number phase⟩ := by
        simp only [settle, hstep]
      have hnext : next? ⟨frames, .number phase⟩ b = some ⟨frames, .number phase'⟩ := by
        simp only [next?, hstep]
      rw [rest?_cons settled due, hnext]
      exact ih phase'
    | ends =>
      have settled : settle ⟨frames, .number phase⟩ b = ⟨frames, .after⟩ := by
        simp only [settle, hstep]
      rw [← rest?_settle, settled]
      rfl
    | fails =>
      have settled : settle ⟨frames, .number phase⟩ b = ⟨frames, .number phase⟩ := by
        simp only [settle, hstep]
      have hnext : next? ⟨frames, .number phase⟩ b = none := by simp only [next?, hstep]
      rw [rest?_cons settled due, hnext]
      rfl

theorem rest?_word (hw : w ≠ []) :
    rest? ⟨frames, .word w⟩ bs = some rest ↔
      ∃ mid, bs = w ++ mid ∧ rest? ⟨frames, .after⟩ mid = some rest := by
  induction w generalizing bs with
  | nil => exact absurd rfl hw
  | cons c w ih =>
    have due : isWhole ⟨frames, .word (c :: w)⟩ = false := by cases frames <;> rfl
    cases bs with
    | nil => simp [rest?]
    | cons b bs =>
      by_cases hb : b = c
      · cases w with
        | nil =>
          have hnext : next? ⟨frames, .word [c]⟩ b = some ⟨frames, .after⟩ := by simp [next?, hb]
          rw [rest?_cons rfl due, hnext, Option.bind_some]
          simp [hb]
        | cons d w =>
          have hnext : next? ⟨frames, .word (c :: d :: w)⟩ b = some ⟨frames, .word (d :: w)⟩ := by
            simp [next?, hb]
          rw [rest?_cons rfl due, hnext, Option.bind_some, ih (by simp)]
          simp [hb]
      · have hnext : next? ⟨frames, .word (c :: w)⟩ b = none := by simp [next?, hb]
        rw [rest?_cons rfl due, hnext]
        simp [hb]

end Leaf

section Begin

theorem isSpace_iff : isSpace b = true ↔ b = 0x20 ∨ b = 0x0A ∨ b = 0x09 ∨ b = 0x0D := by
  simp only [isSpace, Bool.or_eq_true, decide_eq_true_eq, or_assoc]

-- What a value can begin with, and what is due then.
theorem cases_of_begin? (h : skip.begin? b = some next) :
    (b = 0x22 ∧ next = ⟨skip.frames, .text false .plain⟩) ∨
    (∃ frame : Frame, b = frame.opening ∧ next = ⟨frame :: skip.frames, .opened⟩) ∨
    (∃ w, w ≠ [] ∧ b :: w ∈ words ∧ next = ⟨skip.frames, .word w⟩) ∨
    ∃ phase, Numeral.begin? b = some phase ∧ next = ⟨skip.frames, .number phase⟩ := by
  unfold begin? at h
  split at h
  · next hb => exact .inl ⟨hb, (Option.some.inj h).symm⟩
  split at h
  · next hb => exact .inr (.inl ⟨.list, hb, (Option.some.inj h).symm⟩)
  split at h
  · next hb => exact .inr (.inl ⟨.map, hb, (Option.some.inj h).symm⟩)
  split at h
  · next hb => exact .inr (.inr (.inl ⟨_, by simp, by simp [hb, words], (Option.some.inj h).symm⟩))
  split at h
  · next hb => exact .inr (.inr (.inl ⟨_, by simp, by simp [hb, words], (Option.some.inj h).symm⟩))
  split at h
  · next hb => exact .inr (.inr (.inl ⟨_, by simp, by simp [hb, words], (Option.some.inj h).symm⟩))
  · obtain ⟨phase, hphase, hnext⟩ := Option.map_eq_some_iff.1 h
    exact .inr (.inr (.inr ⟨phase, hphase, hnext.symm⟩))

theorem begin?_opening (skip : Skip) (frame : Frame) :
    skip.begin? frame.opening = some ⟨frame :: skip.frames, .opened⟩ := by
  cases frame <;> rfl

theorem begin?_word (skip : Skip) (h : b :: w ∈ words) :
    skip.begin? b = some ⟨skip.frames, .word w⟩ ∧ w ≠ [] := by
  simp only [words, List.mem_cons, List.cons.injEq, List.not_mem_nil, or_false] at h
  rcases h with ⟨rfl, rfl⟩ | ⟨rfl, rfl⟩ | ⟨rfl, rfl⟩ <;> exact ⟨rfl, List.cons_ne_nil _ _⟩

theorem begin?_number {phase : Numeral} (skip : Skip) (h : Numeral.begin? b = some phase) :
    skip.begin? b = some ⟨skip.frames, .number phase⟩ := by
  have hne : ∀ a, Numeral.begin? a = none → b ≠ a := by
    rintro a ha rfl
    rw [ha] at h
    cases h
  rw [begin?, if_neg (hne 0x22 rfl), if_neg (hne 0x5B rfl), if_neg (hne 0x7B rfl),
    if_neg (hne 0x74 rfl), if_neg (hne 0x66 rfl), if_neg (hne 0x6E rfl), h]
  rfl

theorem not_isSpace_of_begin? (h : skip.begin? b = some next) : isSpace b = false := by
  have hb : isSpace b = true → skip.begin? b = none := by
    intro hspace
    rcases isSpace_iff.1 hspace with rfl | rfl | rfl | rfl <;> rfl
  by_contra hspace
  rw [hb (by simpa using hspace)] at h
  cases h

-- The same is due behind a comma as in a bracket that has just been opened, but for the
-- closing bracket.
theorem next?_due (hb : isSpace b = false) :
    next? ⟨frame :: frames, frame.due⟩ b = member? ⟨frame :: frames, .opened⟩ b := by
  cases frame <;> simp [next?, Frame.due, member?, hb, begin?, beginKey?]

end Begin

section Sound

theorem Waits.due (frame : Frame) (frames : List Frame) : Waits ⟨frame :: frames, frame.due⟩ := by
  cases frame with
  | list => exact .value _
  | map => exact .key _

theorem close?_cons (frame : Frame) (frames : List Frame) (phase : SkipPhase) (b : UInt8) :
    close? ⟨frame :: frames, phase⟩ b = if b = frame.closing then some ⟨frames, .after⟩ else none :=
  rfl

theorem afterValue?_cons (frame : Frame) (frames : List Frame) (b : UInt8) :
    afterValue? ⟨frame :: frames, .after⟩ b =
      if b = 0x2C then some ⟨frame :: frames, frame.due⟩
      else if b = frame.closing then some ⟨frames, .after⟩ else none := by
  cases frame <;> rfl

theorem cases_of_opened (h : rest? ⟨frame :: frames, .opened⟩ bs = some rest) :
    (∃ gap mid, Blank gap ∧ bs = gap ++ frame.closing :: mid ∧
      rest? ⟨frames, .after⟩ mid = some rest) ∨
    rest? ⟨frame :: frames, frame.due⟩ bs = some rest := by
  obtain ⟨gap, b, mid, next, hgap, hb, rfl, hnext, hrest⟩ := (Waits.opened _).exists_first h
  have hopened : next? ⟨frame :: frames, .opened⟩ b =
      (close? ⟨frame :: frames, .opened⟩ b).or (member? ⟨frame :: frames, .opened⟩ b) := by
    simp [next?, hb]
  by_cases hclose : b = frame.closing
  · have hafter : next = ⟨frames, .after⟩ := by
      rw [hopened, close?_cons, if_pos hclose] at hnext
      exact (Option.some.inj hnext).symm
    rw [hafter] at hrest
    exact .inl ⟨gap, mid, hgap, by rw [hclose], hrest⟩
  · rw [hopened, close?_cons, if_neg hclose, Option.none_or, ← next?_due hb] at hnext
    rw [(Waits.due _ _).rest?_blank hgap, (Waits.due _ _).rest?_cons, hnext, Option.bind_some]
    exact .inr hrest

theorem cases_of_after (h : rest? ⟨frame :: frames, .after⟩ bs = some rest) :
    ∃ gap mid, Blank gap ∧
      ((bs = gap ++ 0x2C :: mid ∧ rest? ⟨frame :: frames, frame.due⟩ mid = some rest) ∨
        bs = gap ++ frame.closing :: mid ∧ rest? ⟨frames, .after⟩ mid = some rest) := by
  obtain ⟨gap, b, mid, next, hgap, hb, rfl, hnext, hrest⟩ := (Waits.after _ _).exists_first h
  have hafter : next? ⟨frame :: frames, .after⟩ b = afterValue? ⟨frame :: frames, .after⟩ b := by
    simp [next?, hb]
  rw [hafter, afterValue?_cons] at hnext
  split at hnext
  · next hcomma =>
    cases hnext
    exact ⟨gap, mid, hgap, .inl ⟨by rw [hcomma], hrest⟩⟩
  split at hnext
  · next hclose =>
    cases hnext
    exact ⟨gap, mid, hgap, .inr ⟨by rw [hclose], hrest⟩⟩
  · cases hnext

theorem exists_key (h : rest? ⟨frames, .key⟩ bs = some rest) :
    ∃ gap key before mid, Blank gap ∧ Loose key ∧ Blank before ∧
      bs = gap ++ 0x22 :: (key ++ 0x22 :: (before ++ 0x3A :: mid)) ∧
      rest? ⟨frames, .value⟩ mid = some rest := by
  obtain ⟨gap, b, more, next, hgap, hb, rfl, hnext, hrest⟩ := (Waits.key _).exists_first h
  have hkey : next? ⟨frames, .key⟩ b = beginKey? ⟨frames, .key⟩ b := by simp [next?, hb]
  rw [hkey, beginKey?] at hnext
  split at hnext
  · next hquote =>
    cases hnext
    rw [rest?_text, Option.bind_eq_some_iff] at hrest
    obtain ⟨⟨value, more'⟩, hscan, hcolon⟩ := hrest
    obtain ⟨key, hkey, rfl⟩ := TextPhase.scan?_pass_iff.1 ⟨value, hscan⟩
    obtain ⟨before, c, mid, next, hbefore, hc, rfl, hnext, hrest⟩ := (Waits.colon _).exists_first hcolon
    have hmark : c = 0x3A ∧ next = ⟨frames, .value⟩ := by
      have hstep : next? ⟨frames, .colon⟩ c = if c = 0x3A then some ⟨frames, .value⟩ else none := by
        simp [next?, hc]
      rw [hstep] at hnext
      split at hnext
      · next hcolon => exact ⟨hcolon, (Option.some.inj hnext).symm⟩
      · cases hnext
    rw [hmark.2] at hrest
    exact ⟨gap, key, before, mid, hgap, hkey, hbefore, by rw [hquote, hmark.1], hrest⟩
  · cases hnext

-- A value is found at the front of these octets when one is skipped there.
def FindsValue (bs : Octets) : Prop :=
  ∀ frames rest, rest? ⟨frames, .value⟩ bs = some rest →
    ∃ gap w mid, Blank gap ∧ Written .value w ∧ bs = gap ++ (w ++ mid) ∧
      rest? ⟨frames, .after⟩ mid = some rest

def FindsEntries (bs : Octets) : Prop :=
  ∀ frame frames rest, rest? ⟨frame :: frames, frame.due⟩ bs = some rest →
    ∃ w mid, Written (.entries frame) w ∧ bs = w ++ frame.closing :: mid ∧
      rest? ⟨frames, .after⟩ mid = some rest

theorem findsValue_of_shorter (entries : ∀ bs', bs'.length < bs.length → FindsEntries bs') :
    FindsValue bs := by
  intro frames rest h
  obtain ⟨gap, b, more, next, hgap, hb, rfl, hnext, hrest⟩ := (Waits.value _).exists_first h
  have hbegin : next? ⟨frames, .value⟩ b = begin? ⟨frames, .value⟩ b := by simp [next?, hb]
  rw [hbegin] at hnext
  rcases cases_of_begin? hnext with ⟨rfl, rfl⟩ | ⟨frame, rfl, rfl⟩ | ⟨w, hne, hw, rfl⟩ |
    ⟨phase, hphase, rfl⟩
  · rw [rest?_text, Option.bind_eq_some_iff] at hrest
    obtain ⟨⟨value, mid⟩, hscan, hafter⟩ := hrest
    obtain ⟨w, hw, rfl⟩ := TextPhase.scan?_pass_iff.1 ⟨value, hscan⟩
    exact ⟨gap, _, mid, hgap, .text hw, by simp, hafter⟩
  · rcases cases_of_opened hrest with ⟨gap', mid, hgap', rfl, hafter⟩ | hdue
    · exact ⟨gap, _, mid, hgap, .empty frame hgap', by simp, hafter⟩
    · have shorter : more.length < (gap ++ frame.opening :: more).length := by
        simp only [List.length_append, List.length_cons]
        omega
      obtain ⟨w, mid, hw, rfl, hafter⟩ := entries more shorter frame frames rest hdue
      exact ⟨gap, _, mid, hgap, .bracket frame hw, by simp, hafter⟩
  · obtain ⟨mid, rfl, hafter⟩ := (rest?_word hne).1 hrest
    exact ⟨gap, _, mid, hgap, .word hw, by simp, hafter⟩
  · rw [rest?_number, Option.bind_eq_some_iff] at hrest
    obtain ⟨mid, hscan, hafter⟩ := hrest
    obtain ⟨w, hw, hsplit⟩ := Numeral.exists_numeric hphase hscan
    exact ⟨gap, w, mid, hgap, .number hw, by rw [hsplit], hafter⟩

theorem exists_entry (value : ∀ bs', bs'.length ≤ bs.length → FindsValue bs')
    (h : rest? ⟨frame :: frames, frame.due⟩ bs = some rest) :
    ∃ gap w mid, Blank gap ∧ Written (.entry frame) w ∧ bs = gap ++ (w ++ mid) ∧
      rest? ⟨frame :: frames, .after⟩ mid = some rest := by
  cases frame with
  | list =>
    obtain ⟨gap, w, mid, hgap, hw, hsplit, hafter⟩ := value bs le_rfl _ rest h
    exact ⟨gap, w, mid, hgap, .item hw, hsplit, hafter⟩
  | map =>
    obtain ⟨gap, key, before, more, hgap, hkey, hbefore, rfl, hvalue⟩ := exists_key h
    have shorter : more.length ≤ (gap ++ 0x22 :: (key ++ 0x22 :: (before ++ 0x3A :: more))).length := by
      simp only [List.length_append, List.length_cons]
      omega
    obtain ⟨gap', w, mid, hgap', hw, rfl, hafter⟩ := value more shorter _ rest hvalue
    exact ⟨gap, _, mid, hgap, .member hkey hbefore hgap' hw, by simp, hafter⟩

theorem findsEntries_of_shorter (value : ∀ bs', bs'.length ≤ bs.length → FindsValue bs')
    (entries : ∀ bs', bs'.length < bs.length → FindsEntries bs') : FindsEntries bs := by
  intro frame frames rest h
  obtain ⟨gap, w, more, hgap, hw, rfl, hafter⟩ := exists_entry value h
  obtain ⟨gap', more', hgap', ⟨rfl, hdue⟩ | ⟨rfl, hclosed⟩⟩ := cases_of_after hafter
  · have shorter : more'.length < (gap ++ (w ++ (gap' ++ 0x2C :: more'))).length := by
      simp only [List.length_append, List.length_cons]
      omega
    obtain ⟨ws, mid, hws, rfl, hclosed⟩ := entries more' shorter frame frames rest hdue
    exact ⟨_, mid, .more hgap hw hgap' hws, by simp, hclosed⟩
  · exact ⟨_, more', .last hgap hw hgap', by simp, hclosed⟩

theorem finds (bs : Octets) : FindsValue bs ∧ FindsEntries bs := by
  induction hn : bs.length using Nat.strong_induction_on generalizing bs with
  | _ n ih =>
    have entries : ∀ bs', bs'.length < bs.length → FindsEntries bs' :=
      fun bs' h => (ih bs'.length (hn ▸ h) bs' rfl).2
    have value : ∀ bs', bs'.length ≤ bs.length → FindsValue bs' :=
      fun bs' h => findsValue_of_shorter fun bs'' h' => entries bs'' (h'.trans_le h)
    exact ⟨value bs le_rfl, findsEntries_of_shorter value entries⟩

end Sound

section Complete

theorem delimits_of_isSpace (h : isSpace b = true) : Delimits b := by
  rcases isSpace_iff.1 h with rfl | rfl | rfl | rfl <;> exact ⟨rfl, by decide⟩

theorem delimits_closing (frame : Frame) : Delimits frame.closing := by
  cases frame <;> exact ⟨rfl, by decide⟩

-- What may stand behind a value.
def Behind (mid : Octets) : Prop := ∃ b bs, mid = b :: bs ∧ Delimits b

theorem behind_of_blank (hgap : Blank gap) (hb : Delimits b) (bs : Octets) :
    Behind (gap ++ b :: bs) := by
  cases gap with
  | nil => exact ⟨b, bs, rfl, hb⟩
  | cons a gap => exact ⟨a, _, rfl, delimits_of_isSpace (hgap a List.mem_cons_self)⟩

-- Each part is skipped as a whole, whatever the brackets around it.
def Skipped : Part → Octets → Prop
  | .value, w => ∀ frames mid rest, Behind mid → rest? ⟨frames, .after⟩ mid = some rest →
      rest? ⟨frames, .value⟩ (w ++ mid) = some rest
  | .entry frame, w => ∀ frames mid rest, Behind mid →
      rest? ⟨frame :: frames, .after⟩ mid = some rest →
      rest? ⟨frame :: frames, frame.due⟩ (w ++ mid) = some rest
  | .entries frame, w => ∀ frames mid rest, rest? ⟨frames, .after⟩ mid = some rest →
      rest? ⟨frame :: frames, frame.due⟩ (w ++ frame.closing :: mid) = some rest

theorem rest?_begin (h : begin? ⟨frames, .value⟩ b = some next) (bs : Octets) :
    rest? ⟨frames, .value⟩ (b :: bs) = next.rest? bs := by
  have hb := not_isSpace_of_begin? h
  have hnext : next? ⟨frames, .value⟩ b = some next := by
    rw [← h]
    simp [next?, hb]
  rw [(Waits.value _).rest?_cons, hnext, Option.bind_some]

theorem rest?_closing (h : rest? ⟨frames, .after⟩ mid = some rest) :
    rest? ⟨frame :: frames, .after⟩ (frame.closing :: mid) = some rest := by
  have hnext : next? ⟨frame :: frames, .after⟩ frame.closing = some ⟨frames, .after⟩ := by
    cases frame <;> rfl
  rw [(Waits.after _ _).rest?_cons, hnext, Option.bind_some, h]

theorem rest?_comma (h : rest? ⟨frame :: frames, frame.due⟩ mid = some rest) :
    rest? ⟨frame :: frames, .after⟩ (0x2C :: mid) = some rest := by
  have hnext : next? ⟨frame :: frames, .after⟩ 0x2C = some ⟨frame :: frames, frame.due⟩ := by
    cases frame <;> rfl
  rw [(Waits.after _ _).rest?_cons, hnext, Option.bind_some, h]

theorem closing_ne_of_member? (h : member? ⟨frame :: frames, .opened⟩ b = some next) :
    b ≠ frame.closing := by
  rintro rfl
  cases frame <;> cases h

-- An entry may also stand first.
theorem rest?_opened (h : rest? ⟨frame :: frames, frame.due⟩ bs = some rest) :
    rest? ⟨frame :: frames, .opened⟩ bs = some rest := by
  obtain ⟨gap, b, mid, next, hgap, hb, rfl, hnext, hrest⟩ := (Waits.due _ _).exists_first h
  rw [next?_due hb] at hnext
  have hopened : next? ⟨frame :: frames, .opened⟩ b = some next := by
    have hclose := closing_ne_of_member? hnext
    simp [next?, hb, close?, hclose, hnext]
  rw [(Waits.opened _).rest?_blank hgap, (Waits.opened _).rest?_cons, hopened, Option.bind_some,
    hrest]

theorem rest?_key {key before : Octets} (hkey : Loose key) (hbefore : Blank before)
    (h : rest? ⟨frames, .value⟩ mid = some rest) :
    rest? ⟨frames, .key⟩ (0x22 :: (key ++ 0x22 :: (before ++ 0x3A :: mid))) = some rest := by
  have hquote : next? ⟨frames, .key⟩ 0x22 = some ⟨frames, .text true .plain⟩ := rfl
  have hcolon : next? ⟨frames, .colon⟩ 0x3A = some ⟨frames, .value⟩ := rfl
  obtain ⟨value, hscan⟩ := TextPhase.scan?_pass_iff.2 ⟨key, hkey, rfl⟩
  rw [(Waits.key _).rest?_cons, hquote, Option.bind_some, rest?_text, hscan, Option.bind_some,
    if_pos rfl, (Waits.colon _).rest?_blank hbefore, (Waits.colon _).rest?_cons, hcolon,
    Option.bind_some, h]

theorem skipped {part : Part} (h : Written part w) : Skipped part w := by
  induction h with
  | @word w hw =>
    intro frames mid rest _ hafter
    cases w with
    | nil => simp [words] at hw
    | cons b w =>
      obtain ⟨hbegin, hne⟩ := begin?_word ⟨frames, .value⟩ hw
      rw [List.cons_append, rest?_begin hbegin]
      exact (rest?_word hne).2 ⟨mid, rfl, hafter⟩
  | number hw =>
    rintro frames mid rest ⟨b, bs, rfl, hb⟩ hafter
    obtain ⟨a, more, phase, rfl, hbegin, hscan⟩ := Numeral.exists_begin hw hb bs
    rw [List.cons_append, rest?_begin (begin?_number _ hbegin), rest?_number, hscan,
      Option.bind_some, hafter]
  | @text w hw =>
    intro frames mid rest _ hafter
    have hbegin : begin? ⟨frames, .value⟩ 0x22 = some ⟨frames, .text false .plain⟩ := rfl
    obtain ⟨value, hscan⟩ := TextPhase.scan?_pass_iff.2 ⟨w, hw, rfl⟩
    rw [List.cons_append, List.append_assoc, List.singleton_append, rest?_begin hbegin, rest?_text,
      hscan, Option.bind_some]
    exact hafter
  | @empty frame gap hgap =>
    intro frames mid rest _ hafter
    have hclose : next? ⟨frame :: frames, .opened⟩ frame.closing = some ⟨frames, .after⟩ := by
      cases frame <;> rfl
    rw [List.cons_append, List.append_assoc, List.singleton_append,
      rest?_begin (begin?_opening _ frame), (Waits.opened _).rest?_blank hgap,
      (Waits.opened _).rest?_cons, hclose, Option.bind_some, hafter]
  | bracket frame hw ih =>
    intro frames mid rest _ hafter
    rw [List.cons_append, List.append_assoc, List.singleton_append,
      rest?_begin (begin?_opening _ frame)]
    exact rest?_opened (ih frames mid rest hafter)
  | item hw ih =>
    intro frames mid rest hmid hafter
    exact ih (.list :: frames) mid rest hmid hafter
  | @member key before after w hkey hbefore hgap hw ih =>
    intro frames mid rest hmid hafter
    have hvalue := ih (.map :: frames) mid rest hmid hafter
    rw [← (Waits.value _).rest?_blank hgap] at hvalue
    have hread := rest?_key hkey hbefore hvalue
    simpa [Frame.due] using hread
  | @last frame before w after hbefore hw hgap ih =>
    intro frames mid rest hafter
    have hclosed : rest? ⟨frame :: frames, .after⟩ (after ++ frame.closing :: mid) = some rest := by
      rw [(Waits.after _ _).rest?_blank hgap]
      exact rest?_closing hafter
    rw [List.append_assoc, List.append_assoc, (Waits.due _ _).rest?_blank hbefore]
    exact ih frames _ rest (behind_of_blank hgap (delimits_closing frame) mid) hclosed
  | @more frame before w after ws hbefore hw hgap hws ih ihs =>
    intro frames mid rest hafter
    have hmore : rest? ⟨frame :: frames, .after⟩
        (after ++ 0x2C :: (ws ++ frame.closing :: mid)) = some rest := by
      rw [(Waits.after _ _).rest?_blank hgap]
      exact rest?_comma (ihs frames mid rest hafter)
    have hcomma : Delimits 0x2C := ⟨rfl, by decide⟩
    rw [List.append_assoc, List.append_assoc, List.append_assoc, List.cons_append,
      (Waits.due _ _).rest?_blank hbefore]
    exact ih frames _ rest (behind_of_blank hgap hcomma _) hmore

end Complete

-- What is skipped in front of something else is one value, with what white space there is
-- in front of it.
theorem rest?_start (h : start.rest? bs = some rest) :
    ∃ gap w, Blank gap ∧ Written .value w ∧ bs = gap ++ (w ++ rest) := by
  obtain ⟨gap, w, mid, hgap, hw, hsplit, hafter⟩ := (finds bs).1 [] rest h
  cases mid with
  | nil => cases hafter
  | cons b mid =>
    cases hafter
    exact ⟨gap, w, hgap, hw, hsplit⟩

theorem rest?_start_of_written (hgap : Blank gap) (hw : Written .value w) (hrest : Behind rest) :
    start.rest? (gap ++ (w ++ rest)) = some rest := by
  have hafter : rest? ⟨[], .after⟩ rest = some rest := by
    obtain ⟨b, bs, rfl, -⟩ := hrest
    rfl
  have waits : start.Waits := .value _
  rw [waits.rest?_blank hgap]
  exact skipped hw [] rest rest hrest hafter

end Skip

end RoutingProcessor.Json
