import RoutingProcessor.Proofs.Decision.Fetch
import RoutingProcessor.Proofs.Json.Skip

namespace RoutingProcessor.Decision

open Text Json Http

namespace Payload

-- A member that is passed over.
def Passed (m : String × Octets) : Prop := m.1 ≠ "decision" ∧ Written .value m.2

-- Of the members one is the decision, and the others are passed over.
def Carries (decision : String) (members : List (String × Octets)) : Prop :=
  ∃ before value after, members = before ++ ("decision", value) :: after ∧
    Quoted decision value ∧ ∀ m ∈ before ++ after, Passed m

-- A list of one text, which may stand in the place of the object.
def Listed (decision : String) (body : Octets) : Prop :=
  ∃ before gap value gap' after, Blank before ∧ Blank gap ∧ Quoted decision value ∧ Blank gap' ∧
    Blank after ∧ body = before ++ 0x5B :: (gap ++ (value ++ (gap' ++ 0x5D :: after)))

-- The bodies that give a decision.
inductive Tells (decision : String) (body : Octets) : Prop where
  | object {members : List (String × Octets)} (h : Object members body)
      (carries : Carries decision members) : Tells decision body
  | list (h : Listed decision body) : Tells decision body

-- What a member does to the decision found so far.
inductive Reads : Option String → String × Octets → Option String → Prop where
  | decision {text : String} {value : Octets} (h : Quoted text value) :
      Reads none ("decision", value) (some text)
  | passed {found : Option String} {m : String × Octets} (h : Passed m) : Reads found m found

inductive ReadsAll : Option String → List (String × Octets) → Option String → Prop where
  | nil (found : Option String) : ReadsAll found [] found
  | cons {found found' last : Option String} {m : String × Octets} {ms : List (String × Octets)}
      (first : Reads found m found') (rest : ReadsAll found' ms last) : ReadsAll found (m :: ms) last

section Reads

variable {ms before after : List (String × Octets)} {value : Octets} {found last : Option String}
  {decision : String}

theorem readsAll_of_passed (h : ∀ m ∈ ms, Passed m) (rest : ReadsAll found after last) :
    ReadsAll found (ms ++ after) last := by
  induction ms with
  | nil => exact rest
  | cons m ms ih =>
    exact .cons (.passed (h m List.mem_cons_self)) (ih fun a ha => h a (List.mem_cons_of_mem _ ha))

-- Nothing changes a decision that has been found.
theorem passed_of_readsAll {first : String} (h : ReadsAll (some first) ms (some decision)) :
    first = decision ∧ ∀ m ∈ ms, Passed m := by
  induction ms with
  | nil =>
    cases h
    exact ⟨rfl, by simp⟩
  | cons m ms ih =>
    cases h with
    | cons hfirst hrest =>
      cases hfirst with
      | passed hm =>
        obtain ⟨heq, hms⟩ := ih hrest
        exact ⟨heq, List.forall_mem_cons.2 ⟨hm, hms⟩⟩

theorem carries_of_readsAll (h : ReadsAll none ms (some decision)) : Carries decision ms := by
  induction ms with
  | nil => cases h
  | cons m ms ih =>
    cases h with
    | cons hfirst hrest =>
      cases hfirst with
      | @decision text value hvalue =>
        obtain ⟨rfl, hms⟩ := passed_of_readsAll hrest
        exact ⟨[], value, ms, rfl, hvalue, hms⟩
      | passed hm =>
        obtain ⟨before, value, after, rfl, hvalue, hothers⟩ := ih hrest
        exact ⟨m :: before, value, after, rfl, hvalue, List.forall_mem_cons.2 ⟨hm, hothers⟩⟩

theorem readsAll_iff_carries : ReadsAll none ms (some decision) ↔ Carries decision ms := by
  constructor
  · exact carries_of_readsAll
  · rintro ⟨before, value, after, rfl, hvalue, hothers⟩
    have hafter : ReadsAll (some decision) (after ++ []) (some decision) :=
      readsAll_of_passed (fun m hm => hothers m (List.mem_append_right _ hm)) (.nil _)
    rw [List.append_nil] at hafter
    exact readsAll_of_passed (fun m hm => hothers m (List.mem_append_left _ hm))
      (.cons (.decision hvalue) hafter)

end Reads

namespace State

-- The octets that lead from a state to a decision.
def Accepts (state : State) (bs : Octets) (decision : String) : Prop :=
  (bs.foldl next state).finish = .ok decision

variable {state : State} {role : Role} {found : Option String} {inner : Skip} {b : UInt8}
  {bs gap value rest w : Octets} {decision : String}

theorem accepts_cons : state.Accepts (b :: bs) decision ↔ (state.next b).Accepts bs decision :=
  Iff.rfl

section Lost

-- States without a way back.
inductive Lost : State → Prop where
  | failed (error : Error) : Lost (.failed error)
  | text (wanted : Wanted) (value : Octets) (phase : TextPhase) :
      Lost (.text (.stray wanted) value phase)
  | word (found : Found) (wanted : Wanted) (rest : Octets) : Lost (.strayWord found wanted rest)
  | number (wanted : Wanted) (numeral : NumeralText) (phase : Numeral) :
      Lost (.strayNumber wanted numeral phase)

theorem lost_stray (wanted : Wanted) (b : UInt8) : Lost (stray wanted b) := by
  unfold stray
  repeat' split
  all_goals constructor

theorem lost_broken : Lost broken := .failed .malformed

theorem lost_strayValue (wanted : Wanted) (numeral : NumeralText) :
    Lost (strayValue wanted numeral) := by
  unfold strayValue
  split <;> constructor

theorem lost_closeText (wanted : Wanted) (value : Octets) : Lost (closeText (.stray wanted) value) := by
  unfold closeText
  split <;> constructor

theorem Lost.next (lost : Lost state) (b : UInt8) : Lost (state.next b) := by
  cases lost with
  | failed error => exact .failed error
  | text wanted value phase =>
    rw [State.next]
    split
    · constructor
    · exact lost_closeText wanted value
    · constructor
  | word found wanted rest =>
    cases rest with
    | nil => exact .failed _
    | cons c rest =>
      rw [State.next]
      repeat' split
      all_goals constructor
  | number wanted numeral phase =>
    rw [State.next]
    split
    · constructor
    · exact lost_strayValue wanted numeral
    · constructor

theorem Lost.finish (lost : Lost state) : ∃ error, state.finish = .error error := by
  cases lost with
  | failed error => exact ⟨error, rfl⟩
  | text | word => exact ⟨_, rfl⟩
  | number wanted numeral phase =>
    rw [State.finish]
    repeat' split
    all_goals exact ⟨_, rfl⟩

theorem Lost.not_accepts (lost : Lost state) : ¬state.Accepts bs decision := by
  induction bs generalizing state with
  | nil =>
    obtain ⟨error, herror⟩ := lost.finish
    intro h
    rw [Accepts, List.foldl_nil, herror] at h
    cases h
  | cons b bs ih => exact ih (lost.next b)

end Lost

section Blank

-- States in which white space makes no difference.
inductive Waits : State → Prop where
  | start : Waits .start
  | list : Waits .list
  | listEnd (decision : String) : Waits (.listEnd decision)
  | members (found : Option String) (isFirst : Bool) : Waits (.members found isFirst)
  | nextKey (found : Option String) : Waits (.nextKey found)
  | colon (found : Option String) (isDecision : Bool) : Waits (.colon found isDecision)
  | decisionValue : Waits .decisionValue

theorem Waits.next_of_isSpace (waits : state.Waits) (hb : isSpace b = true) :
    state.next b = state := by
  cases waits <;> exact if_pos hb

theorem Waits.finish (waits : state.Waits) : state.finish = .error .ended := by
  cases waits <;> rfl

theorem Waits.accepts_blank (waits : state.Waits) (hgap : Blank gap) :
    state.Accepts (gap ++ bs) decision ↔ state.Accepts bs decision := by
  induction gap with
  | nil => rfl
  | cons b gap ih =>
    rw [List.cons_append, accepts_cons, waits.next_of_isSpace (hgap b List.mem_cons_self)]
    exact ih fun a ha => hgap a (List.mem_cons_of_mem _ ha)

theorem Waits.exists_first (waits : state.Waits) (h : state.Accepts bs decision) :
    ∃ gap b bs', Blank gap ∧ isSpace b = false ∧ bs = gap ++ b :: bs' ∧
      (state.next b).Accepts bs' decision := by
  obtain ⟨gap, back, rfl, hgap, stop⟩ := exists_span isSpace bs
  rw [waits.accepts_blank hgap] at h
  cases back with
  | nil =>
    rw [Accepts, List.foldl_nil, waits.finish] at h
    cases h
  | cons b bs' => exact ⟨gap, b, bs', hgap, stop b rfl, rfl, h⟩

-- States in which one octet is due, and nothing else leads on.
inductive Due : State → UInt8 → Prop where
  | list : Due .list 0x22
  | listEnd (decision : String) : Due (.listEnd decision) 0x5D
  | nextKey (found : Option String) : Due (.nextKey found) 0x22
  | colon (found : Option String) (isDecision : Bool) : Due (.colon found isDecision) 0x3A
  | decisionValue : Due .decisionValue 0x22

theorem Due.waits {mark : UInt8} (due : state.Due mark) : state.Waits := by
  cases due <;> constructor

theorem Due.lost {mark : UInt8} (due : state.Due mark) (hb : isSpace b = false) (hne : b ≠ mark) :
    Lost (state.next b) := by
  cases due with
  | list =>
    rw [next, if_neg (by simp [hb]), if_neg hne]
    split
    · exact .failed _
    · exact lost_stray _ b
  | listEnd | nextKey | colon =>
    rw [next, if_neg (by simp [hb]), if_neg hne]
    exact lost_broken
  | decisionValue =>
    rw [next, if_neg (by simp [hb]), if_neg hne]
    exact lost_stray _ b

theorem Due.exists_rest {mark : UInt8} (due : state.Due mark) (h : state.Accepts bs decision) :
    ∃ gap rest, Blank gap ∧ bs = gap ++ mark :: rest ∧ (state.next mark).Accepts rest decision := by
  obtain ⟨gap, b, rest, hgap, hb, rfl, hnext⟩ := due.waits.exists_first h
  by_cases hmark : b = mark
  · rw [hmark] at hnext ⊢
    exact ⟨gap, rest, hgap, rfl, hnext⟩
  · exact absurd hnext (due.lost hb hmark).not_accepts

theorem accepts_whole {last : String} :
    (whole last).Accepts bs decision ↔ Blank bs ∧ last = decision := by
  induction bs with
  | nil => simp [Accepts, finish, Blank]
  | cons b bs ih =>
    rw [accepts_cons, next]
    split
    · next hb => simp [ih, Blank, hb]
    · next hb =>
      refine iff_of_false lost_broken.not_accepts ?_
      rintro ⟨blank, -⟩
      exact hb (blank b List.mem_cons_self)

end Blank

section Scan

theorem accepts_text {phase : TextPhase} :
    (State.text role value phase).Accepts bs decision ↔
      ∃ more rest, phase.scan? TextPhase.next bs = some (more, rest) ∧
        (closeText role (value ++ more)).Accepts rest decision := by
  induction bs generalizing value phase with
  | nil => simp [Accepts, finish, TextPhase.scan?]
  | cons b bs ih =>
    rw [accepts_cons, TextPhase.scan?_cons]
    cases hstep : phase.next b with
    | goes phase' front =>
      have hnext : next (.text role value phase) b = .text role (value ++ front) phase' := by
        simp only [next, hstep]
      rw [hnext, ih]
      simp only [TextPhase.scan?_goes]
      constructor
      · rintro ⟨more, rest, hscan, h⟩
        exact ⟨front ++ more, rest, ⟨more, hscan, rfl⟩, by rwa [← List.append_assoc]⟩
      · rintro ⟨_, rest, ⟨more, hscan, rfl⟩, h⟩
        exact ⟨more, rest, hscan, by rwa [List.append_assoc]⟩
    | ends =>
      have hnext : next (.text role value phase) b = closeText role value := by
        simp only [next, hstep]
      rw [hnext]
      simp [TextPhase.Step.scan?]
    | fails =>
      have hnext : next (.text role value phase) b = broken := by simp only [next, hstep]
      rw [hnext]
      simp [TextPhase.Step.scan?, lost_broken.not_accepts]

-- What follows an opening quote.
theorem accepts_quoted :
    (State.text role [] .plain).Accepts bs decision ↔
      ∃ text w rest, Spelled text.toList w ∧ bs = w ++ 0x22 :: rest ∧
        (closeText role (octets text)).Accepts rest decision := by
  rw [accepts_text]
  constructor
  · rintro ⟨value, rest, hscan, h⟩
    rw [List.nil_append] at h
    cases decoded : Utf8.decode? value with
    | none =>
      have lost : Lost (closeText role value) := by
        rw [closeText, decoded]
        exact lost_broken
      exact absurd h lost.not_accepts
    | some text =>
      obtain ⟨w, hw, rfl⟩ := TextPhase.scan?_next_iff.1 ⟨value, hscan, decoded⟩
      rw [Utf8.decode?_eq_some_iff] at decoded
      exact ⟨text, w, rest, hw, rfl, decoded ▸ h⟩
  · rintro ⟨text, w, rest, hw, rfl, h⟩
    exact ⟨octets text, rest, TextPhase.scan?_of_spelled hw, h⟩

theorem closeText_decision (text : String) :
    closeText .decision (octets text) = .members (some text) false := by
  rw [closeText, Utf8.decode?_octets]

theorem closeText_element (text : String) : closeText .element (octets text) = .listEnd text := by
  rw [closeText, Utf8.decode?_octets]

theorem closeText_key (found : Option String) (name : String) :
    closeText (.key found) (octets name) =
      if name ≠ "decision" then .colon found false
      else if found.isSome then mismatched .repeated else .colon found true := by
  rw [closeText, Utf8.decode?_octets]

theorem accepts_skip :
    (skip found inner).Accepts bs decision ↔
      ∃ rest, inner.rest? bs = some rest ∧ (members found false).Accepts rest decision := by
  induction bs generalizing inner with
  | nil => simp [Accepts, finish, Skip.rest?]
  | cons b bs ih =>
    rw [accepts_cons, next, nextSkip, Skip.rest?]
    split
    · simp [accepts_cons, next]
    · cases hstep : (inner.settle b).next? b with
      | some inner' => exact ih
      | none => simp [lost_broken.not_accepts]

end Scan

section Sound

-- A member is read up to the end of its value.
theorem exists_member (h : (nextKey found).Accepts bs decision) :
    ∃ before m w rest found', Blank before ∧ Member m w ∧ bs = before ++ (w ++ rest) ∧
      Reads found m found' ∧ (members found' false).Accepts rest decision := by
  obtain ⟨before, more, hbefore, rfl, hquote⟩ := (Due.nextKey found).exists_rest h
  obtain ⟨name, key, more, hkey, rfl, hclosed⟩ := accepts_quoted.1 hquote
  rw [closeText_key] at hclosed
  by_cases hname : name = "decision"
  · rw [if_neg (by simp [hname])] at hclosed
    cases found with
    | some => exact absurd hclosed (Lost.failed _).not_accepts
    | none =>
      obtain ⟨gap, more, hgap, rfl, hcolon⟩ := (Due.colon none true).exists_rest hclosed
      obtain ⟨gap', more, hgap', rfl, hvalue⟩ := Due.decisionValue.exists_rest hcolon
      obtain ⟨text, w, rest, hw, rfl, hrest⟩ := accepts_quoted.1 hvalue
      rw [closeText_decision] at hrest
      subst hname
      exact ⟨before, _, _, rest, some text, hbefore, .mk hkey hgap hgap', by simp,
        .decision ⟨w, hw, rfl⟩, hrest⟩
  · rw [if_pos hname] at hclosed
    obtain ⟨gap, more, hgap, rfl, hcolon⟩ := (Due.colon found false).exists_rest hclosed
    obtain ⟨rest, hskip, hrest⟩ := accepts_skip.1 hcolon
    obtain ⟨gap', w, hgap', hw, rfl⟩ := Skip.rest?_start hskip
    exact ⟨before, (name, w), _, rest, found, hbefore, .mk hkey hgap hgap', by simp,
      .passed ⟨hname, hw⟩, hrest⟩

theorem cases_of_members {isFirst : Bool} (h : (members found isFirst).Accepts bs decision) :
    (∃ gap after, Blank gap ∧ Blank after ∧ bs = gap ++ 0x7D :: after ∧ found = some decision) ∨
      (∃ gap rest, isFirst = false ∧ Blank gap ∧ bs = gap ++ 0x2C :: rest ∧
        (nextKey found).Accepts rest decision) ∨
      isFirst = true ∧ (nextKey found).Accepts bs decision := by
  obtain ⟨gap, b, rest, hgap, hb, rfl, hnext⟩ := (Waits.members _ _).exists_first h
  rw [next] at hnext
  unfold nextMembers at hnext
  rw [if_neg (by simp [hb])] at hnext
  split at hnext
  · next hclose =>
    cases found with
    | none => exact absurd hnext (Lost.failed _).not_accepts
    | some last =>
      obtain ⟨hafter, rfl⟩ := accepts_whole.1 hnext
      exact .inl ⟨gap, rest, hgap, hafter, by rw [hclose], rfl⟩
  cases isFirst with
  | true =>
    rw [if_pos rfl] at hnext
    split at hnext
    · next hquote =>
      subst hquote
      exact .inr (.inr ⟨rfl, ((Waits.nextKey _).accepts_blank hgap).2 hnext⟩)
    · exact absurd hnext lost_broken.not_accepts
  | false =>
    rw [if_neg (by simp)] at hnext
    split at hnext
    · next hcomma => exact .inr (.inl ⟨gap, rest, rfl, hgap, by rw [hcomma], hnext⟩)
    · exact absurd hnext lost_broken.not_accepts

-- The members up to the closing bracket.
theorem exists_members (h : (nextKey found).Accepts bs decision) :
    ∃ ms w after, Members ms w ∧ Blank after ∧ bs = w ++ 0x7D :: after ∧
      ReadsAll found ms (some decision) := by
  induction hn : bs.length using Nat.strong_induction_on generalizing bs found with
  | _ n ih =>
    obtain ⟨before, m, w, rest, found', hbefore, hm, rfl, hreads, hrest⟩ := exists_member h
    rcases cases_of_members hrest with ⟨gap, after, hgap, hafter, rfl, rfl⟩ |
      ⟨gap, more, -, hgap, rfl, hmore⟩ | ⟨hfirst, -⟩
    · exact ⟨[m], _, after, .last hbefore hm hgap, hafter, by simp, .cons hreads (.nil _)⟩
    · have shorter : more.length < n := by
        simp only [← hn, List.length_append, List.length_cons]
        omega
      obtain ⟨ms, ws, after, hws, hafter, rfl, hall⟩ := ih more.length shorter hmore rfl
      exact ⟨m :: ms, _, after, .more hbefore hm hgap hws, hafter, by simp, .cons hreads hall⟩
    · cases hfirst

end Sound

section Complete

theorem accepts_member {m : String × Octets} {found' : Option String} (hm : Member m w)
    (hreads : Reads found m found') (hrest : Skip.Behind rest)
    (h : (members found' false).Accepts rest decision) :
    (nextKey found).Accepts (w ++ rest) decision := by
  cases hm with
  | @mk name key before after value hkey hbefore hafter =>
    have quote : (nextKey found).next 0x22 = .text (.key found) [] .plain := rfl
    rw [List.cons_append, accepts_cons, quote, accepts_quoted]
    refine ⟨name, key, before ++ 0x3A :: (after ++ value) ++ rest, hkey, by simp, ?_⟩
    rw [closeText_key, List.append_assoc, List.cons_append, List.append_assoc]
    cases hreads with
    | @decision text value hvalue =>
      obtain ⟨w, hw, rfl⟩ := hvalue
      have colon : (State.colon none true).next 0x3A = .decisionValue := rfl
      have quote : decisionValue.next 0x22 = .text .decision [] .plain := rfl
      rw [if_neg (by simp), if_neg (by simp), (Waits.colon _ _).accepts_blank hbefore, accepts_cons,
        colon, Waits.decisionValue.accepts_blank hafter, List.cons_append, accepts_cons, quote,
        accepts_quoted]
      refine ⟨text, w, rest, hw, by simp, ?_⟩
      rw [closeText_decision]
      exact h
    | passed hpassed =>
      have colon : (State.colon found false).next 0x3A = .skip found .start := rfl
      rw [if_pos hpassed.1, (Waits.colon _ _).accepts_blank hbefore, accepts_cons, colon, accepts_skip]
      exact ⟨rest, Skip.rest?_start_of_written hafter hpassed.2 hrest, h⟩

theorem accepts_closing {isFirst : Bool} {after : Octets} (hafter : Blank after) :
    (members (some decision) isFirst).Accepts (0x7D :: after) decision := by
  have close : (members (some decision) isFirst).next 0x7D = .whole decision := rfl
  rw [accepts_cons, close, accepts_whole]
  exact ⟨hafter, rfl⟩

theorem accepts_members {ms : List (String × Octets)} {after : Octets} (hms : Members ms w)
    (hreads : ReadsAll found ms (some decision)) (hafter : Blank after) :
    (nextKey found).Accepts (w ++ 0x7D :: after) decision := by
  induction hms generalizing found with
  | @last m before w gap hbefore hm hgap =>
    cases hreads with
    | cons first rest =>
      cases rest
      have behind : Skip.Behind (gap ++ 0x7D :: after) :=
        Skip.behind_of_blank hgap (Skip.delimits_closing .map) after
      rw [List.append_assoc, List.append_assoc, (Waits.nextKey _).accepts_blank hbefore]
      refine accepts_member hm first behind ?_
      rw [(Waits.members _ _).accepts_blank hgap]
      exact accepts_closing hafter
  | @more m ms before w gap ws hbefore hm hgap hws ih =>
    cases hreads with
    | @cons _ found' _ _ _ first rest =>
      have hcomma : Delimits 0x2C := ⟨rfl, by decide⟩
      have comma : (members found' false).next 0x2C = .nextKey found' := by cases found' <;> rfl
      rw [List.append_assoc, List.append_assoc, List.append_assoc, List.cons_append,
        (Waits.nextKey _).accepts_blank hbefore]
      refine accepts_member hm first (Skip.behind_of_blank hgap hcomma _) ?_
      rw [(Waits.members _ _).accepts_blank hgap, accepts_cons, comma]
      exact ih rest

-- A member may also stand first.
theorem accepts_first (h : (nextKey found).Accepts bs decision) :
    (members found true).Accepts bs decision := by
  obtain ⟨gap, rest, hgap, rfl, hquote⟩ := (Due.nextKey found).exists_rest h
  rw [(Waits.members _ _).accepts_blank hgap]
  exact hquote

end Complete

end State

section Decode

variable {body : Octets} {decision : String}

theorem tells_of_accepts (h : State.start.Accepts body decision) : Tells decision body := by
  obtain ⟨before, b, rest, hbefore, hb, rfl, hopen⟩ := State.Waits.start.exists_first h
  rw [State.next, if_neg (by simp [hb])] at hopen
  split at hopen
  · next hbracket =>
    obtain ⟨gap, rest, hgap, rfl, hquote⟩ := State.Due.list.exists_rest hopen
    obtain ⟨text, w, rest, hw, rfl, hclosed⟩ := State.accepts_quoted.1 hquote
    rw [State.closeText_element] at hclosed
    obtain ⟨gap', after, hgap', rfl, hend⟩ := (State.Due.listEnd text).exists_rest hclosed
    obtain ⟨hafter, rfl⟩ := State.accepts_whole.1 hend
    subst hbracket
    exact .list ⟨before, gap, _, gap', after, hbefore, hgap, ⟨w, hw, rfl⟩, hgap', hafter, by simp⟩
  split at hopen
  · next hbrace =>
    subst hbrace
    rcases State.cases_of_members hopen with ⟨gap, after, -, -, -, hnone⟩ | ⟨gap, more, hfirst, -⟩ |
      ⟨-, hkey⟩
    · cases hnone
    · cases hfirst
    · obtain ⟨ms, w, after, hms, hafter, rfl, hreads⟩ := State.exists_members hkey
      exact .object (.members hbefore hms hafter) (readsAll_iff_carries.1 hreads)
  · exact absurd hopen (State.lost_stray _ _).not_accepts

theorem accepts_object {members : List (String × Octets)} (h : Object members body)
    (carries : Carries decision members) : State.start.Accepts body decision := by
  have hreads := readsAll_iff_carries.2 carries
  cases h with
  | empty => cases hreads
  | @members _ before w after hbefore hms hafter =>
    have brace : State.start.next 0x7B = .members none true := rfl
    rw [State.Waits.start.accepts_blank hbefore, State.accepts_cons, brace]
    exact State.accepts_first (State.accepts_members hms hreads hafter)

theorem accepts_listed (h : Listed decision body) : State.start.Accepts body decision := by
  obtain ⟨before, gap, value, gap', after, hbefore, hgap, ⟨w, hw, rfl⟩, hgap', hafter, rfl⟩ := h
  have bracket : State.start.next 0x5B = .list := rfl
  have quote : State.list.next 0x22 = .text .element [] .plain := rfl
  have close : (State.listEnd decision).next 0x5D = .whole decision := rfl
  rw [State.Waits.start.accepts_blank hbefore, State.accepts_cons, bracket,
    State.Waits.list.accepts_blank hgap, List.cons_append, State.accepts_cons, quote,
    State.accepts_quoted]
  refine ⟨decision, w, gap' ++ 0x5D :: after, hw, by simp, ?_⟩
  rw [State.closeText_element, (State.Waits.listEnd _).accepts_blank hgap', State.accepts_cons,
    close, State.accepts_whole]
  exact ⟨hafter, rfl⟩

theorem decode_eq_ok_iff : decode body = .ok decision ↔ Tells decision body := by
  constructor
  · exact tells_of_accepts
  · rintro (⟨hobject, carries⟩ | hlisted)
    · exact accepts_object hobject carries
    · exact accepts_listed hlisted

theorem dropWhile_isSpace {gap rest : Octets} {b : UInt8} (hgap : Blank gap)
    (hb : isSpace b = false) : (gap ++ b :: rest).dropWhile isSpace = b :: rest :=
  dropWhile_span hgap (by simpa using hb)

theorem dropWhile_object {members : List (String × Octets)} (h : Object members body) :
    ∃ rest, body.dropWhile isSpace = 0x7B :: rest := by
  cases h with
  | empty hbefore => exact ⟨_, dropWhile_isSpace hbefore rfl⟩
  | members hbefore => exact ⟨_, dropWhile_isSpace hbefore rfl⟩

theorem Listed.not_object (h : Listed decision body) (members : List (String × Octets)) :
    ¬Object members body := by
  obtain ⟨before, gap, value, gap', after, hbefore, -, -, -, -, rfl⟩ := h
  intro hobject
  obtain ⟨rest, hrest⟩ := dropWhile_object hobject
  rw [dropWhile_isSpace hbefore rfl] at hrest
  cases hrest

end Decode

end Payload

namespace Client

open Payload

variable {client : Client} {status : Status} {framing : Framing} {received body : Octets}

theorem fetch_of_sends (sends : client.sends = true) :
    client.fetch (.response status framing received) =
      some (ofResponse status framing received) := by
  cases htarget : client.target with
  | error error => simp [Client.sends, htarget] at sends
  | ok target => simp [fetch, htarget, sends, ofExchange]

-- A complete response in the range is decoded and nothing else.
theorem fetch_of_body (sends : client.sends = true) (inRange : InRange status)
    (whole : framing.body? received = some body) :
    client.fetch (.response status framing received) =
      some ((Payload.decode body).mapError .decode) := by
  rw [fetch_of_sends sends, ofResponse, if_pos (isDecodable_iff.2 inRange), whole]

theorem fetch_eq_ok_iff {decision : String} (sends : client.sends = true) (inRange : InRange status)
    (whole : framing.body? received = some body) :
    client.fetch (.response status framing received) = some (.ok decision) ↔
      Payload.decode body = .ok decision := by
  rw [fetch_of_body sends inRange whole]
  cases Payload.decode body with
  | error cause => exact ⟨nofun, nofun⟩
  | ok other =>
    constructor <;>
    · intro h
      cases h
      rfl

-- The decision comes back as it was encoded, in whatever spelling and beside whatever members.
theorem encoded_decision_fetched {before after : List (String × Octets)} {decision : String}
    {value : Octets} (sends : client.sends = true) (inRange : InRange status)
    (whole : framing.body? received = some body)
    (object : Object (before ++ ("decision", value) :: after) body)
    (encoded : Quoted decision value)
    (others : ∀ m ∈ before ++ after, m.1 ≠ "decision" ∧ Written .value m.2) :
    client.fetch (.response status framing received) = some (.ok decision) := by
  rw [fetch_eq_ok_iff sends inRange whole, decode_eq_ok_iff]
  exact .object object ⟨before, value, after, rfl, encoded, others⟩

-- The value `[1,{"b":null}]`.
def nestedList : Octets :=
  [0x5B, 0x31, 0x2C, 0x7B, 0x22, 0x62, 0x22, 0x3A, 0x6E, 0x75, 0x6C, 0x6C, 0x7D, 0x5D]

theorem written_nestedList : Written .value nestedList := by
  have gap : Blank [] := by simp [Blank]
  have digit : WholePart [0x31] := .digits ⟨by decide, List.all_eq_true.1 rfl⟩ (by decide)
  have one : Written .value [0x31] := .number (.mk (.inl rfl) digit .nil .nil)
  have null : Written .value [0x6E, 0x75, 0x6C, 0x6C] := .word (by decide)
  have key : Loose [0x62] := .octet (by unfold IsPlain; decide) .nil
  have map : Written .value [0x7B, 0x22, 0x62, 0x22, 0x3A, 0x6E, 0x75, 0x6C, 0x6C, 0x7D] :=
    .bracket .map (.last gap (.member key gap gap null) gap)
  exact .bracket .list (.more gap (.item one) gap (.last gap (.item map) gap))

-- The text `"\ud83d\ude00\n"`: a face as a pair of units, and a line feed.
def spelledFace : Octets :=
  [0x22, 0x5C, 0x75, 0x64, 0x38, 0x33, 0x64, 0x5C, 0x75, 0x64, 0x65, 0x30, 0x30, 0x5C, 0x6E, 0x22]

theorem quoted_spelledFace : Quoted "😀\n" spelledFace := by
  have high : UnitEscape (0xD800 + ('😀'.toNat - 0x10000) / 0x400)
      [0x5C, 0x75, 0x64, 0x38, 0x33, 0x64] := hexNumber?_four.1 (by decide)
  have low : UnitEscape (0xDC00 + ('😀'.toNat - 0x10000) % 0x400)
      [0x5C, 0x75, 0x64, 0x65, 0x30, 0x30] := hexNumber?_four.1 (by decide)
  have face := Spells.escape (.pair (by decide) high low)
  have feed : Spells '\n' [0x5C, 0x6E] := .escape (.letter (by decide))
  exact ⟨_, .cons face (.cons feed .nil), rfl⟩

-- The decision behind a nested member with a spelled-out name.
theorem spelled_face_fetched :
    Client.fetch ⟨some "http://10.0.0.7:9000/decide", none⟩ (.response .ok .untilClose
      (octets "\x7b\"\\u00e9\":[1,\x7b\"b\":null\x7d], \"decision\" : \"\\ud83d\\ude00\\n\"\x7d")) =
        some (.ok "😀\n") := by
  have none : Blank [] := by simp [Blank]
  have gap : Blank [0x20] := by simp [Blank, isSpace]
  have name : Spelled "é".toList [0x5C, 0x75, 0x30, 0x30, 0x65, 0x39] :=
    .cons (.escape (.unit (hexNumber?_four.1 (by decide)))) .nil
  have key : Spelled "decision".toList [0x64, 0x65, 0x63, 0x69, 0x73, 0x69, 0x6F, 0x6E] :=
    @spelled_of_octets "decision".toList (by simp [IsPlain, String.utf8EncodeChar])
  have first := @Member.mk "é" _ [] [] nestedList name none none
  have second := @Member.mk "decision" _ [0x20] [0x20] spelledFace key gap gap
  have object : Object [("é", nestedList), ("decision", spelledFace)]
      (octets "\x7b\"\\u00e9\":[1,\x7b\"b\":null\x7d], \"decision\" : \"\\ud83d\\ude00\\n\"\x7d") := by
    convert Object.members none (.more none first none (.last gap second none)) none using 1
    decide +kernel
  exact @encoded_decision_fetched _ .ok .untilClose _ _ [("é", nestedList)] [] _ _ (by decide)
    ⟨by decide, by decide⟩ rfl object quoted_spelledFace (by simp [written_nestedList])

-- These bodies give a decision, and the others are errors of the payload.
theorem fetch_ok_iff_tells (sends : client.sends = true) (inRange : InRange status)
    (whole : framing.body? received = some body) :
    (∀ decision, client.fetch (.response status framing received) = some (.ok decision) ↔
      Tells decision body) ∧
    ((∀ decision, ¬Tells decision body) →
      ∃ cause, client.fetch (.response status framing received) = some (.error (.decode cause))) := by
  have hok : ∀ decision, client.fetch (.response status framing received) = some (.ok decision) ↔
      Tells decision body := by
    intro decision
    rw [fetch_eq_ok_iff sends inRange whole, decode_eq_ok_iff]
  refine ⟨hok, ?_⟩
  intro silent
  cases read : Payload.decode body with
  | error cause =>
    refine ⟨cause, ?_⟩
    rw [fetch_of_body sends inRange whole, read]
    rfl
  | ok decision => exact absurd (decode_eq_ok_iff.1 read) (silent decision)

-- A decision is not to be repeated.
theorem repeated_decision_refused :
    (∀ decision, ¬Tells decision (octets "\x7b\"decision\":\"a\",\"decision\":\"b\"\x7d")) ∧
      ∃ cause, Client.fetch ⟨some "http://10.0.0.7:9000/decide", none⟩ (.response .ok .untilClose
        (octets "\x7b\"decision\":\"a\",\"decision\":\"b\"\x7d")) =
          some (.error (.decode cause)) := by
  have refused : Payload.decode (octets "\x7b\"decision\":\"a\",\"decision\":\"b\"\x7d") =
      .error (.mismatch .repeated) := by
    with_unfolding_all rfl
  have classified := @fetch_ok_iff_tells ⟨some "http://10.0.0.7:9000/decide", none⟩ .ok .untilClose
    (octets "\x7b\"decision\":\"a\",\"decision\":\"b\"\x7d") _ (by decide) ⟨by decide, by decide⟩ rfl
  have silent : ∀ decision, ¬Tells decision
      (octets "\x7b\"decision\":\"a\",\"decision\":\"b\"\x7d") := by
    intro decision tells
    rw [← decode_eq_ok_iff, refused] at tells
    cases tells
  exact ⟨silent, classified.2 silent⟩

-- A list stands in the place of the object.
theorem list_fetched_for_object :
    Client.fetch ⟨some "http://10.0.0.7:9000/decide", none⟩
        (.response .ok .untilClose (octets "[\"x\"]")) = some (.ok "x") ∧
      ∀ members, ¬Object members (octets "[\"x\"]") := by
  have gap : Blank [] := by simp [Blank]
  have x : Spelled "x".toList [0x78] :=
    @spelled_of_octets "x".toList (by simp [IsPlain, String.utf8EncodeChar])
  have listed : Listed "x" (octets "[\"x\"]") :=
    ⟨[], [], _, [], [], gap, gap, ⟨_, x, rfl⟩, gap, gap, by decide +kernel⟩
  refine ⟨?_, listed.not_object⟩
  rw [fetch_eq_ok_iff (by decide) ⟨by decide, by decide⟩ rfl, decode_eq_ok_iff]
  exact .list listed

end Client

end RoutingProcessor.Decision
