import RoutingProcessor.Net.Parse
import RoutingProcessor.Proofs.Net.Uri

namespace RoutingProcessor.Net

open Text

-- Between two texts a reader took characters that an authority may hold, and so many colons
-- at most.
def Takes (cs rest : List Char) (colons : Nat) : Prop :=
  ∃ taken, cs = taken ++ rest ∧ (∀ c ∈ taken, Uri.isPlainChar c = true ∨ c = ':') ∧
    taken.count ':' ≤ colons

variable {cs mid rest : List Char} {m n : Nat}

theorem Takes.refl (cs : List Char) : Takes cs cs 0 := ⟨[], rfl, by simp, by simp⟩

theorem Takes.trans (h : Takes cs mid m) (h' : Takes mid rest n) : Takes cs rest (m + n) := by
  obtain ⟨front, rfl, plain, few⟩ := h
  obtain ⟨back, rfl, plain', few'⟩ := h'
  refine ⟨front ++ back, (List.append_assoc ..).symm, ?_, ?_⟩
  · intro c hc
    exact (List.mem_append.1 hc).elim (plain c) (plain' c)
  · rw [List.count_append]
    omega

theorem Takes.mono (h : Takes cs rest m) (le : m ≤ n) : Takes cs rest n := by
  obtain ⟨taken, whole, plain, few⟩ := h
  exact ⟨taken, whole, plain, few.trans le⟩

theorem Takes.of_plain {taken : List Char} (whole : taken ++ rest = cs)
    (plain : ∀ c ∈ taken, Uri.isPlainChar c = true) : Takes cs rest 0 := by
  exact ⟨taken, whole.symm, fun c hc => .inl (plain c hc), (Uri.count_colon_of_plain plain).le⟩

theorem isPlainChar_of_digit? {base : Nat} {c : Char} (h : (digit? base c).isSome = true) :
    Uri.isPlainChar c = true := by
  have alphanumeric : isLetter c = true ∨ isDigit c = true := by
    rw [isLetter_iff, isDigit_iff]
    simp only [digit?, Option.isSome_filter, hexDigit?, le_iff_toNat_le, Bool.and_eq_true,
      decide_eq_true_eq] at h
    split at h
    · next digit => exact .inr digit
    split at h
    · next lower =>
      have : ('f' : Char).toNat = 102 := rfl
      have : ('a' : Char).toNat = 97 := rfl
      omega
    split at h
    · next upper =>
      have : ('F' : Char).toNat = 70 := rfl
      have : ('A' : Char).toNat = 65 := rfl
      omega
    · cases h
  rcases alphanumeric with h | h <;> simp [Uri.isPlainChar, h]

theorem takes_digits {base most : Nat} {ds : List Nat} (h : digits base most cs = some (ds, rest)) :
    Takes cs rest 0 := by
  simp only [digits] at h
  split at h
  · cases h
  · cases h
    refine .of_plain List.takeWhile_append_dropWhile fun c hc => ?_
    exact isPlainChar_of_digit? (List.mem_takeWhile_imp (p := fun c => (digit? base c).isSome) hc)

theorem takes_given {c : Char} {found : Unit} (plain : Uri.isPlainChar c = true ∨ c = ':')
    (h : given c cs = some (found, rest)) : Takes cs rest (if c = ':' then 1 else 0) := by
  cases cs with
  | nil => cases h
  | cons d cs =>
    simp only [given] at h
    split at h
    · next same =>
      cases h
      subst same
      exact ⟨[d], rfl, by simpa using plain, by split <;> simp [*]⟩
    · cases h

theorem takes_octet {b : UInt8} (h : octet cs = some (b, rest)) : Takes cs rest 0 := by
  simp only [octet, Option.bind_eq_bind, Option.bind_eq_some_iff] at h
  obtain ⟨⟨taken, behind⟩, hdigits, h⟩ := h
  split at h
  · cases h
    exact takes_digits hdigits
  · cases h

theorem takes_ipv4 {ip : Ipv4} (h : ipv4 cs = some (ip, rest)) : Takes cs rest 0 := by
  have dot {cs rest : List Char} {found : Unit} (h : given '.' cs = some (found, rest)) :
      Takes cs rest 0 := takes_given (.inl (by decide)) h
  simp only [ipv4, Option.bind_eq_bind, Option.bind_eq_some_iff] at h
  obtain ⟨⟨a, _⟩, ha, ⟨_, _⟩, hab, ⟨b, _⟩, hb, ⟨_, _⟩, hbc, ⟨c, _⟩, hc, ⟨_, _⟩, hcd, ⟨d, _⟩, hd, h⟩ := h
  cases h
  exact (takes_octet ha).trans <| (dot hab).trans <| (takes_octet hb).trans <| (dot hbc).trans <|
    (takes_octet hc).trans <| (dot hcd).trans (takes_octet hd)

theorem takes_group {g : UInt16} (h : group cs = some (g, rest)) : Takes cs rest 0 := by
  simp only [group, Option.bind_eq_bind, Option.bind_eq_some_iff] at h
  obtain ⟨⟨taken, behind⟩, hdigits, h⟩ := h
  cases h
  exact takes_digits hdigits

-- There is a colon in front of every group, except for the first of all.
theorem takes_groups {isFirst embedded : Bool} {room : Nat} {gs : List UInt16}
    (h : groups isFirst room cs = ((gs, embedded), rest)) :
    Takes cs rest (gs.length - isFirst.toNat) ∧ gs.length ≤ room := by
  induction room generalizing isFirst embedded cs rest gs with
  | zero =>
    cases h
    exact ⟨(Takes.refl _).mono (Nat.zero_le _), Nat.le_refl _⟩
  | succ room ih =>
    simp only [groups] at h
    split at h
    · cases h
      exact ⟨(Takes.refl _).mono (Nat.zero_le _), Nat.zero_le _⟩
    · next inner start =>
      have begun : Takes cs inner (1 - isFirst.toNat) := by
        cases isFirst with
        | true =>
          cases start
          exact .refl _
        | false =>
          obtain ⟨⟨_, _⟩, hgiven, rfl⟩ := Option.map_eq_some_iff.1 start
          exact takes_given (.inr rfl) hgiven
      split at h
      · next ip behind hip =>
        cases h
        split at hip
        · cases hip
        · have length : ip.groups.length = 2 := rfl
          refine ⟨(begun.trans (takes_ipv4 hip)).mono ?_, by omega⟩
          omega
      · split at h
        · cases h
          exact ⟨(Takes.refl _).mono (Nat.zero_le _), Nat.zero_le _⟩
        · next g behind hg =>
          obtain ⟨⟨⟨more, _⟩, _⟩, hmore⟩ : ∃ found, groups false room behind = found := ⟨_, rfl⟩
          obtain ⟨taken, within⟩ := ih hmore
          rw [hmore] at h
          cases h
          refine ⟨(begun.trans ((takes_group hg).trans taken)).mono ?_, ?_⟩
          · cases isFirst with
            | true => simp
            | false =>
              simp only [List.length_cons, Bool.toNat_false]
              omega
          · simpa using within

-- Two colons in a row save at least one group, so eight colons are enough for any host.
theorem takes_ipv6 {ip : Ipv6} (h : ipv6 cs = some (ip, rest)) : Takes cs rest 8 := by
  have colon {cs rest : List Char} {found : Unit} (h : given ':' cs = some (found, rest)) :
      Takes cs rest 1 := takes_given (.inr rfl) h
  obtain ⟨⟨⟨front, embedded⟩, behind⟩, hfront⟩ : ∃ found, groups true 8 cs = found := ⟨_, rfl⟩
  obtain ⟨taken, within⟩ := takes_groups hfront
  simp only [ipv6, hfront] at h
  split at h
  · next eight =>
    cases h
    refine taken.mono ?_
    omega
  split at h
  · cases h
  simp only [Option.bind_eq_bind, Option.bind_eq_some_iff] at h
  obtain ⟨⟨_, one⟩, hone, ⟨_, two⟩, htwo, h⟩ := h
  obtain ⟨⟨⟨back, _⟩, last⟩, hback⟩ :
      ∃ found, groups true (7 - front.length) two = found := ⟨_, rfl⟩
  obtain ⟨taken', within'⟩ := takes_groups hback
  simp only [hback] at h
  split at h
  · cases h
    refine (taken.trans ((colon hone).trans ((colon htwo).trans taken'))).mono ?_
    simp only [Bool.toNat_true]
    omega
  · cases h

theorem plain_of_whole_ipv6 {ip : Ipv6} (h : Reader.whole ipv6 cs = some ip) :
    (∀ c ∈ cs, Uri.isPlainChar c = true ∨ c = ':') ∧ cs.count ':' ≤ 8 := by
  unfold Reader.whole at h
  split at h
  · next found read =>
    obtain ⟨taken, rfl, plain, few⟩ := takes_ipv6 read
    rw [List.append_nil]
    exact ⟨plain, few⟩
  · cases h

end RoutingProcessor.Net
