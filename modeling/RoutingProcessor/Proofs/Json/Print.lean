import Mathlib.Data.List.Forall2
import RoutingProcessor.Json.Print
import RoutingProcessor.Proofs.Json.Text

namespace RoutingProcessor.Json

open Text
open String (utf8EncodeChar)

variable {c : Char} {text : String} {members : List (String × String)}

theorem octets_append (a b : String) : octets (a ++ b) = octets a ++ octets b := by
  simp [octets]

theorem octets_ofList (cs : List Char) : octets (String.ofList cs) = cs.flatMap utf8EncodeChar := by
  simp [octets]

-- The number of a control character in four digits.
theorem hexNumber?_control : ∀ n < 32,
    let digits :=
      (List.replicate (4 - (hexDigits n).length) '0' ++ hexDigits n).flatMap utf8EncodeChar
    digits.length = 4 ∧ hexNumber? digits = some n := by
  decide

theorem escape_of_control {digits : Octets} (hlength : digits.length = 4)
    (hvalue : hexNumber? digits = some c.toNat) : Escape c (0x5C :: 0x75 :: digits) := by
  match digits, hlength with
  | [w, x, y, z], _ => exact .unit (hexNumber?_four.1 hvalue)

-- Every character is written in one of its spellings.
theorem spells_escape (c : Char) : Spells c ((escape c).flatMap utf8EncodeChar) := by
  unfold escape
  -- the characters that are escaped by a letter
  iterate 7
    split
    case isTrue h =>
      subst h
      exact .escape (.letter (by decide))
  split
  case isTrue h =>
    obtain ⟨hlength, hvalue⟩ := hexNumber?_control c.toNat h
    exact .escape (escape_of_control hlength hvalue)
  case isFalse quote slash _ _ _ _ _ control =>
    rw [List.flatMap_singleton]
    exact .plain (Char.not_lt.1 control) quote slash

theorem spelled_escape (cs : List Char) :
    Spelled cs ((cs.flatMap escape).flatMap utf8EncodeChar) := by
  induction cs with
  | nil => exact .nil
  | cons c cs ih =>
    rw [List.flatMap_cons, List.flatMap_append]
    exact .cons (spells_escape c) ih

theorem octets_quote (text : String) :
    octets (quote text) =
      0x22 :: ((text.toList.flatMap escape).flatMap utf8EncodeChar ++ [0x22]) := by
  rw [quote, octets_ofList, List.flatMap_append, List.flatMap_cons]
  rfl

-- A text is written between quotes.
theorem quoted_quote (text : String) : Quoted text (octets (quote text)) :=
  ⟨_, spelled_escape text.toList, octets_quote text⟩

theorem blank_nil : Blank [] := List.forall_mem_nil _

theorem member_print (key value : String) :
    Member (key, octets value) (octets (quote key ++ ":" ++ value)) := by
  have written :=
    @Member.mk key _ [] [] (octets value) (spelled_escape key.toList) blank_nil blank_nil
  rw [List.nil_append, List.nil_append] at written
  have colon : octets ":" = [0x3A] := rfl
  rw [octets_append, octets_append, octets_quote, colon]
  simpa only [List.cons_append, List.append_assoc, List.nil_append] using written

theorem members_print (m : String × String) (ms : List (String × String)) :
    Members ((m :: ms).map fun m => (m.1, octets m.2))
      (octets (String.intercalate "," ((m :: ms).map fun m => quote m.1 ++ ":" ++ m.2))) := by
  induction ms generalizing m with
  | nil =>
    have written := Members.last blank_nil (member_print m.1 m.2) blank_nil
    rwa [List.nil_append, List.append_nil] at written
  | cons next ms ih =>
    have written := Members.more blank_nil (member_print m.1 m.2) blank_nil (ih next)
    have comma : octets "," = [0x2C] := rfl
    rw [List.nil_append, List.nil_append] at written
    rw [List.map_cons, List.map_cons, List.map_cons, List.map_cons, String.intercalate_cons_cons,
      octets_append, octets_append, comma]
    simpa only [List.map_cons, List.cons_append, List.append_assoc, List.nil_append] using written

-- An object is written with its members in their order.
theorem object_object (members : List (String × String)) :
    Object (members.map fun m => (m.1, octets m.2)) (octets (object members)) := by
  have brace : octets "\x7b" = [0x7B] := rfl
  have closing : octets "\x7d" = [0x7D] := rfl
  rw [object, octets_append, octets_append, brace, closing]
  cases members with
  | nil => exact .empty blank_nil blank_nil blank_nil
  | cons m ms =>
    have written := Object.members blank_nil (members_print m ms) blank_nil
    exact written

-- A document that is an object of texts.
def TextObject (members : List (String × String)) (w : Octets) : Prop :=
  ∃ values, Object values w ∧
    List.Forall₂ (fun given value => given.1 = value.1 ∧ Quoted given.2 value.2) members values

theorem textObject_textObject (members : List (String × String)) :
    TextObject members (octets (textObject members)) := by
  refine ⟨_, object_object _, ?_⟩
  rw [List.map_map, List.forall₂_map_right_iff, List.forall₂_same]
  intro m _
  dsimp only [Function.comp_apply]
  exact ⟨rfl, quoted_quote m.2⟩

end RoutingProcessor.Json
