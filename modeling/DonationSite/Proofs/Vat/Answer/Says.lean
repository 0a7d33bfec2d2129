import DonationSite.Proofs.Vat.Answer.Object

/-!
# What the members of an object say

Members are read one after the other, yet their order does not matter: they complete a draft exactly
if they say, key by key, what is missing in it (`SaysFrom`). A member settles what is said for its
own key and leaves the other keys as they were.

## Key results

- `completes_iff_says`: members complete the empty draft exactly if they say the answer
-/

namespace DonationSite.Vat

open Json

/-- What members say, key by key, of an answer of which a draft is known. -/
structure SaysFrom (draft : Draft) (members : List Member) (answer : Answer) : Prop where
  valid : (draft.valid = some answer.valid ∧ valuesOf members validKey = []) ∨
    draft.valid = none ∧
      ∃ value, valuesOf members validKey = [value] ∧ BooleanText value answer.valid
  text : ∀ field : TextField,
    (answer.get field = draft.answer.get field ∧ valuesOf members field.key = []) ∨
    field ∉ draft.given ∧
      ∃ value, valuesOf members field.key = [value] ∧ OptionalText value (answer.get field)
  other : ∀ member ∈ members, member.key ≠ validKey →
    (∀ field : TextField, member.key ≠ field.key) → ValueText member.value

/-- A member gives its own key a value more. -/
theorem valuesOf_cons_self (member : Member) (members : List Member) :
    valuesOf (member :: members) member.key = member.value :: valuesOf members member.key := by
  simp [valuesOf]

/-- It gives other keys none. -/
theorem valuesOf_cons_of_ne {member : Member} {key : String} (h : member.key ≠ key)
    (members : List Member) : valuesOf (member :: members) key = valuesOf members key := by
  simp [valuesOf, h]

/-- Without members, a draft is complete exactly if it says the answer itself. -/
theorem completes_nil_iff {draft : Draft} {answer : Answer} :
    Completes draft [] answer ↔ SaysFrom draft [] answer := by
  constructor
  · intro h
    obtain ⟨hvalid⟩ := h
    exact ⟨.inl ⟨hvalid, rfl⟩, fun field => .inl ⟨Answer.get_with_valid _ _ field, rfl⟩, nofun⟩
  -- Every text is as in the draft, and so is the validity.
  · intro h
    obtain ⟨hvalid, -⟩ | ⟨-, value, hvalue, -⟩ := h.valid
    · have htexts (field : TextField) : answer.get field = draft.answer.get field := by
        obtain ⟨heq, -⟩ | ⟨-, value, hvalue, -⟩ := h.text field
        · exact heq
        · cases hvalue
      have hanswer : answer = { draft.answer with valid := answer.valid } :=
        Answer.ext_get rfl fun field => (htexts field).trans (Answer.get_with_valid _ _ field).symm
      rw [hanswer]
      exact .done hvalid
    · cases hvalue

section Cons

variable {draft : Draft} {members : List Member} {answer : Answer}

/-- A member for validity says it, and nothing else may. -/
theorem saysFrom_valid_iff {value : List Char} :
    SaysFrom draft (⟨validKey, value⟩ :: members) answer ↔ draft.valid = none ∧
      ∃ valid, BooleanText value valid ∧
        SaysFrom { draft with valid := some valid } members answer := by
  have htext (field : TextField) :
      valuesOf (⟨validKey, value⟩ :: members) field.key = valuesOf members field.key :=
    valuesOf_cons_of_ne field.key_ne_validKey.symm members
  have hvalid : valuesOf (⟨validKey, value⟩ :: members) validKey =
      value :: valuesOf members validKey := valuesOf_cons_self _ _
  constructor
  · intro h
    -- The draft does not say the validity, since a member does.
    obtain ⟨-, hnil⟩ | ⟨hnone, value', hvalues, hvalue⟩ := h.valid
    · cases hvalid.symm.trans hnil
    · obtain ⟨rfl, hnil⟩ := List.cons.inj (hvalid.symm.trans hvalues)
      refine ⟨hnone, answer.valid, hvalue, .inl ⟨rfl, hnil⟩, fun field => ?_,
        fun member hmem => h.other member (List.mem_cons_of_mem _ hmem)⟩
      rw [← htext]
      exact h.text field
  · intro h
    obtain ⟨hnone, valid, hvalue, h⟩ := h
    -- The members after it must not say it again.
    obtain ⟨heq, hnil⟩ | ⟨hnever, -⟩ := h.valid
    · rw [Option.some.inj heq] at hvalue
      refine ⟨.inr ⟨hnone, value, by rw [hvalid, hnil], hvalue⟩, fun field => ?_,
        List.forall_mem_cons.2 ⟨fun hne => absurd rfl hne, h.other⟩⟩
      rw [htext]
      exact h.text field
    · cases hnever

/-- A member for a text says it, and nothing else may. -/
theorem saysFrom_text_iff {field : TextField} {value : List Char} :
    SaysFrom draft (⟨field.key, value⟩ :: members) answer ↔ field ∉ draft.given ∧
      ∃ text, OptionalText value text ∧
        SaysFrom { draft with
          given := field :: draft.given
          answer := draft.answer.set field text } members answer := by
  have hvalid : valuesOf (⟨field.key, value⟩ :: members) validKey = valuesOf members validKey :=
    valuesOf_cons_of_ne field.key_ne_validKey members
  have hself : valuesOf (⟨field.key, value⟩ :: members) field.key =
      value :: valuesOf members field.key := valuesOf_cons_self _ _
  have hother {other : TextField} (hne : other ≠ field) :
      valuesOf (⟨field.key, value⟩ :: members) other.key = valuesOf members other.key :=
    valuesOf_cons_of_ne (fun heq => hne (TextField.key_inj.1 heq.symm)) members
  constructor
  · intro h
    obtain ⟨-, hnil⟩ | ⟨hnew, value', hvalues, hvalue⟩ := h.text field
    · cases hself.symm.trans hnil
    · obtain ⟨rfl, hnil⟩ := List.cons.inj (hself.symm.trans hvalues)
      refine ⟨hnew, answer.get field, hvalue, ?_, fun other => ?_,
        fun member hmem => h.other member (List.mem_cons_of_mem _ hmem)⟩
      · rw [← hvalid]
        exact h.valid
      -- What was said for the text is now in the draft, the other texts are untouched.
      · by_cases hne : other = field
        · subst hne
          exact .inl ⟨(Answer.get_set_self _ _ _).symm, hnil⟩
        · rw [← hother hne]
          refine (h.text other).imp (fun hsame => ?_) fun hgiven => ?_
          · rwa [Answer.get_set_of_ne _ _ hne]
          · exact ⟨List.not_mem_cons_of_ne_of_not_mem hne hgiven.1, hgiven.2⟩
  · intro h
    obtain ⟨hnew, text, hvalue, h⟩ := h
    refine ⟨?_, fun other => ?_,
      List.forall_mem_cons.2 ⟨fun _ hne => absurd rfl (hne field), h.other⟩⟩
    · rw [hvalid]
      exact h.valid
    -- The same the other way: from the draft back to the member.
    · by_cases hne : other = field
      · subst hne
        obtain ⟨heq, hnil⟩ | ⟨hnever, -⟩ := h.text other
        · rw [Answer.get_set_self] at heq
          exact .inr ⟨hnew, value, by rw [hself, hnil], by rwa [heq]⟩
        · exact absurd List.mem_cons_self hnever
      · rw [hother hne]
        refine (h.text other).imp (fun hsame => ?_) fun hgiven => ?_
        · rwa [Answer.get_set_of_ne _ _ hne] at hsame
        · exact ⟨List.not_mem_of_not_mem_cons hgiven.1, hgiven.2⟩

/-- A member with another key says nothing, but its value must be one. -/
theorem saysFrom_other_iff {member : Member} (hvalid : member.key ≠ validKey)
    (htext : ∀ field : TextField, member.key ≠ field.key) :
    SaysFrom draft (member :: members) answer ↔
      ValueText member.value ∧ SaysFrom draft members answer := by
  have hvalues {key : String} (hne : member.key ≠ key) := valuesOf_cons_of_ne hne members
  constructor
  · intro h
    refine ⟨h.other member List.mem_cons_self hvalid htext, ?_, fun field => ?_,
      fun member hmem => h.other member (List.mem_cons_of_mem _ hmem)⟩
    · rw [← hvalues hvalid]
      exact h.valid
    · rw [← hvalues (htext field)]
      exact h.text field
  · intro h
    obtain ⟨hvalue, h⟩ := h
    refine ⟨?_, fun field => ?_, List.forall_mem_cons.2 ⟨fun _ _ => hvalue, h.other⟩⟩
    · rw [hvalues hvalid]
      exact h.valid
    · rw [hvalues (htext field)]
      exact h.text field

end Cons

/-- Members complete a draft exactly if they say what is missing in it. -/
theorem completes_iff_saysFrom {draft : Draft} {members : List Member} {answer : Answer} :
    Completes draft members answer ↔ SaysFrom draft members answer := by
  -- Each member leaves another draft to the members after it.
  induction members generalizing draft with
  | nil => exact completes_nil_iff
  | cons member members ih =>
    constructor
    · intro h
      cases h with
      | take htakes hcompletes =>
        have hsays := ih.1 hcompletes
        cases htakes with
        | valid hnone hvalue => exact saysFrom_valid_iff.2 ⟨hnone, _, hvalue, hsays⟩
        | text hnew hvalue => exact saysFrom_text_iff.2 ⟨hnew, _, hvalue, hsays⟩
        | other hvalid htext hvalue =>
          exact (saysFrom_other_iff hvalid htext).2 ⟨hvalue, hsays⟩
    · intro h
      -- The key tells which of the three kinds of members this is.
      by_cases hvalid : member.key = validKey
      · obtain ⟨key, value⟩ := member
        obtain rfl : key = validKey := hvalid
        obtain ⟨hnone, valid, hvalue, h⟩ := saysFrom_valid_iff.1 h
        exact .take (.valid hnone hvalue) (ih.2 h)
      · by_cases htext : ∃ field : TextField, member.key = field.key
        · obtain ⟨field, hkey⟩ := htext
          obtain ⟨key, value⟩ := member
          obtain rfl : key = field.key := hkey
          obtain ⟨hnew, text, hvalue, h⟩ := saysFrom_text_iff.1 h
          exact .take (.text hnew hvalue) (ih.2 h)
        · have htext (field : TextField) : member.key ≠ field.key :=
            fun heq => htext ⟨field, heq⟩
          obtain ⟨hvalue, h⟩ := (saysFrom_other_iff hvalid htext).1 h
          exact .take (.other hvalid htext hvalue) (ih.2 h)

/-- Members make an answer out of nothing exactly if they say it, in whatever order. -/
theorem completes_iff_says {members : List Member} {answer : Answer} :
    Completes {} members answer ↔ Says members answer := by
  rw [completes_iff_saysFrom]
  have hnone (field : TextField) : ({} : Answer).get field = none := by cases field <;> rfl
  constructor
  · intro h
    -- The empty draft says nothing, so everything is said by the members.
    refine ⟨?_, fun field => ?_, h.other⟩
    · obtain ⟨hnever, -⟩ | ⟨-, hvalue⟩ := h.valid
      · cases hnever
      · exact hvalue
    · obtain ⟨heq, hnil⟩ | ⟨-, value, hvalues, hvalue⟩ := h.text field
      · exact ⟨none, hnil, by rw [heq, hnone]; exact .absent⟩
      · exact ⟨some value, hvalues, .given hvalue⟩
  · intro h
    refine ⟨.inr ⟨rfl, h.valid⟩, fun field => ?_, h.other⟩
    obtain ⟨value?, hvalues, hvalue⟩ := h.text field
    generalize answer.get field = text at hvalue ⊢
    cases hvalue with
    | absent => exact .inl ⟨(hnone field).symm, hvalues⟩
    | given hvalue => exact .inr ⟨List.not_mem_nil, _, hvalues, hvalue⟩

end DonationSite.Vat
