import DonationSite.Proofs.Json.Skip
import DonationSite.Proofs.Vat.Answer.Format

/-!
# Which objects are read as answers

Reading goes through the members with a draft of the answer. One member takes a draft to the next
(`Takes`), and the members complete the draft that they start from (`Completes`).

## Key results

- `readMember_sound`, `readMember_complete`: a member is read exactly if it takes the draft further
- `readMembers_first_eq_ok_iff`: the members of an object are read exactly if they complete it
-/

namespace DonationSite.Vat

open Json

/-! ### Keys -/

/-- Where a key is read the object does not end. -/
theorem someKey_ne_none {left rest : List Char} :
    (do let (key, left) ← readString left; .ok (some key, left)) ≠ .ok (none, rest) := by
  intro h
  obtain ⟨_, -, h⟩ := bind_eq_ok_iff.1 h
  cases h

/-- An object ends exactly if its brace stands after blanks, at the start or after a member. -/
theorem readKey_end_iff {first : Bool} {left rest : List Char} :
    readKey first left = .ok (none, rest) ↔
      ∃ spaces, Spaces spaces ∧ left = spaces ++ '\x7d' :: rest := by
  constructor
  · intro h
    -- In all other branches a key is read, or reading fails.
    unfold readKey at h
    split at h
    · exact absurd h failBefore_ne_ok
    · next heq =>
      cases h
      exact exists_spaces_of_skipSpace heq
    · split at h
      · exact absurd h someKey_ne_none
      · exact absurd h failAfter_ne_ok
    · split at h
      · exact absurd h failAfter_ne_ok
      · split at h
        · split at h
          · exact absurd h failBefore_ne_ok
          · exact absurd h someKey_ne_none
          · exact absurd h failAfter_ne_ok
          · exact absurd h failAfter_ne_ok
        · exact absurd h failAfter_ne_ok
  · intro hexists
    obtain ⟨spaces, hspaces, rfl⟩ := hexists
    rw [readKey, skipSpace_spaces_cons hspaces rfl]
    rfl

/-- The first key is read exactly if a string stands after blanks. -/
theorem readKey_first_iff {left rest : List Char} {key : String} :
    readKey true left = .ok (some key, rest) ↔ ∃ before cs, Spaces before ∧ StringText cs key ∧
      left = before ++ (cs ++ rest) := by
  constructor
  · intro h
    unfold readKey at h
    split at h
    · exact absurd h failBefore_ne_ok
    · cases h
    · next heq =>
      obtain ⟨before, hbefore, rfl⟩ := exists_spaces_of_skipSpace heq
      rw [if_pos rfl] at h
      obtain ⟨⟨key, left⟩, hstring, h⟩ := bind_eq_ok_iff.1 h
      cases h
      obtain ⟨cs, hcs, hleft⟩ := readString_eq_ok_iff.1 hstring
      exact ⟨before, cs, hbefore, hcs, by rw [hleft]⟩
    · rw [if_pos rfl] at h
      exact absurd h failAfter_ne_ok
  · intro hexists
    obtain ⟨before, cs, hbefore, hcs, rfl⟩ := hexists
    obtain ⟨tail, rfl, hread⟩ := hcs.exists_tail
    rw [List.cons_append, readKey, skipSpace_spaces_cons hbefore rfl]
    exact bind_eq_ok_iff.2 ⟨(key, rest), hread rest, rfl⟩

/-- A later key is read exactly if a comma stands before it, with blanks around. -/
theorem readKey_next_iff {left rest : List Char} {key : String} :
    readKey false left = .ok (some key, rest) ↔ ∃ spaces before cs, Spaces spaces ∧
      Spaces before ∧ StringText cs key ∧ left = spaces ++ ',' :: (before ++ (cs ++ rest)) := by
  constructor
  · intro h
    unfold readKey at h
    split at h
    · exact absurd h failBefore_ne_ok
    · cases h
    · rw [if_neg Bool.false_ne_true] at h
      exact absurd h failAfter_ne_ok
    · next heq =>
      obtain ⟨spaces, hspaces, rfl⟩ := exists_spaces_of_skipSpace heq
      rw [if_neg Bool.false_ne_true] at h
      split at h
      · next hcomma =>
        subst hcomma
        -- After the comma only a string can follow.
        split at h
        · exact absurd h failBefore_ne_ok
        · next heq =>
          obtain ⟨before, hbefore, rfl⟩ := exists_spaces_of_skipSpace heq
          obtain ⟨⟨key, left⟩, hstring, h⟩ := bind_eq_ok_iff.1 h
          cases h
          obtain ⟨cs, hcs, hleft⟩ := readString_eq_ok_iff.1 hstring
          exact ⟨spaces, before, cs, hspaces, hbefore, hcs, by rw [hleft]⟩
        · exact absurd h failAfter_ne_ok
        · exact absurd h failAfter_ne_ok
      · exact absurd h failAfter_ne_ok
  · intro hexists
    obtain ⟨spaces, before, cs, hspaces, hbefore, hcs, rfl⟩ := hexists
    obtain ⟨tail, rfl, hread⟩ := hcs.exists_tail
    rw [readKey, skipSpace_spaces_cons hspaces rfl]
    split
    · next heq => cases heq
    · next heq => cases heq
    · next heq => cases heq
    · next heq =>
      cases heq
      rw [if_neg Bool.false_ne_true, if_pos rfl, List.cons_append,
        skipSpace_spaces_cons hbefore rfl]
      exact bind_eq_ok_iff.2 ⟨(key, rest), hread rest, rfl⟩

/-- No text has the key of the validity. -/
theorem TextField.key_ne_validKey (field : TextField) : field.key ≠ validKey := by
  cases field <;> decide

/-! ### One member -/

/-- What one member does to a draft. -/
inductive Takes : Draft → Member → Draft → Prop where
  | valid {draft : Draft} {value : List Char} {valid : Bool} : draft.valid = none →
    BooleanText value valid → Takes draft ⟨validKey, value⟩ { draft with valid := some valid }
  | text {draft : Draft} {field : TextField} {value : List Char} {text : Option String} :
    field ∉ draft.given → OptionalText value text →
    Takes draft ⟨field.key, value⟩
      { draft with given := field :: draft.given, answer := draft.answer.set field text }
  | other {draft : Draft} {member : Member} : member.key ≠ validKey →
    (∀ field : TextField, member.key ≠ field.key) → ValueText member.value →
    Takes draft member draft

/-- What is read after a key is a colon and a value that takes the draft further. -/
theorem readMember_sound {draft draft' : Draft} {key : String} {left rest : List Char}
    (h : readMember draft key left = .ok (draft', rest)) :
    ∃ before after value, Spaces before ∧ Spaces after ∧ Takes draft ⟨key, value⟩ draft' ∧
      left = before ++ ':' :: (after ++ (value ++ rest)) := by
  unfold readMember at h
  split at h
  · next hvalid =>
    subst hvalid
    split at h
    -- The validity was not given before.
    · cases h
    · next hnone =>
      obtain ⟨⟨⟨⟩, left⟩, hcolon, h⟩ := bind_eq_ok_iff.1 h
      obtain ⟨⟨valid, left⟩, hboolean, h⟩ := bind_eq_ok_iff.1 h
      cases h
      obtain ⟨before, hbefore, rfl⟩ := skipColon_eq_ok_iff.1 hcolon
      obtain ⟨after, value, hafter, hvalue, rfl⟩ := readBoolean_eq_ok_iff.1 hboolean
      exact ⟨before, after, value, hbefore, hafter, .valid (by simpa using hnone) hvalue, rfl⟩
  -- The key is looked for among those of the texts.
  · next hvalid =>
    split at h
    · next field hfind =>
      have hkey : field.key = key := by simpa using List.find?_some hfind
      subst hkey
      split at h
      · cases h
      · next hnew =>
        obtain ⟨⟨⟨⟩, left⟩, hcolon, h⟩ := bind_eq_ok_iff.1 h
        obtain ⟨⟨text, left⟩, hstring, h⟩ := bind_eq_ok_iff.1 h
        cases h
        obtain ⟨before, hbefore, rfl⟩ := skipColon_eq_ok_iff.1 hcolon
        obtain ⟨after, value, hafter, hvalue, rfl⟩ := readOptionalString_eq_ok_iff.1 hstring
        exact ⟨before, after, value, hbefore, hafter, .text hnew hvalue, rfl⟩
    -- It is the key of none of them, so the value is only passed over.
    · next hfind =>
      obtain ⟨⟨⟨⟩, left⟩, hcolon, h⟩ := bind_eq_ok_iff.1 h
      obtain ⟨⟨⟨⟩, left⟩, hskip, h⟩ := bind_eq_ok_iff.1 h
      cases h
      obtain ⟨before, hbefore, rfl⟩ := skipColon_eq_ok_iff.1 hcolon
      obtain ⟨after, value, hafter, hvalue, rfl⟩ := skipValue_sound hskip
      have hother (field : TextField) : key ≠ field.key := fun heq => by
        simpa [heq] using List.find?_eq_none.1 hfind field field.mem_all
      exact ⟨before, after, value, hbefore, hafter, .other hvalid hother hvalue, rfl⟩

/-- A member that takes the draft further is read in full, before what stops a number. -/
theorem readMember_complete {draft draft' : Draft} {member : Member} {before after rest : List Char}
    (h : Takes draft member draft') (hbefore : Spaces before) (hafter : Spaces after)
    (hrest : Stops rest) :
    readMember draft member.key (before ++ ':' :: (after ++ (member.value ++ rest))) =
      .ok (draft', rest) := by
  have hcolon (cs : List Char) : skipColon (before ++ ':' :: cs) = .ok ((), cs) :=
    skipColon_eq_ok_iff.2 ⟨before, hbefore, rfl⟩
  cases h with
  | valid hnone hvalue =>
    have hread : readBoolean (after ++ (_ ++ rest)) = .ok (_, rest) :=
      readBoolean_eq_ok_iff.2 ⟨after, _, hafter, hvalue, rfl⟩
    rw [readMember, if_pos rfl, hnone, if_neg (by simp)]
    exact bind_eq_ok_iff.2 ⟨_, hcolon _, bind_eq_ok_iff.2 ⟨(_, rest), hread, rfl⟩⟩
  | text hnew hvalue =>
    rename_i field value text
    have hread : readOptionalString (after ++ (value ++ rest)) = .ok (text, rest) :=
      readOptionalString_eq_ok_iff.2 ⟨after, _, hafter, hvalue, rfl⟩
    -- No two texts have the same key, so the text is found by it.
    have hfind : TextField.all.find? (·.key = field.key) = some field := by
      cases field <;> rfl
    rw [readMember, if_neg field.key_ne_validKey, hfind]
    dsimp only
    rw [if_neg hnew]
    exact bind_eq_ok_iff.2 ⟨_, hcolon _, bind_eq_ok_iff.2 ⟨(_, rest), hread, rfl⟩⟩
  | other hvalid hother hvalue =>
    have hfind : TextField.all.find? (·.key = member.key) = none :=
      List.find?_eq_none.2 fun field _ => by simpa using (hother field).symm
    rw [readMember, if_neg hvalid, hfind]
    -- Only a value that is passed over might not say where it ends.
    exact bind_eq_ok_iff.2 ⟨_, hcolon _,
      bind_eq_ok_iff.2 ⟨((), rest), skipValue_complete hafter hvalue hrest, rfl⟩⟩

/-! ### All members -/

/-- What members make of a draft when their object ends. -/
inductive Completes : Draft → List Member → Answer → Prop where
  | done {draft : Draft} {valid : Bool} : draft.valid = some valid →
    Completes draft [] { draft.answer with valid := valid }
  | take {draft draft' : Draft} {member : Member} {members : List Member} {answer : Answer} :
    Takes draft member draft' → Completes draft' members answer →
    Completes draft (member :: members) answer

/-- The members at the start of an object, or after another member. -/
def MembersText (first : Bool) (members : List Member) (cs : List Char) : Prop :=
  if first then Enclosed MemberText '\x7b' '\x7d' members ('\x7b' :: cs)
  else Following MemberText '\x7d' members cs

/-- A draft is finished exactly if it has a validity. -/
theorem finishDraft_eq_ok_iff {draft : Draft} {left rest : List Char} {answer : Answer} :
    finishDraft draft left = .ok (answer, rest) ↔ Completes draft [] answer ∧ left = rest := by
  unfold finishDraft
  constructor
  · intro h
    split at h
    · next hvalid =>
      cases h
      exact ⟨.done hvalid, rfl⟩
    · exact absurd h failBefore_ne_ok
  · intro h
    obtain ⟨⟨hvalid⟩, rfl⟩ := h
    rw [hvalid]

/-- Where an object ends, its draft is finished. -/
theorem readMembers_end {draft : Draft} {first : Bool} {left rest : List Char}
    (h : readKey first left = .ok (none, rest)) :
    readMembers draft first left = finishDraft draft rest := by
  rw [readMembers]
  split
  · next heq => cases h.symm.trans heq
  · next heq =>
    cases h.symm.trans heq
    rfl
  · next heq => cases h.symm.trans heq

/-- Where a member is read, the members after it are read from the draft that it leaves. -/
theorem readMembers_member {draft draft' : Draft} {first : Bool} {left afterKey rest : List Char}
    {key : String} (hkey : readKey first left = .ok (some key, afterKey))
    (hmember : readMember draft key afterKey = .ok (draft', rest)) :
    readMembers draft first left = readMembers draft' false rest := by
  conv_lhs => rw [readMembers]
  split
  · next heq => cases hkey.symm.trans heq
  · next heq => cases hkey.symm.trans heq
  · next heq =>
    cases hkey.symm.trans heq
    split
    · next heq => cases hmember.symm.trans heq
    · next heq =>
      cases hmember.symm.trans heq
      rfl

/-- What is read as the members of an object is members, and they complete the draft. -/
theorem readMembers_sound {draft : Draft} {first : Bool} {left rest : List Char} {answer : Answer}
    (h : readMembers draft first left = .ok (answer, rest)) :
    ∃ members cs, MembersText first members cs ∧ Completes draft members answer ∧
      left = cs ++ rest := by
  fun_induction readMembers draft first left with
  | case1 | case3 => cases h
  -- The object ends here.
  | case2 draft first left after hkey =>
    obtain ⟨spaces, hspaces, rfl⟩ := readKey_end_iff.1 hkey
    obtain ⟨hcompletes, rfl⟩ := finishDraft_eq_ok_iff.1 h
    refine ⟨[], spaces ++ ['\x7d'], ?_, hcompletes, by simp⟩
    cases first with
    | true => exact .empty hspaces
    | false => exact .close hspaces
  | case4 draft first left key afterKey hkey draft' after hmember ih =>
    -- The members after this one are read from the draft that it leaves.
    obtain ⟨before, inner, value, hbefore, hinner, htakes, rfl⟩ := readMember_sound hmember
    obtain ⟨members, cs, hfollowing, hcompletes, rfl⟩ := ih h
    cases first with
    | true =>
      obtain ⟨start, text, hstart, htext, rfl⟩ := readKey_first_iff.1 hkey
      exact ⟨⟨key, value⟩ :: members, _, .items hstart (.mk htext hbefore hinner) hfollowing,
        .take htakes hcompletes, by simp⟩
    | false =>
      obtain ⟨spaces, start, text, hspaces, hstart, htext, rfl⟩ := readKey_next_iff.1 hkey
      exact ⟨⟨key, value⟩ :: members, _,
        .more hspaces hstart (.mk htext hbefore hinner) hfollowing,
        .take htakes hcompletes, by simp⟩

/-- Once its key is read, a member is read in full, up to what follows it. -/
theorem readMembers_take {draft draft' : Draft} {first : Bool} {member : Member}
    {members : List Member} {left before after cs : List Char} (rest : List Char)
    (hkey : readKey first left =
      .ok (some member.key, before ++ ':' :: (after ++ (member.value ++ (cs ++ rest)))))
    (hbefore : Spaces before) (hafter : Spaces after) (htakes : Takes draft member draft')
    (hfollowing : Following MemberText '\x7d' members cs) :
    readMembers draft first left = readMembers draft' false (cs ++ rest) :=
  readMembers_member hkey
    (readMember_complete htakes hbefore hafter (hfollowing.stops (by decide) rest))

/-- Members are read in full, and the answer is what they complete. -/
theorem readMembers_following {draft : Draft} {members : List Member} {cs : List Char}
    {answer : Answer} (h : Following MemberText '\x7d' members cs)
    (hcompletes : Completes draft members answer) (rest : List Char) :
    readMembers draft false (cs ++ rest) = .ok (answer, rest) := by
  induction h generalizing draft with
  | close hspaces =>
    rw [readMembers_end (readKey_end_iff.2 ⟨_, hspaces, List.append_assoc ..⟩)]
    exact finishDraft_eq_ok_iff.2 ⟨hcompletes, rfl⟩
  | more hspaces hbefore htext hfollowing ih =>
    obtain ⟨hkey, hcolon, hafter⟩ := htext
    rename_i spaces start member members cs key before after
    cases hcompletes with
    | take htakes hcompletes =>
      rw [readMembers_take rest (readKey_next_iff.2 ⟨_, _, _, hspaces, hbefore, hkey, by simp⟩)
        hcolon hafter htakes hfollowing, ih hcompletes]

/-- The members of an object are read in full from its start, and the answer is what they
complete. -/
theorem readMembers_first {draft : Draft} {members : List Member} {cs : List Char}
    {answer : Answer} (h : MembersText true members cs)
    (hcompletes : Completes draft members answer) (rest : List Char) :
    readMembers draft true (cs ++ rest) = .ok (answer, rest) := by
  cases h with
  | empty hspaces =>
    rw [readMembers_end (readKey_end_iff.2 ⟨_, hspaces, List.append_assoc ..⟩)]
    exact finishDraft_eq_ok_iff.2 ⟨hcompletes, rfl⟩
  | items hbefore htext hfollowing =>
    obtain ⟨hkey, hcolon, hafter⟩ := htext
    rename_i start member members cs key before after
    cases hcompletes with
    | take htakes hcompletes =>
      rw [readMembers_take rest (readKey_first_iff.2 ⟨_, _, hbefore, hkey, by simp⟩)
        hcolon hafter htakes hfollowing, readMembers_following hfollowing hcompletes]

/-- The members of an object are read exactly if they complete the draft. -/
theorem readMembers_first_eq_ok_iff {draft : Draft} {left rest : List Char} {answer : Answer} :
    readMembers draft true left = .ok (answer, rest) ↔ ∃ members cs,
      Enclosed MemberText '\x7b' '\x7d' members ('\x7b' :: cs) ∧
        Completes draft members answer ∧ left = cs ++ rest := by
  constructor
  · exact readMembers_sound
  · intro hexists
    obtain ⟨members, cs, hmembers, hcompletes, rfl⟩ := hexists
    exact readMembers_first hmembers hcompletes rest

end DonationSite.Vat
