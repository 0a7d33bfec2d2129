import DonationSite.Proofs.Json.Value

/-!
# What is accepted as a value that is passed over

Values of any depth are passed over with a stack of the containers that are open. What is accepted
with a stack is a value and then, for each container from the innermost to the outermost, what can
follow an item in it (`Closes`). In the other direction, passing over a value leaves the stack as it
was (`Passes`), however deep the value is.

## Key results

- `skipValue_sound`: what is passed over is a value after blanks
- `skipValue_complete`: any value after blanks is, in full
-/

namespace DonationSite.Json

/-! ### Scalars -/

/-- A number without sign starts with a digit. -/
theorem UnsignedText.exists_cons {cs : List Char} (h : UnsignedText cs) :
    ∃ c tail, cs = c :: tail ∧ c.isDigit = true := by
  obtain ⟨hwhole, -, -⟩ := h
  cases hwhole with
  | zero => exact ⟨'0', _, rfl, rfl⟩
  | digits hds =>
    obtain ⟨c, tail, rfl, hc⟩ := hds.exists_cons
    exact ⟨c, _, rfl, hc⟩

/-- What is passed over as a scalar is one. -/
theorem skipScalar_sound {left rest : List Char} (h : skipScalar left = .ok ((), rest)) :
    ∃ scalar, ScalarText scalar ∧ left = scalar ++ rest := by
  unfold skipScalar at h
  split at h
  · exact absurd h failBefore_ne_ok
  · rw [readLetters_eq_ok_iff.1 h]
    exact ⟨_, .nullWord, rfl⟩
  · rw [readLetters_eq_ok_iff.1 h]
    exact ⟨_, .trueWord, rfl⟩
  · rw [readLetters_eq_ok_iff.1 h]
    exact ⟨_, .falseWord, rfl⟩
  · obtain ⟨cs, hcs, hleft⟩ := skipString_eq_ok_iff.1 h
    exact ⟨cs, .string hcs, hleft⟩
  · obtain ⟨number, hnumber, rfl⟩ := skipNumber_sound h
    exact ⟨_, .negative hnumber, rfl⟩
  · split at h
    · obtain ⟨number, hnumber, hleft⟩ := skipNumber_sound h
      exact ⟨number, .number hnumber, hleft⟩
    · exact absurd h failAfter_ne_ok

/-- Where a digit comes first, a number is passed over. -/
theorem skipScalar_digit {c : Char} (hc : c.isDigit = true) (cs : List Char) :
    skipScalar (c :: cs) = skipNumber (c :: cs) := by
  unfold skipScalar
  -- A digit is none of the characters that tell another kind of scalar.
  split
  · next heq => cases heq
  · next heq =>
    cases heq
    cases hc
  · next heq =>
    cases heq
    cases hc
  · next heq =>
    cases heq
    cases hc
  · next heq =>
    cases heq
    cases hc
  · next heq =>
    cases heq
    cases hc
  · next heq =>
    cases heq
    rw [if_pos hc]

/-- A scalar is passed over in full where something stops a number. The other kinds say themselves
where they end. -/
theorem skipScalar_complete {scalar rest : List Char} (h : ScalarText scalar) (hrest : Stops rest) :
    skipScalar (scalar ++ rest) = .ok ((), rest) := by
  cases h with
  | nullWord => exact readLetters_eq_ok_iff.2 rfl
  | trueWord => exact readLetters_eq_ok_iff.2 rfl
  | falseWord => exact readLetters_eq_ok_iff.2 rfl
  | string hstring =>
    obtain ⟨tail, rfl, hskip⟩ := hstring.exists_tail
    exact hskip rest
  | number hnumber =>
    have hskip := skipNumber_complete hnumber hrest
    obtain ⟨c, tail, rfl, hc⟩ := hnumber.exists_cons
    rw [List.cons_append, skipScalar_digit hc, ← List.cons_append, hskip]
  | negative hnumber => exact skipNumber_complete hnumber hrest

/-- A character that a value may start with. -/
def IsStart (c : Char) : Prop :=
  c ∉ [' ', '\t', '\n', '\r', ',', ']', '\x7d']

instance (c : Char) : Decidable (IsStart c) :=
  inferInstanceAs (Decidable (c ∉ _))

/-- A value may start with a digit. -/
theorem isStart_of_isDigit {c : Char} (h : c.isDigit = true) : IsStart c := by
  intro hmem
  simp only [List.mem_cons, List.not_mem_nil, or_false] at hmem
  obtain rfl | rfl | rfl | rfl | rfl | rfl | rfl := hmem <;> cases h

/-- A value does not start with a blank. -/
theorem IsStart.isSpace {c : Char} (h : IsStart c) : isSpace c = false :=
  Bool.eq_false_iff.2 fun hspace =>
    h (List.mem_append_left [',', ']', '\x7d'] (isSpace_iff.1 hspace))

/-- A scalar starts with a character that a value may start with and that opens no container. -/
theorem ScalarText.exists_cons {cs : List Char} (h : ScalarText cs) :
    ∃ c tail, cs = c :: tail ∧ IsStart c ∧ c ≠ '[' ∧ c ≠ '\x7b' := by
  have hdigit {c : Char} (hc : c.isDigit = true) : c ≠ '[' ∧ c ≠ '\x7b' :=
    ⟨fun heq => by simp [heq] at hc, fun heq => by simp [heq] at hc⟩
  cases h with
  | nullWord => exact ⟨'n', _, rfl, by decide, by decide, by decide⟩
  | trueWord => exact ⟨'t', _, rfl, by decide, by decide, by decide⟩
  | falseWord => exact ⟨'f', _, rfl, by decide, by decide, by decide⟩
  | string hstring =>
    obtain ⟨tail, rfl, -⟩ := hstring.exists_tail
    exact ⟨'"', _, rfl, by decide, by decide, by decide⟩
  | number hnumber =>
    obtain ⟨c, tail, rfl, hc⟩ := hnumber.exists_cons
    exact ⟨c, tail, rfl, isStart_of_isDigit hc, hdigit hc⟩
  | negative => exact ⟨'-', _, rfl, by decide, by decide, by decide⟩

/-! ### Items of a container -/

/-- The character that opens a container. -/
def Container.opener : Container → Char
  | .list => '['
  | .object => '\x7b'

/-- The text of an item with a given value. -/
def Container.itemText : Container → List Char → List Char → Prop
  | .list => ElementText
  | .object => LooseMemberText

/-- What comes in an item before its value, up to blanks. -/
inductive Lead : Container → List Char → Prop where
  | element : Lead .list []
  | member {key spaces : List Char} : LooseStringText key → Spaces spaces →
    Lead .object (key ++ (spaces ++ [':']))

/-- Items in a container are a value, for containers of either kind. -/
theorem ValueText.container (container : Container) {values : List (List Char)} {cs : List Char}
    (hvalues : ∀ value ∈ values, ValueText value)
    (h : Enclosed container.itemText container.opener container.closer values cs) :
    ValueText cs := by
  cases container with
  | list => exact .list hvalues h
  | object => exact .object hvalues h

/-- What is passed over before the value of an item leads to it. -/
theorem skipToItem_sound {container : Container} {left rest : List Char}
    (h : skipToItem container left = .ok ((), rest)) :
    ∃ before lead, Spaces before ∧ Lead container lead ∧ left = before ++ (lead ++ rest) := by
  unfold skipToItem at h
  split at h
  · cases h
    exact ⟨[], [], spaces_nil, .element, rfl⟩
  · split at h
    · exact absurd h failBefore_ne_ok
    · next heq =>
      obtain ⟨before, hbefore, rfl⟩ := exists_spaces_of_skipSpace heq
      obtain ⟨⟨⟨⟩, after⟩, hstring, hcolon⟩ := bind_eq_ok_iff.1 h
      obtain ⟨key, hkey, hleft⟩ := skipString_eq_ok_iff.1 hstring
      obtain ⟨spaces, hspaces, rfl⟩ := skipColon_eq_ok_iff.1 hcolon
      exact ⟨before, _, hbefore, .member hkey hspaces, by rw [hleft]; simp⟩
    · exact absurd h failAfter_ne_ok

/-- Before a value and blanks, what leads to it makes an item. -/
theorem Lead.exists_itemText {container : Container} {lead before after value : List Char}
    (h : Lead container lead) (hbefore : Spaces before) (hafter : Spaces after) :
    ∃ spaces text, Spaces spaces ∧ container.itemText value text ∧
      before ++ (lead ++ (after ++ value)) = spaces ++ text := by
  cases h with
  | element => exact ⟨before ++ after, value, hbefore.append hafter, .mk value, by simp⟩
  | member hkey hspaces => exact ⟨before, _, hbefore, .mk hkey hspaces hafter, by simp⟩

/-- Going to the value of an item leaves it, with blanks before it. -/
theorem skipToItem_complete {container : Container} {value text before : List Char}
    (h : container.itemText value text) (hbefore : Spaces before) (rest : List Char) :
    ∃ spaces, Spaces spaces ∧
      skipToItem container (before ++ (text ++ rest)) = .ok ((), spaces ++ (value ++ rest)) := by
  cases container with
  | list =>
    obtain ⟨⟩ := h
    exact ⟨before, hbefore, rfl⟩
  | object =>
    obtain ⟨hkey, hspaces, hafter⟩ := h
    rename_i key spaces after
    obtain ⟨tail, rfl, hskip⟩ := hkey.exists_tail
    refine ⟨after, hafter, ?_⟩
    rw [skipToItem, List.cons_append, List.cons_append, skipSpace_spaces_cons hbefore rfl]
    refine bind_eq_ok_iff.2 ⟨((), spaces ++ ':' :: (after ++ (value ++ rest))), ?_, ?_⟩
    · simpa using hskip (spaces ++ ':' :: (after ++ (value ++ rest)))
    · exact skipColon_eq_ok_iff.2 ⟨spaces, hspaces, rfl⟩

/-! ### Steps

What a machine with a stack does at each kind of place, as equations. -/

section Steps

variable {stack : List Container} {left : List Char}

/-- Where a container is opened, its first item or its end comes next. -/
theorem skipOpen_opener (container : Container) {rest : List Char}
    (h : skipSpace left = container.opener :: rest) :
    skipOpen .value stack left = skipOpen .itemOrEnd (container :: stack) rest := by
  cases container with
  -- Of the three branches the list decides for the first.
  | list =>
    rw [skipOpen]
    split
    · next heq =>
      cases h.symm.trans heq
      rfl
    · next heq => cases h.symm.trans heq
    · next hlist _ => exact absurd h (hlist rest)
  | object =>
    rw [skipOpen]
    split
    · next heq => cases h.symm.trans heq
    · next heq =>
      cases h.symm.trans heq
      rfl
    · next hobject => exact absurd h (hobject rest)

/-- Where a scalar comes, it is passed over, and then what follows an item. -/
theorem skipOpen_scalar {c : Char} {cs rest : List Char} (h : skipSpace left = c :: cs)
    (hlist : c ≠ '[') (hobject : c ≠ '\x7b') (hscalar : skipScalar (c :: cs) = .ok ((), rest)) :
    skipOpen .value stack left = skipOpen .commaOrEnd stack rest := by
  rw [← h] at hscalar
  rw [skipOpen]
  split
  · next heq => exact absurd (List.cons.inj (h.symm.trans heq)).1 hlist
  · next heq => exact absurd (List.cons.inj (h.symm.trans heq)).1 hobject
  · split
    · next heq => cases hscalar.symm.trans heq
    · next heq =>
      cases hscalar.symm.trans heq
      rfl

/-- A container may end before its first item. -/
theorem skipOpen_firstEnd {container : Container} {rest : List Char}
    (h : skipSpace left = container.closer :: rest) :
    skipOpen .itemOrEnd (container :: stack) left = skipOpen .commaOrEnd stack rest := by
  rw [skipOpen]
  split
  · next heq => cases h.symm.trans heq
  · next heq =>
    cases h.symm.trans heq
    exact if_pos rfl

/-- Where it does not end, what leads to the first value is passed over. -/
theorem skipOpen_firstItem {container : Container} {c : Char} {cs rest : List Char}
    (h : skipSpace left = c :: cs) (hc : c ≠ container.closer)
    (hitem : skipToItem container (c :: cs) = .ok ((), rest)) :
    skipOpen .itemOrEnd (container :: stack) left = skipOpen .value (container :: stack) rest := by
  conv_lhs => rw [skipOpen]
  split
  · next heq => cases h.symm.trans heq
  · next heq =>
    cases h.symm.trans heq
    rw [if_neg hc]
    split
    · next heq => cases hitem.symm.trans heq
    · next heq =>
      cases hitem.symm.trans heq
      rfl

/-- A container may end after an item. -/
theorem skipOpen_end {container : Container} {rest : List Char}
    (h : skipSpace left = container.closer :: rest) :
    skipOpen .commaOrEnd (container :: stack) left = skipOpen .commaOrEnd stack rest := by
  rw [skipOpen]
  split
  · next heq => cases h.symm.trans heq
  · next heq =>
    cases h.symm.trans heq
    exact if_pos rfl

/-- After a comma another item has to come. -/
theorem skipOpen_comma {container : Container} {cs rest : List Char}
    (h : skipSpace left = ',' :: cs) (hitem : skipToItem container cs = .ok ((), rest)) :
    skipOpen .commaOrEnd (container :: stack) left = skipOpen .value (container :: stack) rest := by
  conv_lhs => rw [skipOpen]
  split
  · next heq => cases h.symm.trans heq
  · next heq =>
    cases h.symm.trans heq
    -- The comma closes no container.
    rw [if_neg (by cases container <;> decide), if_pos rfl]
    split
    · next heq => cases hitem.symm.trans heq
    · next heq =>
      cases hitem.symm.trans heq
      rfl

end Steps

/-! ### What is passed over is a value -/

/-- What is accepted after a value inside of the containers that are open. -/
inductive Closes : List Container → List Char → Prop where
  | nil : Closes [] []
  | cons {container : Container} {stack : List Container} {values : List (List Char)}
    {following cs : List Char} : (∀ value ∈ values, ValueText value) →
    Following container.itemText container.closer values following → Closes stack cs →
    Closes (container :: stack) (following ++ cs)

/-- What is accepted at a place inside of the containers that are open. -/
inductive Finishes : Expecting → List Container → List Char → Prop where
  | value {stack : List Container} {spaces value cs : List Char} :
    Spaces spaces → ValueText value → Closes stack cs →
    Finishes .value stack (spaces ++ (value ++ cs))
  | none : Finishes .itemOrEnd [] []
  | itemOrEnd {container : Container} {stack : List Container} {values : List (List Char)}
    {items cs : List Char} : (∀ value ∈ values, ValueText value) →
    Enclosed container.itemText container.opener container.closer values
      (container.opener :: items) → Closes stack cs →
    Finishes .itemOrEnd (container :: stack) (items ++ cs)
  | commaOrEnd {stack : List Container} {cs : List Char} : Closes stack cs →
    Finishes .commaOrEnd stack cs

/-- What is accepted after an item closes the containers that are open. -/
theorem Finishes.closes {stack : List Container} {cs : List Char}
    (h : Finishes .commaOrEnd stack cs) : Closes stack cs := by
  cases h with
  | commaOrEnd hcloses => exact hcloses

/-- A container with what is accepted after it was opened is a value with what is accepted after
it. -/
theorem Finishes.of_opener (container : Container) {stack : List Container}
    {left after rest : List Char} (h : skipSpace left = container.opener :: after)
    (hafter : ∃ cs, Finishes .itemOrEnd (container :: stack) cs ∧ after = cs ++ rest) :
    ∃ cs, Finishes .value stack cs ∧ left = cs ++ rest := by
  obtain ⟨spaces, hspaces, rfl⟩ := exists_spaces_of_skipSpace h
  obtain ⟨_, hfinishes, rfl⟩ := hafter
  cases hfinishes with
  | itemOrEnd hvalues hitems hcloses =>
    exact ⟨_, .value hspaces (.container container hvalues hitems) hcloses, by simp⟩

/-- What leads to the value of an item makes an item of what is accepted there. -/
theorem Finishes.exists_item {container : Container} {stack : List Container}
    {before lead cs : List Char} (h : Finishes .value (container :: stack) cs)
    (hbefore : Spaces before) (hlead : Lead container lead) :
    ∃ spaces value text after, Spaces spaces ∧ ValueText value ∧ container.itemText value text ∧
      Closes (container :: stack) after ∧
      before ++ (lead ++ cs) = spaces ++ (text ++ after) := by
  cases h with
  | value hspaces hvalue hcloses =>
    rename_i inner value after
    obtain ⟨spaces, text, hspaces', htext, heq⟩ := hlead.exists_itemText hbefore hspaces
    refine ⟨spaces, value, text, after, hspaces', hvalue, htext, hcloses, ?_⟩
    simpa using congrArg (· ++ after) heq

/-- What is passed over at a place is accepted there. -/
theorem skipOpen_sound {expecting : Expecting} {stack : List Container} {left rest : List Char}
    (h : skipOpen expecting stack left = .ok ((), rest)) :
    ∃ cs, Finishes expecting stack cs ∧ left = cs ++ rest := by
  -- One case per step: what the step takes goes before what is accepted at the next place.
  fun_induction skipOpen expecting stack left with
  | case1 left stack after heq ih => exact Finishes.of_opener .list heq (ih h)
  | case2 left stack after heq ih => exact Finishes.of_opener .object heq (ih h)
  | case3 | case8 | case13 => cases h
  -- A scalar, with the blanks before it.
  | case4 left stack _ _ _ after hscalar ih =>
    obtain ⟨spaces, hspaces, hleft⟩ := exists_spaces left
    obtain ⟨scalar, hvalue, hstart⟩ := skipScalar_sound hscalar
    obtain ⟨_, hfinishes, rfl⟩ := ih h
    exact ⟨_, .value hspaces (.scalar hvalue) hfinishes.closes, by rw [hleft, hstart]; simp⟩
  | case5 =>
    cases h
    exact ⟨[], .none, rfl⟩
  | case10 =>
    cases h
    exact ⟨[], .commaOrEnd .nil, rfl⟩
  | case6 | case11 => exact absurd h failBefore_ne_ok
  -- The end of an empty container.
  | case7 left container stack after heq ih =>
    obtain ⟨spaces, hspaces, rfl⟩ := exists_spaces_of_skipSpace heq
    obtain ⟨_, hfinishes, rfl⟩ := ih h
    exact ⟨_, .itemOrEnd (List.forall_mem_nil _) (.empty hspaces) hfinishes.closes, by simp⟩
  -- The first item of a container, which its value and what leads to it make up.
  | case9 left container stack c cs heq hc _ after hitem ih =>
    obtain ⟨spaces, hspaces, rfl⟩ := exists_spaces_of_skipSpace heq
    obtain ⟨before, lead, hbefore, hlead, hleft⟩ := skipToItem_sound hitem
    obtain ⟨_, hfinishes, rfl⟩ := ih h
    obtain ⟨inner, value, text, _, hinner, hvalue, htext, hcloses, hcs⟩ :=
      hfinishes.exists_item (hspaces.append hbefore) hlead
    cases hcloses with
    | cons hvalues hfollowing hcloses =>
      refine ⟨_, .itemOrEnd (List.forall_mem_cons.2 ⟨hvalue, hvalues⟩)
        (.items hinner htext hfollowing) hcloses, ?_⟩
      rw [hleft]
      simpa using congrArg (· ++ rest) hcs
  -- The end of a container after an item.
  | case12 left container stack after heq ih =>
    obtain ⟨spaces, hspaces, rfl⟩ := exists_spaces_of_skipSpace heq
    obtain ⟨_, hfinishes, rfl⟩ := ih h
    exact ⟨_, .commaOrEnd (.cons (List.forall_mem_nil _) (.close hspaces) hfinishes.closes),
      by simp⟩
  -- A comma and another item.
  | case14 left container stack cs _ after hitem heq hc ih =>
    obtain ⟨spaces, hspaces, rfl⟩ := exists_spaces_of_skipSpace heq
    obtain ⟨before, lead, hbefore, hlead, rfl⟩ := skipToItem_sound hitem
    obtain ⟨_, hfinishes, rfl⟩ := ih h
    obtain ⟨inner, value, text, _, hinner, hvalue, htext, hcloses, hcs⟩ :=
      hfinishes.exists_item hbefore hlead
    cases hcloses with
    | cons hvalues hfollowing hcloses =>
      refine ⟨_, .commaOrEnd (.cons (List.forall_mem_cons.2 ⟨hvalue, hvalues⟩)
        (.more hspaces hinner htext hfollowing) hcloses), ?_⟩
      simpa using congrArg (spaces ++ ',' :: · ++ rest) hcs
  | case15 => exact absurd h failAfter_ne_ok

/-- What is passed over is a value after blanks. -/
theorem skipValue_sound {left rest : List Char} (h : skipValue left = .ok ((), rest)) :
    ∃ spaces value, Spaces spaces ∧ ValueText value ∧ left = spaces ++ (value ++ rest) := by
  -- Nothing is open after the value.
  obtain ⟨_, ⟨hspaces, hvalue, ⟨⟩⟩, rfl⟩ := skipOpen_sound h
  exact ⟨_, _, hspaces, hvalue, by simp⟩

/-! ### Any value is passed over -/

/-- Passing over a value leaves the containers open that were. -/
def Passes (value : List Char) : Prop :=
  ∀ (stack : List Container) (spaces rest : List Char), Spaces spaces → Stops rest →
    skipOpen .value stack (spaces ++ (value ++ rest)) = skipOpen .commaOrEnd stack rest

/-- Scalars leave the stack alone. -/
theorem ScalarText.passes {scalar : List Char} (h : ScalarText scalar) : Passes scalar := by
  intro stack spaces rest hspaces hrest
  have hscalar := skipScalar_complete h hrest
  obtain ⟨c, tail, rfl, hstart, hlist, hobject⟩ := h.exists_cons
  exact skipOpen_scalar (skipSpace_spaces_cons hspaces hstart.isSpace _) hlist hobject hscalar

/-- A value starts with a character that is neither blank nor closes anything. -/
theorem ValueText.exists_cons {cs : List Char} (h : ValueText cs) :
    ∃ c tail, cs = c :: tail ∧ IsStart c := by
  cases h with
  | scalar hscalar =>
    obtain ⟨c, tail, rfl, hstart, -⟩ := hscalar.exists_cons
    exact ⟨c, tail, rfl, hstart⟩
  | list _ hitems => cases hitems <;> exact ⟨'[', _, rfl, by decide⟩
  | object _ hitems => cases hitems <;> exact ⟨'\x7b', _, rfl, by decide⟩

/-- An item does not start like blanks or like the end of its container. -/
theorem Container.itemText.exists_cons {container : Container} {value text : List Char}
    (h : container.itemText value text) (hvalue : ValueText value) :
    ∃ c tail, text = c :: tail ∧ IsStart c := by
  cases container with
  | list =>
    obtain ⟨⟩ := h
    exact hvalue.exists_cons
  | object =>
    obtain ⟨hkey, -, -⟩ := h
    obtain ⟨tail, rfl, -⟩ := hkey.exists_tail
    exact ⟨'"', _, rfl, by decide⟩

section Items

variable {container : Container}

/-- The character that closes a container is no blank. -/
theorem isSpace_closer (container : Container) : isSpace container.closer = false := by
  cases container <;> rfl

/-- The character that closes a container stops a number before it. -/
theorem closer_stops (container : Container) :
    container.closer.isDigit = false ∧ container.closer ∉ ['.', 'e', 'E'] := by
  cases container <;> decide

/-- No value starts with the character that closes a container. -/
theorem IsStart.ne_closer {c : Char} (h : IsStart c) (container : Container) :
    c ≠ container.closer := by
  rintro rfl
  cases container <;> exact h (by decide)

/-- What follows the items of a container is passed over up to its end, after which the container is
no longer open. -/
theorem Following.passes {values : List (List Char)} {cs : List Char}
    (h : Following container.itemText container.closer values cs)
    (hvalues : ∀ value ∈ values, Passes value) (stack : List Container) (rest : List Char) :
    skipOpen .commaOrEnd (container :: stack) (cs ++ rest) = skipOpen .commaOrEnd stack rest := by
  -- A value is followed by what follows the items before it, so a number in it ends there.
  induction h with
  | close hspaces =>
    rw [List.append_assoc]
    exact skipOpen_end (skipSpace_spaces_cons hspaces (isSpace_closer container) rest)
  | more hspaces hbefore htext hfollowing ih =>
    rename_i spaces before value text values cs
    obtain ⟨hvalue, hvalues⟩ := List.forall_mem_cons.1 hvalues
    obtain ⟨inner, hinner, hitem⟩ := skipToItem_complete htext hbefore (cs ++ rest)
    calc skipOpen .commaOrEnd (container :: stack)
          (spaces ++ ',' :: (before ++ (text ++ cs)) ++ rest)
        = skipOpen .commaOrEnd (container :: stack)
            (spaces ++ ',' :: (before ++ (text ++ (cs ++ rest)))) := by simp
      _ = skipOpen .value (container :: stack) (inner ++ (value ++ (cs ++ rest))) :=
        skipOpen_comma (skipSpace_spaces_cons hspaces rfl _) hitem
      _ = skipOpen .commaOrEnd (container :: stack) (cs ++ rest) :=
        hvalue _ _ _ hinner (hfollowing.stops (closer_stops container) rest)
      _ = skipOpen .commaOrEnd stack rest := ih hvalues

/-- A container is opened and closed again, so the stack is as it was. -/
theorem Enclosed.passes (container : Container) {values : List (List Char)} {cs : List Char}
    (h : Enclosed container.itemText container.opener container.closer values cs)
    (htexts : ∀ value ∈ values, ValueText value) (hvalues : ∀ value ∈ values, Passes value) :
    Passes cs := by
  intro stack spaces rest hspaces hrest
  -- The container is open once its first character is passed.
  have hopen {body : List Char} (hcs : cs = container.opener :: body) :
      skipOpen .value stack (spaces ++ (cs ++ rest)) =
        skipOpen .itemOrEnd (container :: stack) (body ++ rest) := by
    refine skipOpen_opener container ?_
    rw [hcs, List.cons_append, skipSpace_spaces_cons hspaces (by cases container <;> rfl)]
  cases h with
  | empty hspaces' =>
    rw [hopen rfl, List.append_assoc]
    exact skipOpen_firstEnd (skipSpace_spaces_cons hspaces' (isSpace_closer container) rest)
  | items hbefore htext hfollowing =>
    rename_i before value text values cs
    obtain ⟨hvalue, hvalues⟩ := List.forall_mem_cons.1 hvalues
    obtain ⟨c, tail, rfl, hc⟩ := htext.exists_cons (htexts value List.mem_cons_self)
    obtain ⟨inner, hinner, hitem⟩ := skipToItem_complete htext spaces_nil (cs ++ rest)
    calc skipOpen .value stack
          (spaces ++ (container.opener :: (before ++ (c :: tail ++ cs)) ++ rest))
        = skipOpen .itemOrEnd (container :: stack) (before ++ c :: (tail ++ (cs ++ rest))) := by
          rw [hopen rfl]
          simp
      _ = skipOpen .value (container :: stack) (inner ++ (value ++ (cs ++ rest))) :=
        skipOpen_firstItem (skipSpace_spaces_cons hbefore hc.isSpace _) (hc.ne_closer container)
          hitem
      _ = skipOpen .commaOrEnd (container :: stack) (cs ++ rest) :=
        hvalue _ _ _ hinner (hfollowing.stops (closer_stops container) rest)
      _ = skipOpen .commaOrEnd stack rest := hfollowing.passes hvalues stack rest

end Items

/-- Values of any depth leave the stack alone. -/
theorem ValueText.passes {value : List Char} (h : ValueText value) : Passes value := by
  -- The induction is over the value, with one case for each kind of container.
  induction h with
  | scalar hscalar => exact hscalar.passes
  | list hvalues hitems ih => exact Enclosed.passes .list hitems hvalues ih
  | object hvalues hitems ih => exact Enclosed.passes .object hitems hvalues ih

/-- Any value is passed over in full. -/
theorem skipValue_complete {spaces value rest : List Char} (hspaces : Spaces spaces)
    (h : ValueText value) (hrest : Stops rest) :
    skipValue (spaces ++ (value ++ rest)) = .ok ((), rest) := by
  rw [skipValue, h.passes [] spaces rest hspaces hrest, skipOpen]

end DonationSite.Json
