import Mathlib.Data.List.Basic
import Mathlib.Logic.Relation
import DonationSite.Proofs.Vat.Locality

/-!
# What a patch takes from an answer

Of an address only its first and its last line that are not blank matter, each without the blanks
around it. How the address is laid out makes no difference: line ends, blank lines, padding, and the
lines between the two.

## Key results

- `ofAnswer?_of_valid`: a patch is made of the stated name and the lines of the address
- `patch_follows_lines`: which texts those are, and that the layout does not matter
-/

namespace DonationSite.Vat

open Text (contentLines trim trimChars isBlankText Tidy)

/-- The lines of an address, without the blanks around each and without blank lines. -/
def linesOf (address : String) : List String :=
  (contentLines address.toList).map String.ofList

/-- An address has no lines exactly if it has none as characters. -/
theorem linesOf_eq_nil_iff {address : String} :
    linesOf address = [] ↔ contentLines address.toList = [] :=
  List.map_eq_nil_iff

/-- Addresses have the same lines as texts exactly if they have the same lines. -/
theorem linesOf_eq_linesOf_iff {address other : String} :
    linesOf other = linesOf address ↔
      contentLines other.toList = contentLines address.toList :=
  List.map_inj_right fun _ _ h => String.ofList_inj.1 h

/-- An address is the one line that says there is none exactly if its characters are. -/
theorem linesOf_eq_dash_iff {address : String} :
    linesOf address = ["---"] ↔ contentLines address.toList = ["---".toList] := by
  have hdash : ["---"] = ["---".toList].map String.ofList := rfl
  rw [linesOf, hdash, List.map_inj_right fun cs ds h => String.ofList_inj.1 h]

/-- A change to the layout of an address. -/
inductive Relaid : String → String → Prop where
  /-- Blank characters are put around it. -/
  | around {before text after : String} : isBlankText before = true → isBlankText after = true →
      Relaid text (before ++ text ++ after)
  /-- Blank characters are put beside a newline: a carriage return, padding of a line, or blank
  lines. -/
  | besideNewline {front before after back : String} : isBlankText before = true →
      isBlankText after = true →
      Relaid (front ++ "\n" ++ back) (front ++ before ++ "\n" ++ after ++ back)
  /-- Lines are put between others. -/
  | between {front middle back : String} : isBlankText front = false → isBlankText back = false →
      Relaid (front ++ "\n" ++ back) (front ++ "\n" ++ middle ++ "\n" ++ back)

/-- A newline divides the lines of a text into those before it and those after it. -/
theorem contentLines_newline (front back : String) :
    contentLines (front ++ "\n" ++ back).toList =
      contentLines front.toList ++ contentLines back.toList := by
  rw [← Text.contentLines_append, String.toList_append, String.toList_append, List.append_assoc]
  rfl

/-- A text that is not blank has a line. -/
theorem contentLines_ne_nil {text : String} (h : isBlankText text = false) :
    contentLines text.toList ≠ [] := by
  rw [ne_eq, Text.contentLines_eq_nil_iff, Text.trimChars_eq_nil_iff, ← List.all_eq_true]
  exact Bool.eq_false_iff.1 h

/-! ### Texts that an answer states -/

/-- A text is stated if it is written, is not blank, and is not the mark for a text that is not
available; it is stated without the blanks around it. -/
theorem stated?_eq_some_iff {value : Option String} {text : String} :
    stated? value = some text ↔
      ∃ written, value = some written ∧ text = trim written ∧ text ≠ "" ∧ text ≠ "---" := by
  rw [stated?, Option.filter_eq_some_iff, Option.map_eq_some_iff]
  simp only [Bool.and_eq_true, Bool.not_eq_true', String.isEmpty_eq_false_iff, bne_iff_ne,
    unavailable]
  constructor
  · rintro ⟨⟨written, hvalue, rfl⟩, hne⟩
    exact ⟨written, hvalue, rfl, hne⟩
  · rintro ⟨written, hvalue, rfl, hne⟩
    exact ⟨⟨written, hvalue, rfl⟩, hne⟩

/-- A stated text is tidy. -/
theorem tidy_of_stated? {value : Option String} {text : String} (h : stated? value = some text) :
    Tidy text.toList := by
  obtain ⟨written, -, rfl, hne, -⟩ := stated?_eq_some_iff.1 h
  rw [Text.toList_trim]
  refine Text.tidy_trimChars fun hnil => hne ?_
  rw [trim, hnil, String.ofList_nil]

/-- No address is stated if there is no line, or only one that says so. -/
theorem stated?_eq_none_iff {address : String} : stated? (some address) = none ↔
    contentLines address.toList = [] ∨ contentLines address.toList = ["---".toList] := by
  -- Both cases are about the trimmed text, which has the same lines.
  have hempty : trim address = "" ↔ contentLines address.toList = [] := by
    rw [Text.contentLines_eq_nil_iff, ← Text.toList_trim, String.toList_eq_nil_iff]
  have hdash : trim address = "---" ↔ contentLines address.toList = ["---".toList] := by
    rw [Text.contentLines_eq_singleton_iff, and_iff_left (by decide), ← Text.toList_trim,
      String.toList_inj]
  rw [← hempty, ← hdash, stated?, Option.map_some, Option.filter_eq_none_iff]
  simp only [Option.some.injEq, forall_eq', Bool.and_eq_true, Bool.not_eq_true',
    String.isEmpty_eq_false_iff, bne_iff_ne, unavailable]
  rw [not_and_or, not_ne_iff, not_ne_iff]

namespace Patch

/-- A patch with what the lines of an address fill in. One line may say that there is no address. -/
def withAddress (patch : Patch) (lines : List (List Char)) : Patch :=
  if lines = ["---".toList] then patch else patch.withLines lines

/-- A patch is made of the stated name and the lines of the address. -/
theorem ofAnswer?_of_valid {answer : Answer} (h : answer.valid = true) :
    ofAnswer? answer = some (({ name := stated? answer.name } : Patch).withAddress
      (answer.address.elim [] fun address => contentLines address.toList)) := by
  rw [ofAnswer?, if_pos h]
  cases answer.address with
  | none => rfl
  | some address =>
    cases hstated : stated? (some address) with
    -- Nothing is stated, so there are no lines or the one that says so.
    | none =>
      rcases stated?_eq_none_iff.1 hstated with hnil | hdash
      · simp [hnil, withAddress, withLines]
      · simp [hdash, withAddress]
    | some text =>
      obtain ⟨written, hwritten, rfl, -, -⟩ := stated?_eq_some_iff.1 hstated
      cases hwritten
      have hdash : contentLines address.toList ≠ ["---".toList] := fun hdash => by
        rw [stated?_eq_none_iff.2 (.inr hdash)] at hstated
        cases hstated
      -- The lines are taken of the trimmed address, which has the same ones.
      show some (withLines _ (addressLines (trim address))) = _
      rw [Option.elim_some, withAddress, if_neg hdash, addressLines_eq, Text.toList_trim,
        Text.contentLines_trimChars]

variable {patch : Patch} {lines : List (List Char)}

/-- Only the first and the last line are filled in. -/
theorem withLines_congr {others : List (List Char)} (hfirst : lines.head? = others.head?)
    (hlast : lines.getLast? = others.getLast?) :
    patch.withLines lines = patch.withLines others := by
  rw [withLines, withLines, hfirst, hlast]

/-- The lines of an address do not touch the name. -/
theorem name_withAddress : (patch.withAddress lines).name = patch.name := by
  unfold withAddress withLines
  split
  · rfl
  · split <;> rfl

/-- No lines, or the one that says there is no address, fill in nothing. -/
theorem withAddress_of_silent (h : lines = [] ∨ lines = ["---".toList]) :
    patch.withAddress lines = patch := by
  rcases h with rfl | rfl
  · rfl
  · exact if_pos rfl

/-- Lines that say something fill in the first one as the address and the last one as city and
postcode. -/
theorem withAddress_of_ends {first last : List Char} (hdash : lines ≠ ["---".toList])
    (hfirst : lines.head? = some first) (hlast : lines.getLast? = some last) :
    patch.withAddress lines =
      { patch with
        address := some (String.ofList first)
        city := some (Locality.ofLine last).city
        postcode := (Locality.ofLine last).postcode } := by
  rw [withAddress, if_neg hdash, withLines, hfirst, hlast]

/-- What a patch can hold: a stated name, and either nothing else or what a first and a last line
fill in, which may be the same line. -/
theorem ofAnswer?_cases {answer : Answer} (h : ofAnswer? answer = some patch) :
    patch = { name := stated? answer.name } ∨
    ∃ first last, (Tidy first ∧ '\n' ∉ first) ∧ (Tidy last ∧ '\n' ∉ last) ∧
      patch =
        { name := stated? answer.name
          address := some (String.ofList first)
          city := some (Locality.ofLine last).city
          postcode := (Locality.ofLine last).postcode } := by
  have hvalid : answer.valid = true := by
    rw [ofAnswer?, Option.ite_none_right_eq_some] at h
    exact h.1
  rw [ofAnswer?_of_valid hvalid, Option.some.injEq] at h
  subst h
  cases answer.address with
  | none => exact .inl rfl
  | some address =>
    rw [Option.elim_some]
    by_cases hdash : contentLines address.toList = ["---".toList]
    · exact .inl (withAddress_of_silent (.inr hdash))
    · by_cases hnil : contentLines address.toList = []
      · exact .inl (withAddress_of_silent (.inl hnil))
      · have hfirst := List.head?_eq_some_head hnil
        have hlast := List.getLast?_eq_some_getLast hnil
        exact .inr ⟨_, _, Text.of_mem_contentLines (List.head_mem hnil),
          Text.of_mem_contentLines (List.getLast_mem hnil), withAddress_of_ends hdash hfirst hlast⟩

/-! ### The layout of an address -/

/-- Lines between others fill in nothing. -/
theorem withAddress_between {front back : List (List Char)} (hfront : front ≠ [])
    (hback : back ≠ []) (middle : List (List Char)) :
    patch.withAddress (front ++ (middle ++ back)) = patch.withAddress (front ++ back) := by
  -- With a line on either side there are two at least, and what they say is not looked at.
  have hmany {rest : List (List Char)} (hrest : rest ≠ []) : front ++ rest ≠ ["---".toList] := by
    rw [ne_eq, List.append_eq_singleton_iff]
    simp [hfront, hrest]
  have hmiddle : middle ++ back ≠ [] := List.append_ne_nil_of_right_ne_nil middle hback
  rw [withAddress, withAddress, if_neg (hmany hmiddle), if_neg (hmany hback)]
  refine withLines_congr ?_ ?_
  · obtain ⟨first, rest, rfl⟩ := List.exists_cons_of_ne_nil hfront
    rfl
  · rw [List.getLast?_append_of_ne_nil _ hmiddle, List.getLast?_append_of_ne_nil _ hback,
      List.getLast?_append_of_ne_nil _ hback]

/-- A change to the layout of an address makes no difference. -/
theorem withAddress_of_relaid {address other : String} (h : Relaid address other) :
    patch.withAddress (contentLines other.toList) =
      patch.withAddress (contentLines address.toList) := by
  cases h with
  | around hbefore hafter =>
    -- Blanks at the front and at the back belong to no line.
    rw [String.toList_append, String.toList_append,
      Text.contentLines_append_blank (List.all_eq_true.1 hafter),
      Text.contentLines_blank_append (List.all_eq_true.1 hbefore)]
  | @besideNewline front before after back hbefore hafter =>
    have hlines : contentLines (front ++ before ++ "\n" ++ after ++ back).toList =
        contentLines (front.toList ++ before.toList) ++
          contentLines (after.toList ++ back.toList) := by
      rw [← Text.contentLines_append]
      simp
    -- Blanks before the newline end the lines of the front, and those after it start those of the
    -- back.
    rw [hlines, Text.contentLines_append_blank (List.all_eq_true.1 hbefore),
      Text.contentLines_blank_append (List.all_eq_true.1 hafter), contentLines_newline]
  | @between front middle back hfront hback =>
    rw [contentLines_newline, contentLines_newline, contentLines_newline, List.append_assoc]
    exact withAddress_between (contentLines_ne_nil hfront) (contentLines_ne_nil hback) _

/-- Nor does any number of changes, made or taken back. -/
theorem withAddress_of_eqvGen {address other : String}
    (h : Relation.EqvGen Relaid address other) :
    patch.withAddress (contentLines other.toList) =
      patch.withAddress (contentLines address.toList) := by
  induction h with
  | rel address other hrelaid => exact withAddress_of_relaid hrelaid
  | refl address => rfl
  | symm address other _ ih => exact ih.symm
  | trans address between other _ _ hfirst hsecond => exact hsecond.trans hfirst

/-! ### The patch of a valid answer -/

/-- A valid answer fills in the name without the blanks around it, unless nothing is left or it says
that there is none. Of the lines of the address, if there are any but one that says that there is
none, the first is filled in as the address, and postcode and city are those of the last one. So an
address with the same lines, or one that is only laid out differently, fills in the same. -/
theorem patch_follows_lines {answer : Answer} (hvalid : answer.valid = true) :
    ∃ patch, ofAnswer? answer = some patch ∧
      (∀ text, patch.name = some text ↔ ∃ written, answer.name = some written ∧
        text = trim written ∧ text ≠ "" ∧ text ≠ "---") ∧
      (answer.address = none →
        patch.address = none ∧ patch.city = none ∧ patch.postcode = none) ∧
      ∀ address, answer.address = some address →
        (linesOf address = [] ∨ linesOf address = ["---"] →
          patch.address = none ∧ patch.city = none ∧ patch.postcode = none) ∧
        (∀ first last, linesOf address ≠ ["---"] → (linesOf address).head? = some first →
          (linesOf address).getLast? = some last →
          patch.address = some first ∧ patch.postcode = (Locality.parse last).postcode ∧
            patch.city = some (Locality.parse last).city) ∧
        ∀ other, linesOf other = linesOf address ∨ Relation.EqvGen Relaid address other →
          ofAnswer? { answer with address := some other } = some patch := by
  refine ⟨_, ofAnswer?_of_valid hvalid, fun text => ?_, fun hnone => ?_, fun address hsome => ?_⟩
  · rw [name_withAddress]
    exact stated?_eq_some_iff
  · rw [hnone]
    exact ⟨rfl, rfl, rfl⟩
  · rw [hsome, Option.elim_some]
    refine ⟨fun hsilent => ?_, fun first last hdash hfirst hlast => ?_, fun other hother => ?_⟩
    -- The texts of the lines are looked at as characters.
    · rw [linesOf_eq_nil_iff, linesOf_eq_dash_iff] at hsilent
      rw [withAddress_of_silent hsilent]
      exact ⟨rfl, rfl, rfl⟩
    · rw [ne_eq, linesOf_eq_dash_iff] at hdash
      rw [linesOf, List.head?_map, Option.map_eq_some_iff] at hfirst
      rw [linesOf, List.getLast?_map, Option.map_eq_some_iff] at hlast
      obtain ⟨firstLine, hfirst, rfl⟩ := hfirst
      obtain ⟨lastLine, hlast, rfl⟩ := hlast
      rw [withAddress_of_ends hdash hfirst hlast, Locality.parse, String.toList_ofList]
      exact ⟨rfl, rfl, rfl⟩
    · rcases hother with hlines | hrelaid
      · rw [← linesOf_eq_linesOf_iff.1 hlines]
        exact ofAnswer?_of_valid hvalid
      · rw [← withAddress_of_eqvGen hrelaid]
        exact ofAnswer?_of_valid hvalid

/-- A valid answer with a padded name and an address of two lines. -/
def twoLines : Answer :=
  { valid := true, name := some " ACME s.r.o. ", address := some "Street 1\nTown  999" }

/-- The address of `twoLines` with another line end, a blank line, padding, and a line between. -/
theorem patch_follows_twoLines :
    twoLines.valid = true ∧
      ofAnswer? twoLines = some ⟨some "ACME s.r.o.", some "Street 1", some "Town", some "999"⟩ ∧
      Relation.EqvGen Relaid "Street 1\nTown  999" "Street 1\nQuarter 2\nTown  999" ∧
      Relation.EqvGen Relaid "Street 1\nTown  999" "Street 1\r\n \n  Town  999" ∧
      ∀ address ∈ ["Street 1\nQuarter 2\nTown  999", "Street 1\r\n \n  Town  999"],
        ofAnswer? { twoLines with address := some address } = ofAnswer? twoLines := by
  have hvalid : twoLines.valid = true := rfl
  -- The two changes: a line put in between, and the whole layout beside the newline.
  have hbetween : Relation.EqvGen Relaid "Street 1\nTown  999" "Street 1\nQuarter 2\nTown  999" :=
    .rel _ _ (show Relaid ("Street 1" ++ "\n" ++ "Town  999")
      ("Street 1" ++ "\n" ++ "Quarter 2" ++ "\n" ++ "Town  999") from .between rfl rfl)
  have hbeside : Relation.EqvGen Relaid "Street 1\nTown  999" "Street 1\r\n \n  Town  999" :=
    .rel _ _ (show Relaid ("Street 1" ++ "\n" ++ "Town  999")
      ("Street 1" ++ "\r" ++ "\n" ++ " \n  " ++ "Town  999") from .besideNewline rfl rfl)
  obtain ⟨patch, hpatch, -, -, haddress⟩ := patch_follows_lines hvalid
  obtain ⟨-, -, hrelaid⟩ := haddress _ rfl
  refine ⟨hvalid, by decide, hbetween, hbeside, ?_⟩
  rw [List.forall_mem_cons, List.forall_mem_singleton, hpatch]
  exact ⟨hrelaid _ (.inr hbetween), hrelaid _ (.inr hbeside)⟩

end Patch

end DonationSite.Vat
